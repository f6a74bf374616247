import MultiarchTuning.PodPlacement.Reconciler

/-!
# The scheduling-gate mutating webhook

`PodSchedulingGateMutatingWebHook.Handle` (`scheduling_gate_mutating_webhook.go`) runs on the creation of every pod
that the `MutatingWebhookConfiguration` of `buildMutatingWebhookConfiguration` (`controllers/operator/objects.go`)
routes to it. It labels the pod as not yet processed, asks `shouldIgnorePod`, and unless the pod is ignored adds the
operator's scheduling gate and labels the pod as gated. The response is the patch from the decoded pod to the result;
the model returns the result. Events, metrics and the goroutine that publishes the gated event are not modelled.

The webhook configuration passes the `namespaceSelector` of the `ClusterPodPlacementConfig` through unchanged, and the
API server defaults a nil selector of a webhook to the empty one, which selects every namespace: that is
`webhookReceives`.
-/

namespace MultiarchTuning

open Utils

/-- The `namespaceSelector` of the pod webhook of `buildMutatingWebhookConfiguration`, as the API server stores it:
the configuration's selector, or the empty selector when that is nil. -/
def webhookNamespaceSelector (c : ClusterPodPlacementConfig) : LabelSelector :=
  c.spec.namespaceSelector.getD ⟨∅, []⟩

/-- The API server sends the creation of a pod in a namespace labelled `nsLabels` to the webhook. -/
def webhookReceives (c : ClusterPodPlacementConfig) (nsLabels : StrMap) : Bool :=
  labelSelectorMatches (some (webhookNamespaceSelector c)) nsLabels

namespace Pod

/-- The labels `Handle` writes before it asks `shouldIgnorePod`: the preferred affinity as not set when the plugin is
enabled, then the node affinity and the scheduling gate as not set. -/
def handleLabels (pod : Pod) (enabled : Bool) : Pod :=
  let pod := if enabled then pod.ensureLabel preferredNodeAffinityLabel labelValueNotSet else pod
  (pod.ensureLabel nodeAffinityLabel labelValueNotSet).ensureLabel schedulingGateLabel labelValueNotSet

/-- The end of `Handle` on a pod that is not ignored: the gate, then `pod.Labels[SchedulingGateLabel] = gated`, a
direct write into the labels map. -/
def gate (pod : Pod) : Except Go.Panic Pod := do
  let pod := pod.ensureSchedulingGate
  let labels ← Go.assign pod.metadata.labels schedulingGateLabel schedulingGateLabelValueGated
  pure { pod with metadata := { pod.metadata with labels := some labels } }

end Pod

/-- `a.Handle` on the decoded pod of a creation request, with `ns` the operator's namespace. -/
def handle (ns : String) (cppc : Option ClusterPodPlacementConfig) (pod : Pod) : Except Go.Panic Pod := do
  let enabled ← nodeAffinityScoringEnabled cppc
  let pod := pod.handleLabels enabled
  let (ignore, pod) ← pod.shouldIgnorePod ns cppc
  if ignore then return pod
  pod.gate

/-! ## What `Handle` does -/

namespace Pod

theorem handleLabels_labels_isSome (pod : Pod) (enabled : Bool) : (pod.handleLabels enabled).metadata.labels.isSome :=
  ensureLabel_labels_isSome _ _ _

@[simp] theorem handleLabels_spec (pod : Pod) (enabled : Bool) : (pod.handleLabels enabled).spec = pod.spec := by
  unfold handleLabels
  split <;> rfl

theorem handleLabels_metadata (pod : Pod) (enabled : Bool) :
    (pod.handleLabels enabled).metadata = { pod.metadata with labels := (pod.handleLabels enabled).metadata.labels } := by
  unfold handleLabels
  split <;> rfl

/-- On allocated labels the direct write of `gate` is `ensureLabel`, so `gate` never panics there. -/
theorem gate_of_isSome {pod : Pod} (h : pod.metadata.labels.isSome) :
    pod.gate = .ok (pod.ensureSchedulingGate.ensureLabel schedulingGateLabel schedulingGateLabelValueGated) := by
  obtain ⟨ls, hls⟩ := Option.isSome_iff_exists.mp h
  have hg : pod.ensureSchedulingGate.metadata = pod.metadata := by
    unfold ensureSchedulingGate
    split <;> rfl
  simp only [gate, hg, hls, Go.assign_some, Go.ok_bind, Go.pure_eq_ok, ensureLabel, Option.getD_some]

/-- After `ensureSchedulingGate` the pod carries the operator's gate. -/
theorem hasSchedulingGate_ensureSchedulingGate (pod : Pod) : pod.ensureSchedulingGate.hasSchedulingGate = true := by
  unfold ensureSchedulingGate hasSchedulingGate
  split
  · assumption
  · simp

/-- `shouldIgnorePod` keeps the labels it is given allocated. -/
theorem shouldIgnorePod_labels_isSome {pod q : Pod} {ns : String} {cppc : Option ClusterPodPlacementConfig} {b : Bool}
    (h : pod.shouldIgnorePod ns cppc = .ok (b, q)) (hl : pod.metadata.labels.isSome) : q.metadata.labels.isSome := by
  rcases shouldIgnorePod_snd h with rfl | rfl
  · exact hl
  · exact ensureLabel_labels_isSome _ _ _

end Pod

/-- `Handle` once the plugin guard and `shouldIgnorePod` have returned: the ignored pod as `shouldIgnorePod` left it,
or that pod gated. -/
theorem handle_eq {ns : String} {cppc : Option ClusterPodPlacementConfig} {pod q : Pod} {enabled ignore : Bool}
    (he : nodeAffinityScoringEnabled cppc = .ok enabled)
    (hi : (pod.handleLabels enabled).shouldIgnorePod ns cppc = .ok (ignore, q)) :
    handle ns cppc pod =
      .ok (if ignore then q else q.ensureSchedulingGate.ensureLabel schedulingGateLabel schedulingGateLabelValueGated) := by
  have hq : q.metadata.labels.isSome := Pod.shouldIgnorePod_labels_isSome hi (Pod.handleLabels_labels_isSome pod enabled)
  simp only [handle, he, hi, Go.ok_bind]
  cases ignore with
  | true => rfl
  | false => exact Pod.gate_of_isSome hq

end MultiarchTuning
