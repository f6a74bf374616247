import MultiarchTuning.Theorems.NilSafety

/-!
# What the scheduling-gate webhook does to a pod

When `Handle` returns, it changed only the labels and the scheduling gates of the pod (`handle_frame`), and the pod
carries the operator's gate exactly when `shouldIgnorePod` did not ignore it or the user had set that gate already
(`hasSchedulingGate_handle`). A pod is ignored when it is exempt or its architecture is constrained and the plugin
does not ask for a preference (`Pod.shouldIgnorePod_eq`).

The exemption reads the namespace only for the operator's namespace and the `kube-` prefix. The `openshift-` and
`hypershift-` namespaces, which the README says are always excluded, are excluded only if the `namespaceSelector` of
the configuration excludes them, and the webhook configuration passes that selector through as it is. With the README's
own selector, a pod in `openshift-monitoring` reaches the webhook and is gated
(`handle_gates_openshift_namespace`).
-/

namespace MultiarchTuning

open Utils

namespace Pod

/-- The decision of `shouldIgnorePod`: the pod is exempt, or its architecture is constrained and there are no
plugins, the plugin is disabled, or an architecture preference is there. -/
def ignored (pod : Pod) (ns : String) (cppc : Option ClusterPodPlacementConfig) : Bool :=
  pod.isExempt ns || pod.isNodeSelectorConfiguredForArchitecture.1 &&
    match cppc.bind (·.spec.plugins) with
    | none => true
    | some p => !(p.nodeAffinityScoring.map (·.toBasePlugin.isEnabled)).getD false ||
        pod.isPreferredAffinityConfiguredForArchitecture

/-- `shouldIgnorePod`, when it returns, decides `ignored`. -/
theorem shouldIgnorePod_eq {pod q : Pod} {ns : String} {cppc : Option ClusterPodPlacementConfig} {ignore : Bool}
    (h : pod.shouldIgnorePod ns cppc = .ok (ignore, q)) : ignore = pod.ignored ns cppc := by
  unfold ignored
  unfold shouldIgnorePod at h
  by_cases hx : pod.isExempt ns = true
  · rw [if_pos hx, Except.ok.injEq, Prod.mk.injEq] at h
    rw [← h.1, hx, Bool.true_or]
  · rw [if_neg hx] at h
    rw [Bool.eq_false_iff.mpr hx, Bool.false_or]
    have hpref : (pod.isNodeSelectorConfiguredForArchitecture.2).isPreferredAffinityConfiguredForArchitecture =
        pod.isPreferredAffinityConfiguredForArchitecture := by
      rw [isNodeSelectorConfiguredForArchitecture_snd]
      split <;> rfl
    revert h hpref
    generalize pod.isNodeSelectorConfiguredForArchitecture = r
    obtain ⟨configured, q'⟩ := r
    intro h hpref
    cases configured with
    | false =>
      simp only [Bool.not_false, if_true, Except.ok.injEq, Prod.mk.injEq] at h
      rw [← h.1, Bool.false_and]
    | true =>
      simp only [Bool.not_true, Bool.false_eq_true, if_false, Bool.true_and] at h ⊢
      cases cppc with
      | none => cases h
      | some c =>
        cases hp : c.spec.plugins with
        | none =>
          simp only [hp, Go.deref_some, Go.ok_bind, Go.pure_eq_ok, Except.ok.injEq, Prod.mk.injEq] at h
          simp [← h.1, hp]
        | some p =>
          cases hn : p.nodeAffinityScoring with
          | none => simp [hp, hn] at h
          | some nas =>
            simp only [hp, hn, Go.deref_some, Go.ok_bind] at h
            by_cases he : nas.toBasePlugin.isEnabled = true
            · simp only [he, Bool.not_true, Bool.false_eq_true, if_false, Go.pure_eq_ok, Except.ok.injEq,
                Prod.mk.injEq] at h
              simp [← h.1, hp, hn, he, hpref]
            · simp only [he, Bool.not_false, if_true, Go.pure_eq_ok, Except.ok.injEq, Prod.mk.injEq] at h
              simp [← h.1, hp, hn, he]

end Pod

/-- What `Handle` can have done: the plugin guard and `shouldIgnorePod` returned, and the result is the pod they left,
gated unless ignored. -/
theorem handle_inv {ns : String} {cppc : Option ClusterPodPlacementConfig} {pod q : Pod}
    (h : handle ns cppc pod = .ok q) :
    ∃ enabled ignore q0, nodeAffinityScoringEnabled cppc = .ok enabled ∧
      (pod.handleLabels enabled).shouldIgnorePod ns cppc = .ok (ignore, q0) ∧
      q = if ignore then q0 else q0.ensureSchedulingGate.ensureLabel schedulingGateLabel schedulingGateLabelValueGated := by
  have h' := h
  unfold handle at h'
  obtain ⟨enabled, he, h'⟩ := Go.bind_eq_ok h'
  obtain ⟨⟨ignore, q0⟩, hi, -⟩ := Go.bind_eq_ok h'
  rw [handle_eq he hi, Except.ok.injEq] at h
  exact ⟨enabled, ignore, q0, he, hi, h.symm⟩

/-! ## The patch -/

/-- `q` differs from `p` in its labels and its scheduling gates only. -/
structure Pod.WebhookPatch (p q : Pod) : Prop where
  metadata : q.metadata = { p.metadata with labels := q.metadata.labels }
  spec : q.spec = { p.spec with schedulingGates := q.spec.schedulingGates }

namespace Pod

theorem WebhookPatch.refl (p : Pod) : p.WebhookPatch p := ⟨rfl, rfl⟩

theorem WebhookPatch.trans {a b c : Pod} (h : a.WebhookPatch b) (h' : b.WebhookPatch c) : a.WebhookPatch c where
  metadata := by rw [h'.metadata, h.metadata]
  spec := by rw [h'.spec, h.spec]

theorem webhookPatch_ensureLabel (p : Pod) (k v : String) : p.WebhookPatch (p.ensureLabel k v) := ⟨rfl, rfl⟩

theorem webhookPatch_handleLabels (p : Pod) (enabled : Bool) : p.WebhookPatch (p.handleLabels enabled) where
  metadata := handleLabels_metadata p enabled
  spec := by rw [handleLabels_spec]

theorem webhookPatch_ensureSchedulingGate (p : Pod) : p.WebhookPatch p.ensureSchedulingGate := by
  unfold ensureSchedulingGate
  split
  · exact WebhookPatch.refl p
  · exact ⟨rfl, rfl⟩

theorem webhookPatch_shouldIgnorePod {p q : Pod} {ns : String} {cppc : Option ClusterPodPlacementConfig} {b : Bool}
    (h : p.shouldIgnorePod ns cppc = .ok (b, q)) : p.WebhookPatch q := by
  rcases shouldIgnorePod_snd h with rfl | rfl
  · exact WebhookPatch.refl q
  · exact webhookPatch_ensureLabel p _ _

theorem hasSchedulingGate_congr {p q : Pod} (hg : q.spec.schedulingGates = p.spec.schedulingGates) :
    q.hasSchedulingGate = p.hasSchedulingGate := by
  simp only [hasSchedulingGate, hg]

/-- The labels `Handle` writes first change nothing `shouldIgnorePod` decides on. -/
theorem ignored_handleLabels (pod : Pod) (enabled : Bool) (ns : String) (cppc : Option ClusterPodPlacementConfig) :
    (pod.handleLabels enabled).ignored ns cppc = pod.ignored ns cppc := by
  have hup := gatedUpdate_handleLabels pod enabled
  have hspec := handleLabels_spec pod enabled
  have hconf : (pod.handleLabels enabled).isNodeSelectorConfiguredForArchitecture.1 =
      pod.isNodeSelectorConfiguredForArchitecture.1 :=
    isNodeSelectorConfiguredForArchitecture_fst_congr (by rw [hspec]) (requiredSelector?_congr (by rw [hspec]))
  simp only [ignored, isExempt_of_gatedUpdate hup, hconf,
    isPreferredAffinityConfiguredForArchitecture_congr (show (pod.handleLabels enabled).spec.affinity =
      pod.spec.affinity by rw [hspec])]

end Pod

/-- When `Handle` returns, it changed only the labels and the scheduling gates. -/
theorem handle_frame {ns : String} {cppc : Option ClusterPodPlacementConfig} {pod q : Pod}
    (h : handle ns cppc pod = .ok q) : pod.WebhookPatch q := by
  obtain ⟨enabled, ignore, q0, -, hi, rfl⟩ := handle_inv h
  have h0 : pod.WebhookPatch q0 :=
    (Pod.webhookPatch_handleLabels pod enabled).trans (Pod.webhookPatch_shouldIgnorePod hi)
  cases ignore with
  | true => exact h0
  | false =>
    exact (h0.trans (Pod.webhookPatch_ensureSchedulingGate q0)).trans (Pod.webhookPatch_ensureLabel _ _ _)

/-- `Handle` on `unschedulablePod`, with a configuration without plugins, returns a patch of it. -/
theorem handle_frame_unschedulablePod :
    ∃ q, handle "openshift-multiarch-tuning-operator"
        (some ⟨{ (default : ObjectMeta) with name := "cluster" }, ⟨"Normal", none, none⟩, ⟨[]⟩⟩) unschedulablePod = .ok q ∧
      unschedulablePod.WebhookPatch q := by
  obtain ⟨q, hq⟩ : ∃ q, handle "openshift-multiarch-tuning-operator"
      (some ⟨{ (default : ObjectMeta) with name := "cluster" }, ⟨"Normal", none, none⟩, ⟨[]⟩⟩) unschedulablePod = .ok q :=
    handle_ok fun _ hp => by cases hp
  exact ⟨q, hq, handle_frame hq⟩

/-- When `Handle` returns, the pod carries the operator's gate exactly when it is not ignored or had the gate. -/
theorem hasSchedulingGate_handle {ns : String} {cppc : Option ClusterPodPlacementConfig} {pod q : Pod}
    (h : handle ns cppc pod = .ok q) : q.hasSchedulingGate = (!pod.ignored ns cppc || pod.hasSchedulingGate) := by
  obtain ⟨enabled, ignore, q0, -, hi, rfl⟩ := handle_inv h
  have hig : ignore = pod.ignored ns cppc := by
    rw [Pod.shouldIgnorePod_eq hi, Pod.ignored_handleLabels]
  have hg0 : q0.hasSchedulingGate = pod.hasSchedulingGate := by
    apply Pod.hasSchedulingGate_congr
    rcases Pod.shouldIgnorePod_snd hi with rfl | rfl <;> simp
  subst hig
  cases hI : pod.ignored ns cppc with
  | true => simpa [hI] using hg0
  | false =>
    simp only [Bool.false_eq_true, if_false, Bool.not_false, Bool.true_or]
    exact Pod.hasSchedulingGate_ensureSchedulingGate q0

/-! ## A pod in an `openshift-` namespace -/

/-- The configuration of the README: every namespace but those labelled to be excluded. -/
def readmeConfig : ClusterPodPlacementConfig :=
  ⟨{ (default : ObjectMeta) with name := "cluster" },
    ⟨"Normal", some ⟨∅, [⟨"multiarch.openshift.io/exclude-pod-placement", .DoesNotExist, []⟩]⟩, none⟩, ⟨[]⟩⟩

/-- A pod created in `openshift-monitoring`, a namespace without labels. -/
def openshiftPod : Pod :=
  ⟨{ (default : ObjectMeta) with name := "p", «namespace» := "openshift-monitoring" },
    ⟨"", ∅, none, [], [⟨"c", "img", .IfNotPresent⟩], [], []⟩⟩

/-- With the README's configuration, a pod in `openshift-monitoring` reaches the webhook and is gated. -/
theorem handle_gates_openshift_namespace :
    webhookReceives readmeConfig ∅ = true ∧
      ∃ q, handle "openshift-multiarch-tuning-operator" (some readmeConfig) openshiftPod = .ok q ∧
        q.hasSchedulingGate = true := by
  refine ⟨rfl, ?_⟩
  obtain ⟨q, hq⟩ : ∃ q, handle "openshift-multiarch-tuning-operator" (some readmeConfig) openshiftPod = .ok q :=
    handle_ok fun p hp => by cases hp
  refine ⟨q, hq, ?_⟩
  rw [hasSchedulingGate_handle hq]
  rfl

end MultiarchTuning
