import MultiarchTuning.Api.Core

/-!
# Labels, annotations, the scheduling gate and the retry counter of a pod

The helpers of `controllers/podplacement/pod_model.go` that read and write a pod's metadata and its scheduling gates:
`ensureLabel` and its kin allocate the labels map on first write, `RemoveSchedulingGate` keeps every other gate in its
order and marks the pod, `ensureAndIncrementLabel` and `maxRetries` keep the image-inspection retry counter as a
decimal string in a label, and `handleError` records a failed inspection. Events and logs are not modelled.

Each helper has its small lemmas beside it: what it does to the labels, and that it leaves the spec (or all but the
gates) as it was. The later modules read the helpers only through these.
-/

namespace MultiarchTuning

open Utils

/-- `MaxRetryCount`. -/
def maxRetryCount : Int := 5

namespace Pod

/-- `pod.Labels[label]`, with nil labels holding nothing. -/
def label? (pod : Pod) (label : String) : Option String := pod.metadata.labels.bind (·.lookup label)

/-- `pod.ensureLabel`: allocate the labels map when nil, then set `label` to `value`. -/
def ensureLabel (pod : Pod) (label value : String) : Pod :=
  { pod with metadata := { pod.metadata with labels := some ((pod.metadata.labels.getD ∅).insert label value) } }

/-- `pod.ensureNoLabel`: delete `label`, nothing to do on nil labels. -/
def ensureNoLabel (pod : Pod) (label : String) : Pod :=
  match pod.metadata.labels with
  | none => pod
  | some ls => { pod with metadata := { pod.metadata with labels := some (ls.erase label) } }

/-- `pod.ensureAnnotation`: allocate the annotations map when nil, then set `key` to `value`. -/
def ensureAnnotation (pod : Pod) (key value : String) : Pod :=
  { pod with
    metadata := { pod.metadata with annotations := some ((pod.metadata.annotations.getD ∅).insert key value) } }

/-- `pod.ensureAndIncrementLabel`: set `label` to `"1"` when it is absent or does not parse as a 32-bit integer, and to
its value plus one otherwise (the sum is an `int64`, printed with `%d`). -/
def ensureAndIncrementLabel (pod : Pod) (label : String) : Pod :=
  match pod.label? label with
  | none => pod.ensureLabel label "1"
  | some v =>
    match Go.parseInt v 32 with
    | none => pod.ensureLabel label "1"
    | some cur => pod.ensureLabel label (Go.formatInt (cur + 1))

/-- `pod.maxRetries`: false on nil labels; otherwise true when the counter does not parse as a 32-bit integer (an
absent label reads as `""`) or has reached `MaxRetryCount`. -/
def maxRetries (pod : Pod) : Bool :=
  match pod.metadata.labels with
  | none => false
  | some ls =>
    match Go.parseInt ((ls.lookup imageInspectionErrorCountLabel).getD "") 32 with
    | none => true
    | some v => decide (maxRetryCount ≤ v)

/-- `pod.handleError`: nothing without an error; otherwise mark the pod, store the message in an annotation and
increment the retry counter. -/
def handleError (pod : Pod) : Option String → Pod
  | none => pod
  | some err =>
    let marked := pod.ensureLabel imageInspectionErrorLabel ""
    let annotated := Pod.ensureAnnotation marked imageInspectionErrorLabel err
    annotated.ensureAndIncrementLabel imageInspectionErrorCountLabel

/-- `pod.HasSchedulingGate`: some gate is the operator's. -/
def hasSchedulingGate (pod : Pod) : Bool := pod.spec.schedulingGates.any (·.name == schedulingGateName)

/-- `pod.RemoveSchedulingGate`: nothing on an empty list of gates; otherwise drop every gate of the operator, keep the
others in their order, and label the pod as processed. -/
def removeSchedulingGate (pod : Pod) : Pod :=
  if pod.spec.schedulingGates.length = 0 then pod
  else
    ({ pod with
      spec := { pod.spec with schedulingGates := pod.spec.schedulingGates.filter (·.name != schedulingGateName) } }
    ).ensureLabel schedulingGateLabel schedulingGateLabelValueRemoved

/-- `pod.ensureSchedulingGate`: append the operator's gate unless it is there. -/
def ensureSchedulingGate (pod : Pod) : Pod :=
  if pod.spec.schedulingGates.any (·.name == schedulingGateName) then pod
  else { pod with spec := { pod.spec with schedulingGates := pod.spec.schedulingGates ++ [⟨schedulingGateName⟩] } }

/-- `pod.hasControlPlaneNodeSelector`: the node selector names the master or the control-plane role. -/
def hasControlPlaneNodeSelector (pod : Pod) : Bool :=
  [masterNodeSelectorLabel, controlPlaneNodeSelectorLabel].any (fun k => (pod.spec.nodeSelector.lookup k).isSome)

/-- `pod.isFromDaemonSet`: an owner reference of kind `DaemonSet` is the pod's controller. -/
def isFromDaemonSet (pod : Pod) : Bool :=
  pod.metadata.ownerReferences.any (fun o => o.kind == "DaemonSet" && o.controller == some true)

/-- `pod.publishIgnorePod`: label the node affinity as not set by the operator. -/
def publishIgnorePod (pod : Pod) : Pod := pod.ensureLabel nodeAffinityLabel labelValueNotSet

/-! ## What each helper does to the labels and the spec -/

@[simp] theorem ensureLabel_spec (pod : Pod) (k v : String) : (pod.ensureLabel k v).spec = pod.spec := rfl

theorem label?_ensureLabel (pod : Pod) (k v k' : String) :
    (pod.ensureLabel k v).label? k' = if k' = k then some v else pod.label? k' := by
  by_cases h : k' = k
  · subst h
    simp [label?, ensureLabel, AList.lookup_insert]
  · rw [if_neg h]
    simp only [label?, ensureLabel, Option.bind_some, AList.lookup_insert_ne h]
    cases pod.metadata.labels <;> rfl

theorem ensureLabel_labels_isSome (pod : Pod) (k v : String) : (pod.ensureLabel k v).metadata.labels.isSome := rfl

@[simp] theorem ensureNoLabel_spec (pod : Pod) (k : String) : (pod.ensureNoLabel k).spec = pod.spec := by
  unfold ensureNoLabel
  split <;> rfl

theorem label?_ensureNoLabel (pod : Pod) (k k' : String) :
    (pod.ensureNoLabel k).label? k' = if k' = k then none else pod.label? k' := by
  unfold ensureNoLabel
  cases hl : pod.metadata.labels with
  | none => simp [label?, hl]
  | some ls =>
    by_cases h : k' = k
    · subst h
      simp [label?, AList.lookup_erase]
    · simp [label?, hl, h, AList.lookup_erase_ne h]

@[simp] theorem ensureAnnotation_spec (pod : Pod) (k v : String) : ( Pod.ensureAnnotation pod k v).spec = pod.spec :=
  rfl

@[simp] theorem label?_ensureAnnotation (pod : Pod) (k v : String) :
    ( Pod.ensureAnnotation pod k v).label? = pod.label? := rfl

/-- `ensureAndIncrementLabel` writes the label it counts in, and nothing else. -/
theorem ensureAndIncrementLabel_eq (pod : Pod) (k : String) :
    pod.ensureAndIncrementLabel k = pod.ensureLabel k (match (pod.label? k).bind (Go.parseInt · 32) with
      | none => "1"
      | some cur => Go.formatInt (cur + 1)) := by
  unfold ensureAndIncrementLabel
  cases pod.label? k with
  | none => rfl
  | some v => cases hp : Go.parseInt v 32 <;> simp [hp]

@[simp] theorem ensureAndIncrementLabel_spec (pod : Pod) (k : String) :
    (pod.ensureAndIncrementLabel k).spec = pod.spec := by
  rw [ensureAndIncrementLabel_eq, ensureLabel_spec]

@[simp] theorem handleError_spec (pod : Pod) (err : Option String) : (pod.handleError err).spec = pod.spec := by
  cases err <;> simp [handleError]

/-- The retry counter after a recorded error: one more than a value that parses, else `"1"`. -/
theorem label?_handleError_count (pod : Pod) (err : String) :
    (pod.handleError (some err)).label? imageInspectionErrorCountLabel =
      some (match (pod.label? imageInspectionErrorCountLabel).bind (Go.parseInt · 32) with
        | none => "1"
        | some cur => Go.formatInt (cur + 1)) := by
  have hne : imageInspectionErrorCountLabel ≠ imageInspectionErrorLabel := by decide
  simp only [handleError, ensureAndIncrementLabel_eq, label?_ensureLabel, label?_ensureAnnotation, if_true, hne,
    if_false]

theorem handleError_labels_isSome (pod : Pod) (err : String) : (pod.handleError (some err)).metadata.labels.isSome := by
  simp only [handleError, ensureAndIncrementLabel_eq]
  exact ensureLabel_labels_isSome _ _ _

@[simp] theorem publishIgnorePod_spec (pod : Pod) : pod.publishIgnorePod.spec = pod.spec := rfl

/-- `maxRetries` on allocated labels reads the counter. -/
theorem maxRetries_of_isSome {pod : Pod} (h : pod.metadata.labels.isSome) :
    pod.maxRetries = match Go.parseInt ((pod.label? imageInspectionErrorCountLabel).getD "") 32 with
      | none => true
      | some v => decide (maxRetryCount ≤ v) := by
  obtain ⟨ls, hls⟩ := Option.isSome_iff_exists.mp h
  simp [maxRetries, label?, hls]

/-- `RemoveSchedulingGate` keeps the gates that are not the operator's, in their order, and the rest of the spec. -/
theorem removeSchedulingGate_spec (pod : Pod) :
    pod.removeSchedulingGate.spec =
      { pod.spec with schedulingGates := pod.spec.schedulingGates.filter (·.name != schedulingGateName) } := by
  unfold removeSchedulingGate
  split
  · rename_i h
    obtain ⟨md, ⟨nn, ns, af, g, cs, ics, ips⟩⟩ := pod
    rw [List.length_eq_zero_iff] at h
    subst h
    rfl
  · rfl

/-- After `RemoveSchedulingGate` the pod carries no gate of the operator. -/
theorem hasSchedulingGate_removeSchedulingGate (pod : Pod) : pod.removeSchedulingGate.hasSchedulingGate = false := by
  simp [hasSchedulingGate, removeSchedulingGate_spec, List.any_filter]

end Pod

end MultiarchTuning
