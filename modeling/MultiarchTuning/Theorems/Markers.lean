import MultiarchTuning.Theorems.Intersection
import MultiarchTuning.PodPlacement.Webhook

/-!
# What the scheduling gate and the architecture labels of a pod record

The gate: `ensureSchedulingGate` appends one copy of the operator's gate unless some gate is it already, and
`RemoveSchedulingGate` drops every copy and keeps the other gates in their order (`Pod.removeSchedulingGate_spec`). The
Go helpers tell a nil list from an empty one; the statements here are about the gates as a list, where the two are one,
and they hold for every list, with copies of the operator's gate anywhere among others
(`schedulingGates_ensure_remove_laws`).

The labels: after a successful inspection `SetNodeAffinityArchRequirement` drops `image-inspect-error`, writes the
labels `ensureArchitectureLabels` gives the requirement, and sets `node-affinity` last
(`Pod.label?_setNodeAffinityArchRequirement`). For a nonempty set `A` of architectures these are the count label of
`A` and `ArchLabelValue a` for each `a` (`Pod.label?_setNodeAffinityArchRequirement_of_nonempty`). Two things keep the
labels from recording `A`. `getArchitecturePredicate` encodes an empty `A` with nil values, on which
`ensureArchitectureLabels` returns at once, so `no-supported-arch` is never written (`Pod.label?_noSupportedArch_of_empty`).
And `ArchLabelValue` is `path.Join`, which cleans its result, so `./amd64` names the label of `amd64`, and an architecture
named after a control label, such as `scheduling-gate`, names that label (`setNodeAffinityArchRequirement_mislabels`).
-/

namespace MultiarchTuning

open Utils

namespace Pod

/-! ## The scheduling gate -/

theorem ensureSchedulingGate_of_hasSchedulingGate {pod : Pod} (h : pod.hasSchedulingGate = true) :
    pod.ensureSchedulingGate = pod := by
  have h' : pod.spec.schedulingGates.any (·.name == schedulingGateName) = true := h
  simp only [ensureSchedulingGate, h', if_true]

/-- `ensureSchedulingGate` leaves the gates when one is the operator's, and appends one copy of it otherwise. -/
theorem schedulingGates_ensureSchedulingGate (pod : Pod) :
    pod.ensureSchedulingGate.spec.schedulingGates =
      if pod.hasSchedulingGate then pod.spec.schedulingGates
      else pod.spec.schedulingGates ++ [⟨schedulingGateName⟩] := by
  by_cases h : pod.hasSchedulingGate = true
  · rw [if_pos h, ensureSchedulingGate_of_hasSchedulingGate h]
  · have h' : pod.spec.schedulingGates.any (·.name == schedulingGateName) = false := Bool.eq_false_iff.mpr h
    rw [if_neg h]
    simp only [ensureSchedulingGate, h', Bool.false_eq_true, if_false]

/-- The gate `ensureSchedulingGate` may append is the one `RemoveSchedulingGate` drops. -/
theorem schedulingGates_removeSchedulingGate_ensureSchedulingGate (pod : Pod) :
    pod.ensureSchedulingGate.removeSchedulingGate.spec.schedulingGates =
      pod.removeSchedulingGate.spec.schedulingGates := by
  rw [removeSchedulingGate_spec, removeSchedulingGate_spec]
  simp only [schedulingGates_ensureSchedulingGate]
  split
  · rfl
  · simp

end Pod

open Pod

theorem schedulingGates_ensure_remove_laws (pod : Pod) :
    pod.ensureSchedulingGate.spec.schedulingGates =
        (if pod.hasSchedulingGate then pod.spec.schedulingGates
          else pod.spec.schedulingGates ++ [⟨schedulingGateName⟩]) ∧
      pod.removeSchedulingGate.spec.schedulingGates = pod.spec.schedulingGates.filter (·.name != schedulingGateName) ∧
      pod.ensureSchedulingGate.hasSchedulingGate = true ∧
      pod.removeSchedulingGate.hasSchedulingGate = false ∧
      pod.ensureSchedulingGate.ensureSchedulingGate = pod.ensureSchedulingGate ∧
      pod.ensureSchedulingGate.removeSchedulingGate.spec.schedulingGates =
        pod.removeSchedulingGate.spec.schedulingGates := by
  refine ⟨schedulingGates_ensureSchedulingGate pod, ?_, hasSchedulingGate_ensureSchedulingGate pod,
    hasSchedulingGate_removeSchedulingGate pod, ?_, schedulingGates_removeSchedulingGate_ensureSchedulingGate pod⟩
  · rw [removeSchedulingGate_spec]
  · exact ensureSchedulingGate_of_hasSchedulingGate (hasSchedulingGate_ensureSchedulingGate pod)

namespace Pod

/-! ## The architecture labels -/

/-- The label `ensureArchitectureLabels` sets for the number of values. -/
def archCountLabel : Nat → String
  | 0 => noSupportedArchLabel
  | 1 => singleArchLabel
  | _ => multiArchLabel

theorem label?_modifyNodeAffinity (pod : Pod) (f : NodeAffinity → NodeAffinity) (k : String) :
    (pod.modifyNodeAffinity f).label? k = pod.label? k := rfl

/-- A loop of `ensureLabel` over `vs` sets the labels `f v` to `value` and leaves the others. -/
theorem label?_foldl_ensureLabel (f : String → String) (value : String) (vs : List String) (pod : Pod) (k : String) :
    (vs.foldl (fun p v => p.ensureLabel (f v) value) pod).label? k =
      if k ∈ vs.map f then some value else pod.label? k := by
  induction vs generalizing pod with
  | nil => simp
  | cons v vs ih =>
    rw [List.foldl_cons, ih, label?_ensureLabel]
    by_cases hk : k ∈ vs.map f
    · simp [hk]
    · by_cases hv : k = f v <;> simp [hk, hv]

theorem ensureArchitectureLabels_of_none {r : NodeSelectorRequirement} (h : r.values = none) (pod : Pod) :
    pod.ensureArchitectureLabels r = pod := by
  unfold ensureArchitectureLabels
  rw [h]

theorem ensureArchitectureLabels_of_some {r : NodeSelectorRequirement} {vs : List String} (h : r.values = some vs)
    (pod : Pod) :
    pod.ensureArchitectureLabels r =
      vs.foldl (fun p v => p.ensureLabel (archLabelValue v) "") (pod.ensureLabel (archCountLabel vs.length) "") := by
  unfold ensureArchitectureLabels
  rw [h]
  rcases vs with _ | ⟨_, _ | ⟨_, _⟩⟩ <;> rfl

/-- With values, `ensureArchitectureLabels` sets the count label and the label of each value. -/
theorem label?_ensureArchitectureLabels {r : NodeSelectorRequirement} {vs : List String} (h : r.values = some vs)
    (pod : Pod) (k : String) :
    (pod.ensureArchitectureLabels r).label? k =
      if k ∈ vs.map archLabelValue ∨ k = archCountLabel vs.length then some "" else pod.label? k := by
  rw [ensureArchitectureLabels_of_some h, label?_foldl_ensureLabel, label?_ensureLabel]
  by_cases hm : k ∈ vs.map archLabelValue
  · simp [hm]
  · by_cases hc : k = archCountLabel vs.length <;> simp [hm, hc]

section Labels

variable {pod p' : Pod} {env : Env} {psdl : List Bytes}

/-- The labels after a successful inspection: `node-affinity` set, over those `ensureArchitectureLabels` writes once
`image-inspect-error` is gone. -/
theorem label?_setNodeAffinityArchRequirement {r : NodeSelectorRequirement}
    (hc : pod.isNodeSelectorConfiguredForArchitecture.1 = false) (hr : pod.getArchitecturePredicate env psdl = .ok r)
    (h : pod.setNodeAffinityArchRequirement env psdl = .ok (p', .ok true)) (k : String) :
    p'.label? k =
      if k = nodeAffinityLabel then some nodeAffinityLabelValueSet
      else ((pod.ensureNoLabel imageInspectionErrorLabel).ensureArchitectureLabels r).label? k := by
  rw [setNodeAffinityArchRequirement_of_ok hc hr] at h
  obtain ⟨rfl, -⟩ := Prod.mk.inj (Except.ok.inj h)
  rw [label?_ensureLabel, label?_modifyNodeAffinity]

/-- With no architecture every image supports, `no-supported-arch` keeps the value it had. -/
theorem label?_noSupportedArch_of_empty (hc : pod.isNodeSelectorConfiguredForArchitecture.1 = false)
    (hr : pod.getArchitecturePredicate env psdl = .ok (requirementOf ∅))
    (h : pod.setNodeAffinityArchRequirement env psdl = .ok (p', .ok true)) :
    p'.label? noSupportedArchLabel = pod.label? noSupportedArchLabel := by
  have hv : (requirementOf ∅).values = none := by simp [requirementOf]
  rw [label?_setNodeAffinityArchRequirement hc hr h, if_neg (by decide), ensureArchitectureLabels_of_none hv,
    label?_ensureNoLabel, if_neg (by decide)]

/-- With a nonempty set `A` of architectures: `node-affinity` set, the count label of `A` and the label of each
architecture set to the empty value, no `image-inspect-error`, and every other label as it was. -/
theorem label?_setNodeAffinityArchRequirement_of_nonempty {A : Finset String} (hA : A ≠ ∅)
    (hc : pod.isNodeSelectorConfiguredForArchitecture.1 = false)
    (hr : pod.getArchitecturePredicate env psdl = .ok (requirementOf A))
    (h : pod.setNodeAffinityArchRequirement env psdl = .ok (p', .ok true)) (k : String) :
    p'.label? k =
      if k = nodeAffinityLabel then some nodeAffinityLabelValueSet
      else if (∃ a ∈ A, k = archLabelValue a) ∨ k = archCountLabel A.card then some ""
      else if k = imageInspectionErrorLabel then none
      else pod.label? k := by
  have hv : (requirementOf A).values = some (setsList A) := by simp [requirementOf, hA]
  have hmem : k ∈ (setsList A).map archLabelValue ↔ ∃ a ∈ A, k = archLabelValue a := by
    simp only [List.mem_map, setsList, Finset.mem_sort]
    exact exists_congr fun a => and_congr_right fun _ => eq_comm
  have hlen : (setsList A).length = A.card := Finset.length_sort _
  rw [label?_setNodeAffinityArchRequirement hc hr h, label?_ensureArchitectureLabels hv, label?_ensureNoLabel]
  simp only [hmem, hlen]

end Labels

end Pod

/-! ## Pods the labels misdescribe -/

/-- An inspection of single-manifest images: `amd64` for `//amd`, `arm64` for `//arm`, and for every other image the
architecture `scheduling-gate`, which an image config may name. -/
def mislabelEnv : Env :=
  ⟨"openshift-multiarch-tuning-operator",
    fun ref _ _ => if ref = "//amd" then .ok {"amd64"} else if ref = "//arm" then .ok {"arm64"}
      else .ok {"scheduling-gate"},
    id, List.Perm.refl, fun _ _ => none⟩

theorem getArchitecturePredicate_amd_arm :
    (podOf ["amd", "arm"]).getArchitecturePredicate mislabelEnv [] = .ok (requirementOf ∅) := by
  have hi : (podOf ["amd", "arm"]).imagesNamesSet = [⟨"//amd", false⟩, ⟨"//arm", false⟩] := rfl
  have hempty : ({"amd64"} ∩ {"arm64"} : Finset String) = ∅ := by decide
  simp [getArchitecturePredicate, intersectImagesArchitecture, hi, mislabelEnv, Go.meetStep, inspectImage, hempty,
    setsList, requirementOf]

theorem getArchitecturePredicate_gate :
    (podOf ["gate"]).getArchitecturePredicate mislabelEnv [] = .ok (requirementOf {"scheduling-gate"}) := by
  have hi : (podOf ["gate"]).imagesNamesSet = [⟨"//gate", false⟩] := rfl
  simp [getArchitecturePredicate, intersectImagesArchitecture, hi, mislabelEnv, Go.meetStep, inspectImage, setsList,
    requirementOf]

/-- Two unlabelled pods the labels misdescribe. Images with no common architecture leave the pod without
`no-supported-arch`; an image whose config names the architecture `scheduling-gate` gets the operator's
`scheduling-gate` label written with the empty value. And two distinct architectures name one label. -/
theorem setNodeAffinityArchRequirement_mislabels :
    (podOf ["amd", "arm"]).getArchitecturePredicate mislabelEnv [] = .ok (requirementOf ∅) ∧
      (∃ p', (podOf ["amd", "arm"]).setNodeAffinityArchRequirement mislabelEnv [] = .ok (p', .ok true) ∧
        p'.label? noSupportedArchLabel = none) ∧
      (∃ p', (podOf ["gate"]).setNodeAffinityArchRequirement mislabelEnv [] = .ok (p', .ok true) ∧
        p'.label? schedulingGateLabel = some "") ∧
      "amd64" ≠ "./amd64" ∧ archLabelValue "amd64" = archLabelValue "./amd64" := by
  have hc : ∀ images, (podOf images).isNodeSelectorConfiguredForArchitecture.1 = false := fun _ => rfl
  refine ⟨getArchitecturePredicate_amd_arm, ?_, ?_, by decide, by decide⟩
  · have hs := setNodeAffinityArchRequirement_of_ok (hc _) getArchitecturePredicate_amd_arm
    exact ⟨_, hs, label?_noSupportedArch_of_empty (hc _) getArchitecturePredicate_amd_arm hs⟩
  · have hs := setNodeAffinityArchRequirement_of_ok (hc _) getArchitecturePredicate_gate
    refine ⟨_, hs, ?_⟩
    rw [label?_setNodeAffinityArchRequirement_of_nonempty (by decide) (hc _) getArchitecturePredicate_gate hs,
      if_neg (by decide), if_pos (Or.inl ⟨"scheduling-gate", Finset.mem_singleton_self _, by decide⟩)]

end MultiarchTuning
