import MultiarchTuning.Semantics.GatedUpdate
import MultiarchTuning.PodPlacement.Reconciler
import MultiarchTuning.Theorems.Admission

/-!
# The pod reconciler writes only what KEP-3838 allows

Every write `processPod` makes is a `Pod.GatedUpdate`: the label and annotation helpers touch only metadata,
`RemoveSchedulingGate` drops only the operator's gate, `SetPreferredArchNodeAffinity` appends preferred terms, and
`SetNodeAffinityArchRequirement` either sets a required selector that was nil or appends an expression to each term of
the one that was set. That last step needs the terms of a set selector to be there: a selector without terms counts as
configured for the architecture (the loop of `isNodeSelectorConfiguredForArchitecture` finds no term without the key),
so it is never patched, and the branch of `setRequiredArchNodeAffinity` that creates a term is reached only from a nil
selector (`requiredTerms?_ne_nil`).

The relation being a preorder, `processPod_gatedUpdate` follows path by path from the inversion lemma
`processPod_inv`.
-/

namespace MultiarchTuning

open Utils

namespace Pod

/-! ## Writes of labels and annotations -/

theorem gatedUpdate_ensureLabel (pod : Pod) (k v : String) : pod.GatedUpdate (pod.ensureLabel k v) :=
  GatedUpdate.of_spec_eq rfl rfl

theorem gatedUpdate_ensureNoLabel (pod : Pod) (k : String) : pod.GatedUpdate (pod.ensureNoLabel k) := by
  unfold ensureNoLabel
  split
  · exact GatedUpdate.refl pod
  · exact GatedUpdate.of_spec_eq rfl rfl

theorem gatedUpdate_ensureAnnotation (pod : Pod) (k v : String) : pod.GatedUpdate ( Pod.ensureAnnotation pod k v) :=
  GatedUpdate.of_spec_eq rfl rfl

theorem gatedUpdate_handleError (pod : Pod) (err : Option String) : pod.GatedUpdate (pod.handleError err) := by
  cases err with
  | none => exact GatedUpdate.refl pod
  | some e =>
    simp only [handleError, ensureAndIncrementLabel_eq]
    have hmark := gatedUpdate_ensureLabel pod imageInspectionErrorLabel ""
    have hann := gatedUpdate_ensureAnnotation (pod.ensureLabel imageInspectionErrorLabel "") imageInspectionErrorLabel e
    exact hmark.trans (hann.trans (gatedUpdate_ensureLabel _ _ _))

theorem gatedUpdate_ensureArchitectureLabels (pod : Pod) (r : NodeSelectorRequirement) :
    pod.GatedUpdate (pod.ensureArchitectureLabels r) := by
  have hfold : ∀ (l : List String) (p : Pod), p.GatedUpdate (l.foldl (fun p v => p.ensureLabel (archLabelValue v) "") p) := by
    intro l
    induction l with
    | nil => exact GatedUpdate.refl
    | cons v l ih => intro p; exact (gatedUpdate_ensureLabel p _ _).trans (ih _)
  unfold ensureArchitectureLabels
  cases r.values with
  | none => exact GatedUpdate.refl pod
  | some vs =>
    refine GatedUpdate.trans ?_ (hfold vs _)
    split <;> exact gatedUpdate_ensureLabel _ _ _

/-- `RemoveSchedulingGate` drops the operator's gates and labels the pod. -/
theorem gatedUpdate_removeSchedulingGate (pod : Pod) : pod.GatedUpdate pod.removeSchedulingGate := by
  unfold removeSchedulingGate
  split
  · exact GatedUpdate.refl pod
  · have hgates : pod.GatedUpdate
        { pod with spec := { pod.spec with schedulingGates := pod.spec.schedulingGates.filter (·.name != schedulingGateName) } } :=
      ⟨rfl, rfl, .inr rfl, rfl, rfl, SelectorGrows.refl _, List.prefix_refl _⟩
    exact hgates.trans (gatedUpdate_ensureLabel _ _ _)

/-! ## Writes of the node affinity -/

theorem requiredSelector?_eq_getD (pod : Pod) :
    pod.requiredSelector? = (pod.nodeAffinity?.getD emptyNodeAffinity).requiredDuringSchedulingIgnoredDuringExecution := by
  unfold requiredSelector?
  cases pod.nodeAffinity? <;> rfl

theorem preferredTerms_eq_getD (pod : Pod) :
    pod.preferredTerms = (pod.nodeAffinity?.getD emptyNodeAffinity).preferredDuringSchedulingIgnoredDuringExecution := by
  rw [preferredTerms_eq]
  cases pod.nodeAffinity? <;> rfl

theorem gatedUpdate_setPreferredArchNodeAffinity {pod q : Pod} {cppc : Option ClusterPodPlacementConfig}
    (h : pod.setPreferredArchNodeAffinity cppc = .ok q) : pod.GatedUpdate q := by
  unfold setPreferredArchNodeAffinity at h
  split at h
  · cases h
    exact GatedUpdate.refl pod
  · obtain ⟨c, -, h⟩ := Go.bind_eq_ok h
    obtain ⟨plugins, -, h⟩ := Go.bind_eq_ok h
    obtain ⟨nas, -, h⟩ := Go.bind_eq_ok h
    simp only [Go.pure_eq_ok, Except.ok.injEq] at h
    subst h
    refine GatedUpdate.trans ?_ (gatedUpdate_ensureLabel _ _ _)
    refine GatedUpdate.of_modifyNodeAffinity pod _ ?_ ?_
    · rw [requiredSelector?_eq_getD]
      exact SelectorGrows.refl _
    · rw [preferredTerms_eq_getD]
      exact List.prefix_append _ _

/-- A term grows under the patch: it keeps its fields, and gets at most the requirement appended. -/
theorem termGrows_patchTerm (r : NodeSelectorRequirement) (t : NodeSelectorTerm) : TermGrows t (patchTerm r t) := by
  unfold patchTerm
  split
  · exact TermGrows.refl t
  · exact ⟨rfl, List.prefix_append _ _⟩

/-- The terms of a set required selector of a pod that is not configured for the architecture are there: a
selector without terms counts as configured. -/
theorem requiredTerms?_ne_nil {pod : Pod} {ts : List NodeSelectorTerm}
    (hc : pod.isNodeSelectorConfiguredForArchitecture.1 = false) (h : pod.requiredTerms? = some ts) : ts ≠ [] := by
  unfold isNodeSelectorConfiguredForArchitecture at hc
  split at hc
  · cases hc
  · rw [h] at hc
    rintro rfl
    cases hc

/-- The required selector `SetNodeAffinityArchRequirement` writes grows from the old one. -/
theorem selectorGrows_patchTerms {pod : Pod} (r : NodeSelectorRequirement)
    (hc : pod.isNodeSelectorConfiguredForArchitecture.1 = false) :
    SelectorGrows pod.requiredSelector? (some ⟨patchTerms r (pod.requiredTerms?.getD [])⟩) := by
  cases hs : pod.requiredSelector? with
  | none => trivial
  | some s =>
    have hts : pod.requiredTerms? = some s.nodeSelectorTerms := by rw [requiredTerms?_eq_map, hs]; rfl
    have hne : ¬(s.nodeSelectorTerms.length = 0) := by
      simpa [List.length_eq_zero_iff] using requiredTerms?_ne_nil hc hts
    show List.Forall₂ TermGrows s.nodeSelectorTerms (patchTerms r (pod.requiredTerms?.getD []))
    rw [hts, Option.getD_some, patchTerms, if_neg hne, List.forall₂_map_right_iff]
    exact List.forall₂_same.mpr fun t _ => termGrows_patchTerm r t

theorem gatedUpdate_setNodeAffinityArchRequirement {pod q : Pod} {env : Env} {psdl : List Bytes}
    {res : Except String Bool} (h : pod.setNodeAffinityArchRequirement env psdl = .ok (q, res)) : pod.GatedUpdate q := by
  cases hc : pod.isNodeSelectorConfiguredForArchitecture.1 with
  | true =>
    rw [setNodeAffinityArchRequirement_of_configured hc] at h
    simp only [Except.ok.injEq, Prod.mk.injEq] at h
    obtain ⟨rfl, -⟩ := h
    rw [isNodeSelectorConfiguredForArchitecture_snd]
    refine GatedUpdate.trans ?_ (gatedUpdate_ensureLabel _ _ _)
    split
    · exact gatedUpdate_ensureLabel _ _ _
    · exact GatedUpdate.refl pod
  | false =>
    cases hr : pod.getArchitecturePredicate env psdl with
    | error e =>
      rw [setNodeAffinityArchRequirement_of_error hc hr] at h
      simp only [Except.ok.injEq, Prod.mk.injEq] at h
      obtain ⟨rfl, -⟩ := h
      exact GatedUpdate.refl pod
    | ok r =>
      rw [setNodeAffinityArchRequirement_of_ok hc hr] at h
      simp only [Except.ok.injEq, Prod.mk.injEq] at h
      obtain ⟨rfl, -⟩ := h
      have hlab : pod.GatedUpdate ((pod.ensureNoLabel imageInspectionErrorLabel).ensureArchitectureLabels r) :=
        (gatedUpdate_ensureNoLabel _ _).trans (gatedUpdate_ensureArchitectureLabels _ _)
      have hsel : ((pod.ensureNoLabel imageInspectionErrorLabel).ensureArchitectureLabels r).requiredSelector? =
          pod.requiredSelector? := by
        simp only [requiredSelector?, nodeAffinity?_of_spec (by simp : ((pod.ensureNoLabel imageInspectionErrorLabel).ensureArchitectureLabels r).spec = pod.spec)]
      refine hlab.trans (GatedUpdate.trans ?_ (gatedUpdate_ensureLabel _ _ _))
      refine GatedUpdate.of_modifyNodeAffinity _ _ ?_ ?_
      · rw [hsel]
        exact selectorGrows_patchTerms r hc
      · exact (preferredTerms_eq_getD _).symm ▸ List.prefix_refl _

end Pod

/-! ## `processPod` -/

theorem gatedUpdate_preferredStep {cppc : Option ClusterPodPlacementConfig} {b : Bool} {q p : Pod}
    (h : preferredStep cppc b q = .ok p) : q.GatedUpdate p := by
  cases b with
  | true => exact Pod.gatedUpdate_setPreferredArchNodeAffinity h
  | false =>
    cases h
    exact Pod.GatedUpdate.refl q

theorem gatedUpdate_requiredStep {env : Env} {p : Pod} {r : Pod × Option String} (h : requiredStep env p = .ok r) :
    p.GatedUpdate r.1 := by
  obtain ⟨q, res, hs, h1, -⟩ := requiredStep_inv h
  rw [h1]
  exact (Pod.gatedUpdate_setNodeAffinityArchRequirement hs).trans (Pod.gatedUpdate_handleError _ _)

theorem gatedUpdate_gateAfter (r : Pod × Option String) : r.1.GatedUpdate (gateAfter r) := by
  unfold gateAfter
  split
  · exact Pod.gatedUpdate_removeSchedulingGate _
  · exact Pod.GatedUpdate.refl _

theorem Pod.gatedUpdate_shouldIgnorePod {pod q : Pod} {ns : String} {cppc : Option ClusterPodPlacementConfig} {b : Bool}
    (h : pod.shouldIgnorePod ns cppc = .ok (b, q)) : pod.GatedUpdate q := by
  rcases shouldIgnorePod_snd h with rfl | rfl
  · exact GatedUpdate.refl _
  · exact gatedUpdate_ensureLabel _ _ _

/-- Whatever the configuration and the inspection, the pod `processPod` returns differs from the pod it was given
only in labels, annotations, the operator's gate and a KEP-3838 tightening of the node affinity. -/
theorem processPod_gatedUpdate {env : Env} {cppc : Option ClusterPodPlacementConfig} {pod P' : Pod}
    (h : processPod env cppc pod = .ok P') : pod.GatedUpdate P' := by
  rcases processPod_inv h with ⟨q, hq, rfl⟩ | ⟨q, b, p, r, hq, -, hp, hr, rfl⟩
  · exact (Pod.gatedUpdate_shouldIgnorePod hq).trans (Pod.gatedUpdate_removeSchedulingGate q)
  · exact (Pod.gatedUpdate_shouldIgnorePod hq).trans
      ((gatedUpdate_preferredStep hp).trans ((gatedUpdate_requiredStep hr).trans (gatedUpdate_gateAfter r)))

/-- The run on `unschedulablePod`, which patches its required affinity, is such an update. -/
theorem processPod_gatedUpdate_unschedulablePod :
    ∃ P', processPod amd64Env none unschedulablePod = .ok P' ∧ unschedulablePod.GatedUpdate P' := by
  have hc : unschedulablePod.isNodeSelectorConfiguredForArchitecture.1 = false := rfl
  have hi : unschedulablePod.shouldIgnorePod amd64Env.operatorNamespace none = .ok (false, unschedulablePod) :=
    Pod.shouldIgnorePod_of_not_configured none rfl hc
  have hps : unschedulablePod.getPodImagePullSecrets.filterMap
      (amd64Env.secretData unschedulablePod.metadata.«namespace») = [] := rfl
  obtain ⟨P', hP'⟩ : ∃ P', processPod amd64Env none unschedulablePod = .ok P' := by
    rw [processPod_of_not_ignore hi rfl rfl, requiredStep_eq, hps,
      Pod.setNodeAffinityArchRequirement_of_ok hc (getArchitecturePredicate_unschedulablePod [])]
    exact ⟨_, rfl⟩
  exact ⟨P', hP', processPod_gatedUpdate hP'⟩

end MultiarchTuning
