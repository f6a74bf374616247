import MultiarchTuning.PodPlacement.Affinity

/-!
# What a required node affinity admits

The meaning Kubernetes gives a `NodeSelector` (the documentation of `NodeSelector` and `NodeSelectorTerm` in the
vendored `k8s.io/api/core/v1/types.go`): its terms are ORed, the expressions and fields of a term are ANDed, and a
null or empty term matches no objects. An expression on labels is read as the `labels.Requirement` of its operator
(`NodeSelectorOperator.toSelection`), and so is an expression on fields, over the node's fields. An absent required
affinity admits every node.

Over that meaning, `patchTerm`, the body of the term loop of `setRequiredArchNodeAffinity`, is exact: a term that has an
expression on the requirement's key is kept, and any other term admits a node iff its old expressions and fields hold
and the requirement does (`termAdmits_patchTerm`). The old term's emptiness is what the patch loses: an empty term
admits nothing, and the patched one admits every node the requirement admits (`termAdmits_patchTerm_of_isEmpty`). On
terms that are not empty the patch only restricts (`anyAdmits_patchTerms_of_not_isEmpty`).
-/

namespace MultiarchTuning

/-- A node, as a required node affinity reads it: its labels and its fields (`metadata.name`). -/
structure Node where
  labels : StrMap
  fields : StrMap
  deriving DecidableEq

namespace NodeSelectorRequirement

/-- The requirement holds of a label (or field) set. -/
def matchesOn (r : NodeSelectorRequirement) (ls : StrMap) : Bool :=
  requirementMatches r.operator.toSelection r.key (r.values.getD []) ls

end NodeSelectorRequirement

namespace NodeSelectorTerm

/-- The term has neither expressions nor fields. -/
def isEmpty (t : NodeSelectorTerm) : Bool := t.matchExpressions.isEmpty && t.matchFields.isEmpty

/-- Every expression and every field of the term holds of the node. -/
def holds (t : NodeSelectorTerm) (n : Node) : Bool :=
  t.matchExpressions.all (·.matchesOn n.labels) && t.matchFields.all (·.matchesOn n.fields)

/-- The term admits the node: it is not empty and all of it holds. -/
def admits (t : NodeSelectorTerm) (n : Node) : Bool := !t.isEmpty && t.holds n

/-- The term has an expression on `key`: the test of `patchTerm`. -/
def hasKey (t : NodeSelectorTerm) (key : String) : Bool := t.matchExpressions.any (·.key == key)

theorem admits_of_not_isEmpty {t : NodeSelectorTerm} (h : t.isEmpty = false) (n : Node) : t.admits n = t.holds n := by
  simp [admits, h]

end NodeSelectorTerm

/-- A required affinity admits the node: an absent one always, a selector when one of its terms does. -/
def requiredAdmits : Option NodeSelector → Node → Bool
  | none, _ => true
  | some s, n => s.nodeSelectorTerms.any (·.admits n)

/-- The pod's required node affinity, nil when `Affinity` or `NodeAffinity` is. -/
def Pod.requiredSelector? (pod : Pod) : Option NodeSelector :=
  pod.nodeAffinity?.bind (·.requiredDuringSchedulingIgnoredDuringExecution)

theorem Pod.requiredTerms?_eq_map (pod : Pod) : pod.requiredTerms? = pod.requiredSelector?.map (·.nodeSelectorTerms) := by
  simp only [requiredTerms?, requiredSelector?]
  cases pod.nodeAffinity? <;> rfl

open NodeSelectorTerm

/-! ## The patch of one term -/

/-- The patched term admits a node iff the old term does, when it has an expression on the key; otherwise iff the old
expressions and fields and the requirement hold of it. -/
theorem termAdmits_patchTerm (r : NodeSelectorRequirement) (t : NodeSelectorTerm) (n : Node) :
    (Pod.patchTerm r t).admits n = if t.hasKey r.key then t.admits n else t.holds n && r.matchesOn n.labels := by
  unfold Pod.patchTerm
  by_cases hk : t.hasKey r.key = true
  · have hk' : t.matchExpressions.any (·.key == r.key) = true := hk
    rw [if_pos hk', if_pos hk]
  · have hk' : ¬(t.matchExpressions.any (·.key == r.key) = true) := hk
    rw [if_neg hk', if_neg hk]
    have hne : ({ t with matchExpressions := t.matchExpressions ++ [r] } : NodeSelectorTerm).isEmpty = false := by
      simp [isEmpty]
    rw [admits_of_not_isEmpty hne]
    simp only [holds, List.all_append, List.all_cons, List.all_nil, Bool.and_true]
    cases r.matchesOn n.labels <;> simp

/-- An empty term, patched, admits exactly the nodes the requirement admits, where it admitted none. -/
theorem termAdmits_patchTerm_of_isEmpty {r : NodeSelectorRequirement} {t : NodeSelectorTerm} (h : t.isEmpty = true)
    (n : Node) : (Pod.patchTerm r t).admits n = r.matchesOn n.labels := by
  have hk : t.hasKey r.key = false := by
    simp only [isEmpty, Bool.and_eq_true, List.isEmpty_iff] at h
    simp [hasKey, h.1]
  have hm : t.holds n = true := by
    simp only [isEmpty, Bool.and_eq_true, List.isEmpty_iff] at h
    simp [holds, h.1, h.2]
  rw [termAdmits_patchTerm, hk, hm]
  rfl

/-- On a term that is not empty the patch admits what the term admits and, where the term has no expression on the
key, what the requirement admits. -/
theorem termAdmits_patchTerm_of_not_isEmpty {r : NodeSelectorRequirement} {t : NodeSelectorTerm} (h : t.isEmpty = false)
    (n : Node) : (Pod.patchTerm r t).admits n = (t.admits n && (t.hasKey r.key || r.matchesOn n.labels)) := by
  rw [termAdmits_patchTerm, admits_of_not_isEmpty h]
  cases t.hasKey r.key <;> simp

/-! ## The patch of the required terms -/

/-- The patched terms admit a node iff some term admits it after its own patch. -/
theorem anyAdmits_patchTerms_of_ne_nil (r : NodeSelectorRequirement) {ts : List NodeSelectorTerm} (h : ts ≠ [])
    (n : Node) : (Pod.patchTerms r ts).any (·.admits n) = ts.any fun t => (Pod.patchTerm r t).admits n := by
  have hl : ¬(ts.length = 0) := by simpa using h
  simp only [Pod.patchTerms, if_neg hl, List.any_map, Function.comp_def]

/-- When no term is empty, the patched terms admit a node iff some term admits it and either has an expression on the
key or the requirement holds of the node. -/
theorem anyAdmits_patchTerms_of_not_isEmpty (r : NodeSelectorRequirement) {ts : List NodeSelectorTerm} (h : ts ≠ [])
    (hne : ∀ t ∈ ts, t.isEmpty = false) (n : Node) :
    (Pod.patchTerms r ts).any (·.admits n) = true ↔
      ∃ t ∈ ts, t.admits n = true ∧ (t.hasKey r.key = true ∨ r.matchesOn n.labels = true) := by
  rw [anyAdmits_patchTerms_of_ne_nil r h, List.any_eq_true]
  constructor
  · rintro ⟨t, ht, hadm⟩
    rw [termAdmits_patchTerm_of_not_isEmpty (hne t ht)] at hadm
    simp only [Bool.and_eq_true, Bool.or_eq_true] at hadm
    exact ⟨t, ht, hadm⟩
  · rintro ⟨t, ht, hadm⟩
    refine ⟨t, ht, ?_⟩
    rw [termAdmits_patchTerm_of_not_isEmpty (hne t ht)]
    simpa only [Bool.and_eq_true, Bool.or_eq_true] using hadm

end MultiarchTuning
