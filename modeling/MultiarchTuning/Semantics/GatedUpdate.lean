import MultiarchTuning.Semantics.NodeAffinity

/-!
# The updates the API server accepts on a gated pod

KEP-3838 (mutable pod scheduling directives, which `setRequiredArchNodeAffinity` cites and `docs/enhancements/MTO-0001.md`
follows): while a pod has scheduling gates, an update may remove gates and may only tighten the node affinity. A
required selector that is nil may be set; one that is set keeps its terms, each keeping its fields and getting
expressions appended. Preferred terms may be appended. Labels and annotations are metadata the API server lets any
update change; every other field of the pod stays.

`Pod.GatedUpdate p p'` says that `p'` differs from `p` only in those ways, and that the gates lose at most the
operator's, the others kept in their order. It is a preorder (`GatedUpdate.refl`, `GatedUpdate.trans`), so a run of
updates that are each of this kind is one; `Theorems.Frame` shows that every write of the pod reconciler is.
-/

namespace MultiarchTuning

open Utils

/-- A required term may only grow: its fields stay, and its old expressions are a prefix of its new ones. -/
def TermGrows (t t' : NodeSelectorTerm) : Prop :=
  t'.matchFields = t.matchFields ∧ t.matchExpressions <+: t'.matchExpressions

/-- A required selector may be set when nil; once set, it keeps its terms, each growing. -/
def SelectorGrows : Option NodeSelector → Option NodeSelector → Prop
  | none, _ => True
  | some s, some s' => List.Forall₂ TermGrows s.nodeSelectorTerms s'.nodeSelectorTerms
  | some _, none => False

/-- The gates lose at most the operator's, the others kept in their order. -/
def GatesShrink (gs gs' : List PodSchedulingGate) : Prop :=
  gs' = gs ∨ gs' = gs.filter (·.name != schedulingGateName)

/-- `p'` is an update of the gated pod `p` that KEP-3838 allows and that changes nothing else but labels and
annotations. -/
structure Pod.GatedUpdate (p p' : Pod) : Prop where
  metadata : p'.metadata = { p.metadata with labels := p'.metadata.labels, annotations := p'.metadata.annotations }
  spec : p'.spec = { p.spec with schedulingGates := p'.spec.schedulingGates, affinity := p'.spec.affinity }
  gates : GatesShrink p.spec.schedulingGates p'.spec.schedulingGates
  podAffinity : p'.spec.affinity.bind (·.podAffinity) = p.spec.affinity.bind (·.podAffinity)
  podAntiAffinity : p'.spec.affinity.bind (·.podAntiAffinity) = p.spec.affinity.bind (·.podAntiAffinity)
  required : SelectorGrows p.requiredSelector? p'.requiredSelector?
  preferred : p.preferredTerms <+: p'.preferredTerms

/-! ## The preorder -/

theorem TermGrows.refl (t : NodeSelectorTerm) : TermGrows t t := ⟨rfl, List.prefix_refl _⟩

theorem TermGrows.trans {a b c : NodeSelectorTerm} (h : TermGrows a b) (h' : TermGrows b c) : TermGrows a c :=
  ⟨h'.1.trans h.1, h.2.trans h'.2⟩

theorem forall₂_termGrows_refl (ts : List NodeSelectorTerm) : List.Forall₂ TermGrows ts ts :=
  List.forall₂_same.mpr fun t _ => TermGrows.refl t

theorem forall₂_termGrows_trans {a b c : List NodeSelectorTerm} (h : List.Forall₂ TermGrows a b)
    (h' : List.Forall₂ TermGrows b c) : List.Forall₂ TermGrows a c := by
  induction h generalizing c with
  | nil => exact h'
  | cons hab _ ih =>
    cases h' with
    | cons hbc htl => exact .cons (hab.trans hbc) (ih htl)

theorem SelectorGrows.refl (s : Option NodeSelector) : SelectorGrows s s := by
  cases s with
  | none => trivial
  | some s => exact forall₂_termGrows_refl _

theorem SelectorGrows.trans {a b c : Option NodeSelector} (h : SelectorGrows a b) (h' : SelectorGrows b c) :
    SelectorGrows a c := by
  match a, b, c, h, h' with
  | none, _, _, _, _ => trivial
  | some _, some _, some _, h, h' => exact forall₂_termGrows_trans h h'

theorem GatesShrink.refl (gs : List PodSchedulingGate) : GatesShrink gs gs := .inl rfl

theorem GatesShrink.trans {a b c : List PodSchedulingGate} (h : GatesShrink a b) (h' : GatesShrink b c) :
    GatesShrink a c := by
  rcases h with rfl | rfl
  · exact h'
  · rcases h' with rfl | rfl
    · exact .inr rfl
    · exact .inr (by simp only [List.filter_filter, Bool.and_self])

namespace Pod.GatedUpdate

theorem refl (p : Pod) : p.GatedUpdate p :=
  ⟨rfl, rfl, GatesShrink.refl _, rfl, rfl, SelectorGrows.refl _, List.prefix_refl _⟩

theorem trans {a b c : Pod} (h : a.GatedUpdate b) (h' : b.GatedUpdate c) : a.GatedUpdate c where
  metadata := by rw [h'.metadata, h.metadata]
  spec := by rw [h'.spec, h.spec]
  gates := h.gates.trans h'.gates
  podAffinity := h'.podAffinity.trans h.podAffinity
  podAntiAffinity := h'.podAntiAffinity.trans h.podAntiAffinity
  required := h.required.trans h'.required
  preferred := h.preferred.trans h'.preferred

/-- An update that writes only labels and annotations. -/
theorem of_spec_eq {p p' : Pod}
    (hm : p'.metadata = { p.metadata with labels := p'.metadata.labels, annotations := p'.metadata.annotations })
    (hs : p'.spec = p.spec) : p.GatedUpdate p' :=
  have hna : p'.nodeAffinity? = p.nodeAffinity? := by simp only [Pod.nodeAffinity?, hs]
  { metadata := hm
    spec := by rw [hs]
    gates := by rw [hs]; exact GatesShrink.refl _
    podAffinity := by rw [hs]
    podAntiAffinity := by rw [hs]
    required := by simp only [Pod.requiredSelector?, hna]; exact SelectorGrows.refl _
    preferred := by simp only [Pod.preferredTerms, hna]; exact List.prefix_refl _ }

/-- An update of the node affinity that lets the required selector and the preferred terms grow. -/
theorem of_modifyNodeAffinity (p : Pod) (f : NodeAffinity → NodeAffinity)
    (hr : SelectorGrows p.requiredSelector? (f (p.nodeAffinity?.getD Pod.emptyNodeAffinity)).requiredDuringSchedulingIgnoredDuringExecution)
    (hp : p.preferredTerms <+: (f (p.nodeAffinity?.getD Pod.emptyNodeAffinity)).preferredDuringSchedulingIgnoredDuringExecution) :
    p.GatedUpdate (p.modifyNodeAffinity f) where
  metadata := rfl
  spec := rfl
  gates := GatesShrink.refl _
  podAffinity := (Pod.modifyNodeAffinity_podAffinity p f).1
  podAntiAffinity := (Pod.modifyNodeAffinity_podAffinity p f).2
  required := by simpa [Pod.requiredSelector?] using hr
  preferred := by simpa [Pod.preferredTerms] using hp

end Pod.GatedUpdate

end MultiarchTuning
