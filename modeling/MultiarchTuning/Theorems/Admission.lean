import MultiarchTuning.Semantics.NodeAffinity
import MultiarchTuning.PodPlacement.Images

/-!
# The nodes the patched required affinity admits

`SetNodeAffinityArchRequirement` on a pod it patches writes the patched terms of the old required affinity
(`requiredSelector?_setNodeAffinityArchRequirement`), so by `Semantics.NodeAffinity` the new affinity admits a node
iff some patched term does. When the old affinity is absent (or has no term), that is iff the requirement holds of the
node. When no old term is empty, it is iff some old term admits the node and either mentions the requirement's key or
the requirement holds: the patch never admits a node the user's affinity rejected, and a node admitted through a
patched term has an architecture the images support.

An explicit empty term is the exception: it admits no node, and once patched it admits every node the requirement
admits, so a pod its user made unschedulable becomes schedulable (`requiredAdmits_of_isEmpty_mem`, and the pod
`unschedulablePod` below).
-/

namespace MultiarchTuning

open Utils NodeSelectorTerm

namespace Pod

/-- The required affinity `SetNodeAffinityArchRequirement` writes on a pod it patches: the patched terms of the old
one, a missing one read as no term. -/
theorem requiredSelector?_setNodeAffinityArchRequirement {pod p' : Pod} {env : Env} {psdl : List Bytes}
    {r : NodeSelectorRequirement} {res : Except String Bool}
    (hc : pod.isNodeSelectorConfiguredForArchitecture.1 = false) (hr : pod.getArchitecturePredicate env psdl = .ok r)
    (h : pod.setNodeAffinityArchRequirement env psdl = .ok (p', res)) :
    p'.requiredSelector? = some ⟨patchTerms r (pod.requiredTerms?.getD [])⟩ := by
  rw [setNodeAffinityArchRequirement_of_ok hc hr] at h
  simp only [Except.ok.injEq, Prod.mk.injEq] at h
  obtain ⟨rfl, -⟩ := h
  simp [requiredSelector?]

end Pod

section Patched

variable {pod p' : Pod} {env : Env} {psdl : List Bytes} {r : NodeSelectorRequirement} {res : Except String Bool}

/-- The new required affinity admits a node iff one of the patched terms does. -/
theorem requiredAdmits_setNodeAffinityArchRequirement (hc : pod.isNodeSelectorConfiguredForArchitecture.1 = false)
    (hr : pod.getArchitecturePredicate env psdl = .ok r) (h : pod.setNodeAffinityArchRequirement env psdl = .ok (p', res))
    (n : Node) :
    requiredAdmits p'.requiredSelector? n = (Pod.patchTerms r (pod.requiredTerms?.getD [])).any (·.admits n) := by
  rw [Pod.requiredSelector?_setNodeAffinityArchRequirement hc hr h]
  rfl

/-- With old terms none of which is empty, the new affinity admits a node iff an old term admits it and has an
expression on the key or the requirement holds. -/
theorem requiredAdmits_iff_of_not_isEmpty {ts : List NodeSelectorTerm}
    (hc : pod.isNodeSelectorConfiguredForArchitecture.1 = false) (hr : pod.getArchitecturePredicate env psdl = .ok r)
    (h : pod.setNodeAffinityArchRequirement env psdl = .ok (p', res)) (hts : pod.requiredTerms? = some ts) (hne : ts ≠ [])
    (hall : ∀ t ∈ ts, t.isEmpty = false) (n : Node) :
    requiredAdmits p'.requiredSelector? n = true ↔
      ∃ t ∈ ts, t.admits n = true ∧ (t.hasKey r.key = true ∨ r.matchesOn n.labels = true) := by
  rw [requiredAdmits_setNodeAffinityArchRequirement hc hr h, hts, Option.getD_some]
  exact anyAdmits_patchTerms_of_not_isEmpty r hne hall n

/-- With old terms none of which is empty, the patch admits no node the old affinity rejected. -/
theorem requiredAdmits_of_setNodeAffinityArchRequirement {ts : List NodeSelectorTerm}
    (hc : pod.isNodeSelectorConfiguredForArchitecture.1 = false) (hr : pod.getArchitecturePredicate env psdl = .ok r)
    (h : pod.setNodeAffinityArchRequirement env psdl = .ok (p', res)) (hts : pod.requiredTerms? = some ts) (hne : ts ≠ [])
    (hall : ∀ t ∈ ts, t.isEmpty = false) {n : Node} (hadm : requiredAdmits p'.requiredSelector? n = true) :
    requiredAdmits pod.requiredSelector? n = true := by
  obtain ⟨t, ht, hta, -⟩ := (requiredAdmits_iff_of_not_isEmpty hc hr h hts hne hall n).mp hadm
  have hsel : pod.requiredSelector? = some ⟨ts⟩ := by
    rw [Pod.requiredTerms?_eq_map] at hts
    obtain ⟨s, hs, hst⟩ := Option.map_eq_some_iff.mp hts
    rw [hs, ← hst]
  rw [hsel]
  exact List.any_eq_true.mpr ⟨t, ht, hta⟩

/-- An empty old term widens the affinity: the new affinity admits every node the requirement admits. -/
theorem requiredAdmits_of_isEmpty_mem {ts : List NodeSelectorTerm} {t : NodeSelectorTerm}
    (hc : pod.isNodeSelectorConfiguredForArchitecture.1 = false) (hr : pod.getArchitecturePredicate env psdl = .ok r)
    (h : pod.setNodeAffinityArchRequirement env psdl = .ok (p', res)) (hts : pod.requiredTerms? = some ts)
    (ht : t ∈ ts) (he : t.isEmpty = true) {n : Node} (hn : r.matchesOn n.labels = true) :
    requiredAdmits p'.requiredSelector? n = true := by
  have hne : ts ≠ [] := List.ne_nil_of_mem ht
  rw [requiredAdmits_setNodeAffinityArchRequirement hc hr h, hts, Option.getD_some,
    anyAdmits_patchTerms_of_ne_nil r hne]
  exact List.any_eq_true.mpr ⟨t, ht, by rw [termAdmits_patchTerm_of_isEmpty he, hn]⟩

end Patched

/-! ## A pod its user made unschedulable -/

/-- A gated pod with one image whose required affinity is a single explicit empty term, which admits no node. -/
def unschedulablePod : Pod :=
  ⟨{ (default : ObjectMeta) with name := "p", «namespace» := "default" },
    ⟨"", ∅, some ⟨some ⟨some ⟨[⟨[], []⟩]⟩, []⟩, none, none⟩, [⟨schedulingGateName⟩], [⟨"c", "img", .IfNotPresent⟩], [],
      []⟩⟩

/-- An inspection that finds every image built for `amd64` only. -/
def amd64Env : Env :=
  ⟨"openshift-multiarch-tuning-operator", fun _ _ _ => .ok {"amd64"}, id, List.Perm.refl, fun _ _ => none⟩

/-- An `amd64` node. -/
def amd64Node : Node := ⟨(∅ : StrMap).insert archLabel "amd64", ∅⟩

theorem getArchitecturePredicate_unschedulablePod (psdl : List Bytes) :
    unschedulablePod.getArchitecturePredicate amd64Env psdl = .ok ⟨archLabel, .In, some ["amd64"]⟩ := by
  have hi : unschedulablePod.imagesNamesSet = [⟨"//img", false⟩] := rfl
  simp [Pod.getArchitecturePredicate, Pod.intersectImagesArchitecture, hi, amd64Env, Go.meetStep, Pod.inspectImage,
    setsList]

/-- The patch makes `unschedulablePod` schedulable on an `amd64` node, which its own affinity rejects. -/
theorem setNodeAffinityArchRequirement_admits_rejected_node :
    ∃ p', unschedulablePod.setNodeAffinityArchRequirement amd64Env [] = .ok (p', .ok true) ∧
      requiredAdmits unschedulablePod.requiredSelector? amd64Node = false ∧
      requiredAdmits p'.requiredSelector? amd64Node = true := by
  have hc : unschedulablePod.isNodeSelectorConfiguredForArchitecture.1 = false := rfl
  have hr := getArchitecturePredicate_unschedulablePod []
  obtain ⟨p', hp'⟩ : ∃ p', unschedulablePod.setNodeAffinityArchRequirement amd64Env [] = .ok (p', .ok true) :=
    ⟨_, Pod.setNodeAffinityArchRequirement_of_ok hc hr⟩
  refine ⟨p', hp', rfl, ?_⟩
  exact requiredAdmits_of_isEmpty_mem hc hr hp' rfl (List.mem_singleton_self _) rfl (by decide)

/-! ## A pod its user restricted to one node -/

/-- A gated pod with one image whose required affinity asks for the node `n1`. -/
def hostnamePod : Pod :=
  ⟨{ (default : ObjectMeta) with name := "p", «namespace» := "default" },
    ⟨"", ∅, some ⟨some ⟨some ⟨[⟨[⟨"kubernetes.io/hostname", .In, some ["n1"]⟩], []⟩]⟩, []⟩, none, none⟩,
      [⟨schedulingGateName⟩], [⟨"c", "img", .IfNotPresent⟩], [], []⟩⟩

/-- The `amd64` node `n1`. -/
def n1Node : Node := ⟨((∅ : StrMap).insert archLabel "amd64").insert "kubernetes.io/hostname" "n1", ∅⟩

/-- The patch of `hostnamePod` admits `n1`, which the user's affinity admits too. -/
theorem requiredAdmits_of_setNodeAffinityArchRequirement_hostnamePod :
    ∃ p' res, hostnamePod.setNodeAffinityArchRequirement amd64Env [] = .ok (p', res) ∧
      requiredAdmits p'.requiredSelector? n1Node = true ∧ requiredAdmits hostnamePod.requiredSelector? n1Node = true := by
  have hc : hostnamePod.isNodeSelectorConfiguredForArchitecture.1 = false := rfl
  have hr : hostnamePod.getArchitecturePredicate amd64Env [] = .ok ⟨archLabel, .In, some ["amd64"]⟩ := by
    have hi : hostnamePod.imagesNamesSet = [⟨"//img", false⟩] := rfl
    simp [Pod.getArchitecturePredicate, Pod.intersectImagesArchitecture, hi, amd64Env, Go.meetStep, Pod.inspectImage,
      setsList]
  obtain ⟨p', hp'⟩ : ∃ p', hostnamePod.setNodeAffinityArchRequirement amd64Env [] = .ok (p', .ok true) :=
    ⟨_, Pod.setNodeAffinityArchRequirement_of_ok hc hr⟩
  have hne : [(⟨[⟨"kubernetes.io/hostname", .In, some ["n1"]⟩], []⟩ : NodeSelectorTerm)] ≠ [] := List.cons_ne_nil _ _
  have hall : ∀ t ∈ [(⟨[⟨"kubernetes.io/hostname", .In, some ["n1"]⟩], []⟩ : NodeSelectorTerm)], t.isEmpty = false := by
    decide
  have hadm : requiredAdmits p'.requiredSelector? n1Node = true :=
    (requiredAdmits_iff_of_not_isEmpty hc hr hp' rfl hne hall n1Node).mpr
      ⟨_, List.mem_singleton_self _, by decide, .inr (by decide)⟩
  exact ⟨p', _, hp', hadm, requiredAdmits_of_setNodeAffinityArchRequirement hc hr hp' rfl hne hall hadm⟩

end MultiarchTuning
