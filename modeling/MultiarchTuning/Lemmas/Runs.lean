import MultiarchTuning.Theorems.Frame

/-!
# What a run of the reconciler keeps

The facts the results on repeated runs (`Theorems.Retries`, `Theorems.Idempotence`) share. A run writes labels, the
gate and the node affinity only (`Theorems.Frame`), so what `shouldIgnorePod` and the inspection read stays: the
exemptions, the node selector, the images (`isExempt_of_gatedUpdate`, `getArchitecturePredicate_of_gatedUpdate`). The
preferred step does not panic once the plugin guard returned, and keeps the required terms. `FailingRun` collects what
makes every run of a pod reach the inspection and find it failing on the pod's own pull secrets, which no run changes
(`pullSecretData_of_gatedUpdate`); `processPod_of_failingRun` says what such a run does, and `failingRun_gateAfter`
that the next run is in the same setting.
-/

namespace MultiarchTuning

open Utils

namespace Pod

theorem label?_removeSchedulingGate (pod : Pod) {k : String} (hk : k ≠ schedulingGateLabel) :
    pod.removeSchedulingGate.label? k = pod.label? k := by
  unfold removeSchedulingGate
  split
  · rfl
  · rw [label?_ensureLabel, if_neg hk]
    rfl

theorem isExempt_of_gatedUpdate {p p' : Pod} (h : p.GatedUpdate p') (ns : String) : p'.isExempt ns = p.isExempt ns := by
  simp only [isExempt, hasControlPlaneNodeSelector, isFromDaemonSet]
  rw [h.metadata, h.spec]

theorem imagesNamesSet_of_gatedUpdate {p p' : Pod} (h : p.GatedUpdate p') : p'.imagesNamesSet = p.imagesNamesSet := by
  simp only [imagesNamesSet]
  rw [h.spec]

theorem getArchitecturePredicate_of_gatedUpdate {p p' : Pod} (h : p.GatedUpdate p') :
    p'.getArchitecturePredicate = p.getArchitecturePredicate := by
  funext env psdl
  simp only [getArchitecturePredicate, intersectImagesArchitecture, imagesNamesSet_of_gatedUpdate h]

theorem getPodImagePullSecrets_of_gatedUpdate {p p' : Pod} (h : p.GatedUpdate p') :
    p'.getPodImagePullSecrets = p.getPodImagePullSecrets := by
  simp only [getPodImagePullSecrets]
  rw [h.spec]

/-- A gated update keeps the pull secrets a run reads: it writes neither the namespace nor the pod's pull secrets. -/
theorem pullSecretData_of_gatedUpdate {p p' : Pod} (h : p.GatedUpdate p') (env : Env) :
    p'.getPodImagePullSecrets.filterMap (env.secretData p'.metadata.«namespace») =
      p.getPodImagePullSecrets.filterMap (env.secretData p.metadata.«namespace») := by
  rw [getPodImagePullSecrets_of_gatedUpdate h, h.metadata]

theorem nodeAffinity?_congr {p q : Pod} (h : p.spec.affinity = q.spec.affinity) : p.nodeAffinity? = q.nodeAffinity? := by
  simp only [nodeAffinity?, h]

theorem isPreferredAffinityConfiguredForArchitecture_congr {p q : Pod} (h : p.spec.affinity = q.spec.affinity) :
    p.isPreferredAffinityConfiguredForArchitecture = q.isPreferredAffinityConfiguredForArchitecture := by
  simp only [isPreferredAffinityConfiguredForArchitecture, preferredTerms, nodeAffinity?_congr h]

theorem requiredSelector?_congr {p q : Pod} (h : p.spec.affinity = q.spec.affinity) :
    p.requiredSelector? = q.requiredSelector? := by
  simp only [requiredSelector?, nodeAffinity?_congr h]

theorem requiredTerms?_congr {p q : Pod} (h : p.spec.affinity = q.spec.affinity) : p.requiredTerms? = q.requiredTerms? := by
  simp only [requiredTerms?, nodeAffinity?_congr h]

/-- Whether the user constrained the architecture reads the node selector and the required terms only. -/
theorem isNodeSelectorConfiguredForArchitecture_fst_congr {p q : Pod} (hn : p.spec.nodeSelector = q.spec.nodeSelector)
    (hr : p.requiredSelector? = q.requiredSelector?) :
    p.isNodeSelectorConfiguredForArchitecture.1 = q.isNodeSelectorConfiguredForArchitecture.1 := by
  have ht : p.requiredTerms? = q.requiredTerms? := by rw [requiredTerms?_eq_map, requiredTerms?_eq_map, hr]
  simp only [isNodeSelectorConfiguredForArchitecture, hn, ht]
  split
  · rfl
  · cases q.requiredTerms? <;> rfl

end Pod

/-! ## The preferred step -/

/-- The preferred step does not panic once the plugin guard has returned. -/
theorem preferredStep_ok {cppc : Option ClusterPodPlacementConfig} {b : Bool} (hb : nodeAffinityScoringEnabled cppc = .ok b)
    (q : Pod) : ∃ p, preferredStep cppc b q = .ok p := by
  cases b with
  | false => exact ⟨q, rfl⟩
  | true =>
    cases cppc with
    | none => cases hb
    | some c =>
      cases hp : c.spec.plugins with
      | none => simp [nodeAffinityScoringEnabled, hp] at hb
      | some pl =>
        cases hn : pl.nodeAffinityScoring with
        | none => simp [nodeAffinityScoringEnabled, hp, hn] at hb
        | some nas => exact ⟨_, Pod.setPreferredArchNodeAffinity_of_plugin hp hn⟩

theorem requiredSelector?_of_preferredStep {cppc : Option ClusterPodPlacementConfig} {b : Bool} {q p : Pod}
    (h : preferredStep cppc b q = .ok p) : p.requiredSelector? = q.requiredSelector? := by
  cases b with
  | false => cases h; rfl
  | true =>
    rcases Pod.setPreferredArchNodeAffinity_inv h with rfl | ⟨-, nas, rfl⟩
    · rfl
    · rw [Pod.requiredSelector?_eq_getD q]
      simp [Pod.requiredSelector?]

theorem spec_of_preferredStep {cppc : Option ClusterPodPlacementConfig} {b : Bool} {q p : Pod}
    (h : preferredStep cppc b q = .ok p) : p.spec = { q.spec with affinity := p.spec.affinity } := by
  cases b with
  | false => cases h; rfl
  | true =>
    rcases Pod.setPreferredArchNodeAffinity_inv h with rfl | ⟨-, nas, rfl⟩ <;> rfl

theorem label?_of_preferredStep {cppc : Option ClusterPodPlacementConfig} {b : Bool} {q p : Pod}
    (h : preferredStep cppc b q = .ok p) {k : String} (hk : k ≠ preferredNodeAffinityLabel) : p.label? k = q.label? k := by
  cases b with
  | false => cases h; rfl
  | true =>
    rcases Pod.setPreferredArchNodeAffinity_inv h with rfl | ⟨-, nas, rfl⟩
    · rfl
    · rw [Pod.label?_ensureLabel, if_neg hk]
      rfl

/-- The preferred step keeps what the required step reads first: the node selector and the required terms. -/
theorem isNodeSelectorConfiguredForArchitecture_of_preferredStep {cppc : Option ClusterPodPlacementConfig} {b : Bool}
    {q p : Pod} (h : preferredStep cppc b q = .ok p) :
    p.isNodeSelectorConfiguredForArchitecture.1 = q.isNodeSelectorConfiguredForArchitecture.1 :=
  Pod.isNodeSelectorConfiguredForArchitecture_fst_congr (by rw [spec_of_preferredStep h])
    (requiredSelector?_of_preferredStep h)

/-- After the required step only the gate is written. -/
theorem affinity_gateAfter (r : Pod × Option String) : (gateAfter r).spec.affinity = r.1.spec.affinity := by
  unfold gateAfter
  split
  · rw [Pod.removeSchedulingGate_spec]
  · rfl

/-! ## A run whose image inspection fails -/

/-- A pod whose runs all reach the image inspection, and find it failing: the pod is not exempt and its user did not
constrain the architecture, the plugin guard does not panic, and the inspection fails on the pull secrets of the pod
that the run reads. -/
structure FailingRun (env : Env) (cppc : Option ClusterPodPlacementConfig) (pod : Pod) : Prop where
  not_exempt : pod.isExempt env.operatorNamespace = false
  not_configured : pod.isNodeSelectorConfiguredForArchitecture.1 = false
  no_panic : ∃ b, nodeAffinityScoringEnabled cppc = .ok b
  fails : ∃ e, pod.getArchitecturePredicate env
    (pod.getPodImagePullSecrets.filterMap (env.secretData pod.metadata.«namespace»)) = .error e

/-- An inspection that fails on every image. -/
def failingEnv : Env :=
  ⟨"openshift-multiarch-tuning-operator", fun _ _ _ => .error "inspection failed", id, List.Perm.refl, fun _ _ => none⟩

/-- A failed run: the preferred step, the inspection's error recorded, and the gate removed at the last retry. -/
theorem processPod_of_failingRun {env : Env} {cppc : Option ClusterPodPlacementConfig} {q : Pod}
    (hs : FailingRun env cppc q) :
    ∃ b p e, nodeAffinityScoringEnabled cppc = .ok b ∧ preferredStep cppc b q = .ok p ∧
      processPod env cppc q = .ok (gateAfter (p.handleError (some e), some e)) := by
  obtain ⟨b, hb⟩ := hs.no_panic
  obtain ⟨p, hp⟩ := preferredStep_ok hb q
  have hup : q.GatedUpdate p := gatedUpdate_preferredStep hp
  have hc : p.isNodeSelectorConfiguredForArchitecture.1 = false := by
    rw [isNodeSelectorConfiguredForArchitecture_of_preferredStep hp]
    exact hs.not_configured
  obtain ⟨e, he⟩ := hs.fails
  rw [← Pod.getArchitecturePredicate_of_gatedUpdate hup, ← Pod.pullSecretData_of_gatedUpdate hup] at he
  have hi : q.shouldIgnorePod env.operatorNamespace cppc = .ok (false, q) :=
    Pod.shouldIgnorePod_of_not_configured cppc hs.not_exempt hs.not_configured
  refine ⟨b, p, e, hb, hp, ?_⟩
  rw [processPod_of_not_ignore hi hb hp, requiredStep_eq, Pod.setNodeAffinityArchRequirement_of_error hc he]
  rfl

/-- A failed run keeps the pod failing. -/
theorem failingRun_gateAfter {env : Env} {cppc : Option ClusterPodPlacementConfig} {q p : Pod} {b : Bool} (e : String)
    (hs : FailingRun env cppc q) (hp : preferredStep cppc b q = .ok p) :
    FailingRun env cppc (gateAfter (p.handleError (some e), some e)) := by
  have hup : q.GatedUpdate (gateAfter (p.handleError (some e), some e)) :=
    (gatedUpdate_preferredStep hp).trans
      ((Pod.gatedUpdate_handleError p (some e)).trans (gatedUpdate_gateAfter (p.handleError (some e), some e)))
  have haff : (gateAfter (p.handleError (some e), some e)).spec.affinity = p.spec.affinity := by
    rw [affinity_gateAfter, Pod.handleError_spec]
  have hreq : (gateAfter (p.handleError (some e), some e)).requiredSelector? = q.requiredSelector? := by
    rw [← requiredSelector?_of_preferredStep hp]
    exact Pod.requiredSelector?_congr haff
  refine ⟨?_, ?_, hs.no_panic, ?_⟩
  · rw [Pod.isExempt_of_gatedUpdate hup]
    exact hs.not_exempt
  · rw [Pod.isNodeSelectorConfiguredForArchitecture_fst_congr (by rw [hup.spec]) hreq]
    exact hs.not_configured
  · rw [Pod.getArchitecturePredicate_of_gatedUpdate hup, Pod.pullSecretData_of_gatedUpdate hup]
    exact hs.fails

end MultiarchTuning
