import MultiarchTuning.Lemmas.Runs

/-!
# Retries leave no partial affinity

A run that fails the inspection still goes through the preferred step, which may allocate the affinity and append the
plugin's preferred terms, and then returns before the required step writes anything. The node affinity of a pod is
what every write of a run reads and writes (`affinity_modifyNodeAffinity_congr`), so the runs are compared on it.

The preferred step is idempotent on the affinity (`affinity_preferredStep_idem`): the terms it appends each have an
expression on `kubernetes.io/arch`, so after them `isPreferredAffinityConfiguredForArchitecture` holds, and when the
plugin has no platform it appends nothing and only the allocation, already done, is left. `PreferredSettled` says that
the preferred step of a pod gives the affinity it gives on the original pod; it holds of the original pod and every
failed run keeps it (`preferredSettled_gateAfter`). A successful run writes the required terms patched from the affinity
its preferred step left (`processPod_affinity_of_inspected`), so the successful run after any number of failed ones
ends with the affinity of a successful first run (`processRuns_affinity_eq_processPod`).
-/

namespace MultiarchTuning

open Utils

namespace Pod

theorem affinity_modifyNodeAffinity_congr {p q : Pod} (h : p.spec.affinity = q.spec.affinity)
    (f : NodeAffinity → NodeAffinity) :
    (p.modifyNodeAffinity f).spec.affinity = (q.modifyNodeAffinity f).spec.affinity := by
  simp only [modifyNodeAffinity, h]

@[simp] theorem affinity_ensureLabel_modifyNodeAffinity (p : Pod) (k v : String) (f : NodeAffinity → NodeAffinity) :
    ((p.ensureLabel k v).modifyNodeAffinity f).spec.affinity = (p.modifyNodeAffinity f).spec.affinity := rfl

/-- A second write of the node affinity that does not change what the first wrote leaves the affinity as it was. -/
theorem affinity_modifyNodeAffinity_of_idem (p : Pod) {f g : NodeAffinity → NodeAffinity} (h : ∀ na, f (g na) = g na) :
    ((p.modifyNodeAffinity g).modifyNodeAffinity f).spec.affinity = (p.modifyNodeAffinity g).spec.affinity := by
  cases ha : p.spec.affinity <;> simp [modifyNodeAffinity, ha, h]

/-- After the plugin's terms, if there are any, the preferred affinity is configured. -/
theorem isPreferredAffinityConfiguredForArchitecture_append (p : Pod) {nas : NodeAffinityScoring}
    (hne : nas.platforms ≠ []) :
    isPreferredAffinityConfiguredForArchitecture (p.modifyNodeAffinity fun na =>
      { na with
        preferredDuringSchedulingIgnoredDuringExecution :=
          na.preferredDuringSchedulingIgnoredDuringExecution ++ nas.platforms.map preferredTermOf }) = true := by
  obtain ⟨t, ht⟩ := List.exists_mem_of_ne_nil _ hne
  have harch : termHasArch (preferredTermOf t).preference = true := by
    simp [termHasArch, preferredTermOf]
  simp only [isPreferredAffinityConfiguredForArchitecture, preferredTerms, nodeAffinity?_modifyNodeAffinity,
    Option.map_some, Option.getD_some, List.any_append, List.any_map, Function.comp_def]
  rw [Bool.or_eq_true, List.any_eq_true, List.any_eq_true]
  exact .inr ⟨t, ht, harch⟩

end Pod

/-! ## The preferred step -/

section Preferred

variable {cppc : Option ClusterPodPlacementConfig} {b : Bool}

/-- The plugin the preferred step reads when it is enabled. -/
theorem exists_plugin_of_enabled (hb : nodeAffinityScoringEnabled cppc = .ok true) :
    ∃ c pl nas, cppc = some c ∧ c.spec.plugins = some pl ∧ pl.nodeAffinityScoring = some nas := by
  cases cppc with
  | none => cases hb
  | some c =>
    cases hp : c.spec.plugins with
    | none => simp [nodeAffinityScoringEnabled, hp] at hb
    | some pl =>
      cases hn : pl.nodeAffinityScoring with
      | none => simp [nodeAffinityScoringEnabled, hp, hn] at hb
      | some nas => exact ⟨c, pl, nas, rfl, hp, hn⟩

/-- The preferred step of an enabled plugin, as a function of the pod. -/
theorem preferredStep_of_plugin {c : ClusterPodPlacementConfig} {pl : Plugins} {nas : NodeAffinityScoring}
    (hp : c.spec.plugins = some pl) (hn : pl.nodeAffinityScoring = some nas) (q : Pod) :
    preferredStep (some c) true q =
      .ok (if q.isPreferredAffinityConfiguredForArchitecture then q
        else (q.modifyNodeAffinity fun na =>
          { na with
            preferredDuringSchedulingIgnoredDuringExecution :=
              na.preferredDuringSchedulingIgnoredDuringExecution ++ nas.platforms.map Pod.preferredTermOf }).ensureLabel
          preferredNodeAffinityLabel nodeAffinityLabelValueSet) :=
  @Pod.setPreferredArchNodeAffinity_of_plugin q c pl nas hp hn

/-- Pods of one affinity get one affinity from the preferred step. -/
theorem affinity_preferredStep_congr (hb : nodeAffinityScoringEnabled cppc = .ok b) {p q p' q' : Pod}
    (h : p.spec.affinity = q.spec.affinity) (hp : preferredStep cppc b p = .ok p')
    (hq : preferredStep cppc b q = .ok q') : p'.spec.affinity = q'.spec.affinity := by
  cases b with
  | false =>
    cases hp
    cases hq
    exact h
  | true =>
    obtain ⟨c, pl, nas, rfl, hpl, hn⟩ := exists_plugin_of_enabled hb
    rw [preferredStep_of_plugin hpl hn, Except.ok.injEq] at hp hq
    subst hp hq
    rw [Pod.isPreferredAffinityConfiguredForArchitecture_congr h]
    split
    · exact h
    · simp only [Pod.ensureLabel_spec]
      exact Pod.affinity_modifyNodeAffinity_congr h _

/-- The preferred step is idempotent on the affinity. -/
theorem affinity_preferredStep_idem (hb : nodeAffinityScoringEnabled cppc = .ok b) {q p p' : Pod}
    (hp : preferredStep cppc b q = .ok p) (hp' : preferredStep cppc b p = .ok p') : p'.spec.affinity = p.spec.affinity := by
  cases b with
  | false =>
    cases hp'
    rfl
  | true =>
    obtain ⟨c, pl, nas, rfl, hpl, hn⟩ := exists_plugin_of_enabled hb
    rw [preferredStep_of_plugin hpl hn, Except.ok.injEq] at hp hp'
    subst hp'
    split
    · rfl
    · rename_i hconf
      cases hq : q.isPreferredAffinityConfiguredForArchitecture with
      | true =>
        simp only [hq, if_true] at hp
        subst hp
        exact absurd hq hconf
      | false =>
        simp only [hq, Bool.false_eq_true, if_false] at hp
        subst hp
        have hnil : nas.platforms = [] := by
          by_contra hne
          exact hconf (Pod.isPreferredAffinityConfiguredForArchitecture_append q hne)
        simp only [Pod.ensureLabel_spec, Pod.affinity_ensureLabel_modifyNodeAffinity]
        exact Pod.affinity_modifyNodeAffinity_of_idem q (by intro na; simp [hnil])

end Preferred

/-! ## The required step -/

/-- A run that reaches the inspection and finds `r` ends with the affinity of the preferred step, its required terms
patched. -/
theorem processPod_affinity_of_inspected {env : Env} {cppc : Option ClusterPodPlacementConfig} {b : Bool} {q p : Pod}
    {r : NodeSelectorRequirement} (hx : q.isExempt env.operatorNamespace = false)
    (hc : q.isNodeSelectorConfiguredForArchitecture.1 = false) (hb : nodeAffinityScoringEnabled cppc = .ok b)
    (hp : preferredStep cppc b q = .ok p)
    (hr : q.getArchitecturePredicate env (q.getPodImagePullSecrets.filterMap (env.secretData q.metadata.«namespace»)) =
      .ok r) :
    ∃ Q, processPod env cppc q = .ok Q ∧
      Q.spec.affinity = (p.modifyNodeAffinity fun na =>
        { na with
          requiredDuringSchedulingIgnoredDuringExecution :=
            some ⟨Pod.patchTerms r (p.requiredTerms?.getD [])⟩ }).spec.affinity := by
  have hup : q.GatedUpdate p := gatedUpdate_preferredStep hp
  have hc' : p.isNodeSelectorConfiguredForArchitecture.1 = false := by
    rw [isNodeSelectorConfiguredForArchitecture_of_preferredStep hp]
    exact hc
  let psdl := p.getPodImagePullSecrets.filterMap (env.secretData p.metadata.«namespace»)
  have hr' : p.getArchitecturePredicate env psdl = .ok r := by
    rw [Pod.getArchitecturePredicate_of_gatedUpdate hup, show psdl = _ from Pod.pullSecretData_of_gatedUpdate hup env]
    exact hr
  obtain ⟨p', hs, ha⟩ : ∃ p', p.setNodeAffinityArchRequirement env psdl = .ok (p', .ok true) ∧
      p'.spec.affinity = (p.modifyNodeAffinity fun na =>
        { na with
          requiredDuringSchedulingIgnoredDuringExecution :=
            some ⟨Pod.patchTerms r (p.requiredTerms?.getD [])⟩ }).spec.affinity :=
    ⟨_, Pod.setNodeAffinityArchRequirement_of_ok hc' hr', by
      rw [Pod.ensureLabel_spec]
      exact Pod.affinity_modifyNodeAffinity_congr (by simp) _⟩
  have hi : q.shouldIgnorePod env.operatorNamespace cppc = .ok (false, q) :=
    Pod.shouldIgnorePod_of_not_configured cppc hx hc
  refine ⟨gateAfter (p'.handleError none, none), ?_, ?_⟩
  · rw [processPod_of_not_ignore hi hb hp, requiredStep_eq, hs]
    rfl
  · rw [affinity_gateAfter, Pod.handleError_spec, ha]

/-! ## Failed runs -/

/-- The preferred step of `q` gives the affinity it gives on `P`. -/
def PreferredSettled (cppc : Option ClusterPodPlacementConfig) (b : Bool) (P q : Pod) : Prop :=
  ∀ p p', preferredStep cppc b P = .ok p → preferredStep cppc b q = .ok p' → p'.spec.affinity = p.spec.affinity

section Settled

variable {cppc : Option ClusterPodPlacementConfig} {b : Bool} {P : Pod}

theorem preferredSettled_refl (P : Pod) : PreferredSettled cppc b P P := by
  intro p p' hp hp'
  rw [hp, Except.ok.injEq] at hp'
  rw [hp']

/-- A failed run keeps the preferred step settled: the run leaves the affinity of its preferred step, on which a second
preferred step changes nothing. -/
theorem preferredSettled_gateAfter (hb : nodeAffinityScoringEnabled cppc = .ok b) {q p : Pod}
    (hset : PreferredSettled cppc b P q) (hp : preferredStep cppc b q = .ok p) (e : String) :
    PreferredSettled cppc b P (gateAfter (p.handleError (some e), some e)) := by
  intro p0 p1 h0 h1
  have ha : (gateAfter (p.handleError (some e), some e)).spec.affinity = p.spec.affinity := by
    rw [affinity_gateAfter, Pod.handleError_spec]
  obtain ⟨p2, hp2⟩ := preferredStep_ok hb p
  calc p1.spec.affinity = p2.spec.affinity := affinity_preferredStep_congr hb ha h1 hp2
    _ = p.spec.affinity := affinity_preferredStep_idem hb hp hp2
    _ = p0.spec.affinity := hset p0 p h0 hp

/-- `n` failed runs keep the pod failing and its preferred step settled, change only what a gated update may, and
leave the required affinity as it was. -/
theorem processRuns_failing_settled {env : Env} (hb : nodeAffinityScoringEnabled cppc = .ok b) (n : Nat) :
    ∀ {q : Pod}, FailingRun env cppc q → PreferredSettled cppc b P q →
      ∃ q', processRuns cppc (List.replicate n env) q = .ok q' ∧ FailingRun env cppc q' ∧
        PreferredSettled cppc b P q' ∧ q.GatedUpdate q' ∧ q'.requiredSelector? = q.requiredSelector? := by
  induction n with
  | zero =>
    intro q hs hset
    exact ⟨q, rfl, hs, hset, Pod.GatedUpdate.refl q, rfl⟩
  | succ n ih =>
    intro q hs hset
    obtain ⟨b', p, e, hb', hp, hrun⟩ := processPod_of_failingRun hs
    rw [hb, Except.ok.injEq] at hb'
    subst hb'
    have hup : q.GatedUpdate (gateAfter (p.handleError (some e), some e)) :=
      (gatedUpdate_preferredStep hp).trans
        ((Pod.gatedUpdate_handleError p (some e)).trans (gatedUpdate_gateAfter (p.handleError (some e), some e)))
    have hreq : (gateAfter (p.handleError (some e), some e)).requiredSelector? = q.requiredSelector? := by
      rw [← requiredSelector?_of_preferredStep hp]
      exact Pod.requiredSelector?_congr (by rw [affinity_gateAfter, Pod.handleError_spec])
    obtain ⟨q', hq', hs', hset', hup', hreq'⟩ :=
      ih (failingRun_gateAfter e hs hp) (preferredSettled_gateAfter hb hset hp e)
    refine ⟨q', ?_, hs', hset', hup.trans hup', hreq'.trans hreq⟩
    rw [List.replicate_succ, processRuns_cons_of_ok hrun, hq']

end Settled

/-- Failed runs followed by one that finds the requirement `r` leave the affinity a first successful run leaves, and
the failed runs leave the required affinity as it was. -/
theorem processRuns_affinity_eq_processPod {envFail envOk : Env} {cppc : Option ClusterPodPlacementConfig} {P : Pod}
    {r : NodeSelectorRequirement} (hs : FailingRun envFail cppc P) (hx : P.isExempt envOk.operatorNamespace = false)
    (hok : P.getArchitecturePredicate envOk
      (P.getPodImagePullSecrets.filterMap (envOk.secretData P.metadata.«namespace»)) = .ok r) (n : Nat) :
    (∃ q, processRuns cppc (List.replicate n envFail) P = .ok q ∧ q.requiredSelector? = P.requiredSelector?) ∧
      ∃ Pk Q, processRuns cppc (List.replicate n envFail ++ [envOk]) P = .ok Pk ∧ processPod envOk cppc P = .ok Q ∧
        Pk.spec.affinity = Q.spec.affinity := by
  obtain ⟨b, hb⟩ := hs.no_panic
  obtain ⟨q, hq, hsq, hset, hup, hreq⟩ := processRuns_failing_settled hb n hs (preferredSettled_refl P)
  refine ⟨⟨q, hq, hreq⟩, ?_⟩
  obtain ⟨p, hp⟩ := preferredStep_ok hb P
  obtain ⟨p', hp'⟩ := preferredStep_ok hb q
  have hxq : q.isExempt envOk.operatorNamespace = false := by
    rw [Pod.isExempt_of_gatedUpdate hup]
    exact hx
  have hokq : q.getArchitecturePredicate envOk
      (q.getPodImagePullSecrets.filterMap (envOk.secretData q.metadata.«namespace»)) = .ok r := by
    rw [Pod.getArchitecturePredicate_of_gatedUpdate hup, Pod.pullSecretData_of_gatedUpdate hup]
    exact hok
  obtain ⟨Q, hQ, hQa⟩ := processPod_affinity_of_inspected hx hs.not_configured hb hp hok
  obtain ⟨Pk, hPk, hPka⟩ := processPod_affinity_of_inspected hxq hsq.not_configured hb hp' hokq
  refine ⟨Pk, Q, ?_, hQ, ?_⟩
  · rw [processRuns_append, hq, Go.ok_bind, processRuns_cons_of_ok hPk]
    rfl
  · have ha : p'.spec.affinity = p.spec.affinity := hset p p' hp hp'
    rw [hPka, hQa, Pod.requiredTerms?_congr ha]
    exact Pod.affinity_modifyNodeAffinity_congr ha _

/-! ## A pod whose plugin prefers `arm64` -/

/-- A configuration whose plugin is enabled and prefers `arm64` nodes. -/
def arm64Preferring : ClusterPodPlacementConfig :=
  ⟨{ (default : ObjectMeta) with name := "cluster" }, ⟨"Normal", none, some ⟨some ⟨⟨true⟩, [⟨"arm64", 50⟩]⟩⟩⟩, ⟨[]⟩⟩

theorem failingRun_unschedulablePod : FailingRun failingEnv (some arm64Preferring) unschedulablePod where
  not_exempt := rfl
  not_configured := rfl
  no_panic := ⟨true, rfl⟩
  fails := by
    have hi : unschedulablePod.imagesNamesSet = [⟨"//img", false⟩] := rfl
    exact ⟨"inspection failed", by
      simp [Pod.getArchitecturePredicate, Pod.intersectImagesArchitecture, hi, failingEnv, Go.meetStep,
        Pod.inspectImage]⟩

/-- Two failed runs and a successful one leave `unschedulablePod` the affinity one successful run leaves it. -/
theorem processRuns_affinity_eq_processPod_unschedulablePod :
    (∃ q, processRuns (some arm64Preferring) (List.replicate 2 failingEnv) unschedulablePod = .ok q ∧
        q.requiredSelector? = unschedulablePod.requiredSelector?) ∧
      ∃ Pk Q, processRuns (some arm64Preferring) (List.replicate 2 failingEnv ++ [amd64Env]) unschedulablePod =
          .ok Pk ∧ processPod amd64Env (some arm64Preferring) unschedulablePod = .ok Q ∧
        Pk.spec.affinity = Q.spec.affinity :=
  processRuns_affinity_eq_processPod failingRun_unschedulablePod rfl (getArchitecturePredicate_unschedulablePod _) 2

end MultiarchTuning
