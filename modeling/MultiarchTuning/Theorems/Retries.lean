import MultiarchTuning.Lemmas.Runs

/-!
# How many failed inspections a gated pod waits for

The retry counter is a decimal string in the `image-inspect-error-count` label. `handleError` increments it with
`ensureAndIncrementLabel`, which restarts from `"1"` when the label is absent or does not parse as an `int32`, and
`maxRetries`, read after the increment, holds when the new value does not parse or has reached `MaxRetryCount`. So a
run that fails the inspection moves the counter by `nextRetryCount` and removes the gate when `retriesExhausted` holds
of the new value (`hasSchedulingGate_gateAfter`), and a run of such runs follows the counter (`processRuns_failing`).

From a counter that is absent or unparsable the gate goes after exactly `MaxRetryCount` failed runs, with the label
then `"5"`; from a parsed value `v` it goes after exactly `max 1 (MaxRetryCount - v)` runs (`retryBound`). That would be
more than `MaxRetryCount` for a negative `v`, but the API server takes only label values that `IsValidLabelValue`
accepts, and none of them starts with a minus sign (`retryCount_nonneg`). A run in which the inspection succeeds
removes the gate (`processPod_hasSchedulingGate_of_ok`).
-/

namespace MultiarchTuning

open Utils

/-- The retry counter as `ensureAndIncrementLabel` and `maxRetries` read it: the count label parsed as an `int32`. -/
def Pod.retryCount (pod : Pod) : Option Int := (pod.label? imageInspectionErrorCountLabel).bind (Go.parseInt · 32)

/-- The count label `ensureAndIncrementLabel` writes after the counter `c`. -/
def nextRetryLabel : Option Int → String
  | none => "1"
  | some cur => Go.formatInt (cur + 1)

/-- The counter after a failed run: the label just written, parsed again. -/
def nextRetryCount (c : Option Int) : Option Int := Go.parseInt (nextRetryLabel c) 32

/-- `maxRetries` of a pod whose labels hold the counter `c`. -/
def retriesExhausted : Option Int → Bool
  | none => true
  | some v => decide (maxRetryCount ≤ v)

/-- Whether the gate is still there after `n` failed runs from the counter `c`. -/
def gatedAfterFailures : Option Int → Nat → Bool
  | _, 0 => true
  | c, n + 1 => !retriesExhausted (nextRetryCount c) && gatedAfterFailures (nextRetryCount c) n

/-- The number of failed runs after which the gate goes, from the counter `c`. -/
def retryBound : Option Int → Nat
  | none => maxRetryCount.toNat
  | some v => (max 1 (maxRetryCount - v)).toNat

/-! ## The counter -/

/-- Below `MaxRetryCount` an `int32` counter is incremented. -/
theorem nextRetryCount_some {v : Int} (hv : Go.fitsInt 32 v = true) (h4 : v < maxRetryCount) :
    nextRetryCount (some v) = some (v + 1) := by
  have hfit : Go.fitsInt 32 (v + 1) = true := by
    simp only [Go.fitsInt, decide_eq_true_eq] at hv ⊢
    simp only [maxRetryCount] at h4
    omega
  simp only [nextRetryCount, nextRetryLabel, Go.parseInt_formatInt, hfit, if_true]

/-- From `MaxRetryCount - 1` on, one more failed run exhausts the retries. -/
theorem retriesExhausted_nextRetryCount {v : Int} (h4 : maxRetryCount - 1 ≤ v) :
    retriesExhausted (nextRetryCount (some v)) = true := by
  simp only [nextRetryCount, nextRetryLabel, Go.parseInt_formatInt]
  split
  · simp only [retriesExhausted, decide_eq_true_eq]
    omega
  · rfl

/-- From a parsed counter `v`, the gate stays for the first `max 1 (MaxRetryCount - v)` failed runs only. -/
theorem gatedAfterFailures_some {v : Int} (hv : Go.fitsInt 32 v = true) (n : Nat) :
    gatedAfterFailures (some v) n = decide (n < retryBound (some v)) := by
  induction n generalizing v with
  | zero =>
    show true = decide (0 < (max 1 (maxRetryCount - v)).toNat)
    rw [eq_comm, decide_eq_true_iff]
    omega
  | succ n ih =>
    by_cases h4 : maxRetryCount - 1 ≤ v
    · have hb : retryBound (some v) = 1 := by
        show (max 1 (maxRetryCount - v)).toNat = 1
        omega
      simp only [gatedAfterFailures, retriesExhausted_nextRetryCount h4, hb]
      simp
    · have hlt : v < maxRetryCount := by omega
      have hnext := nextRetryCount_some hv hlt
      have hfit : Go.fitsInt 32 (v + 1) = true := by
        simp only [Go.fitsInt, decide_eq_true_eq] at hv ⊢
        simp only [maxRetryCount] at hlt
        omega
      have hb : retryBound (some v) = retryBound (some (v + 1)) + 1 := by
        show (max 1 (maxRetryCount - v)).toNat = (max 1 (maxRetryCount - (v + 1))).toNat + 1
        omega
      have hex : retriesExhausted (some (v + 1)) = false := by
        simp only [retriesExhausted, decide_eq_false_iff_not]
        omega
      simp only [gatedAfterFailures, hnext, hex, Bool.not_false, Bool.true_and, ih hfit, hb]
      simp

/-- From an absent or unparsable counter, the gate stays for the first `MaxRetryCount` failed runs only. -/
theorem gatedAfterFailures_none (n : Nat) : gatedAfterFailures none n = decide (n < retryBound none) := by
  cases n with
  | zero => rfl
  | succ n =>
    have hone : nextRetryCount none = some 1 := by decide
    have hex : retriesExhausted (some 1) = false := by decide
    simp only [gatedAfterFailures, hone, hex, Bool.not_false, Bool.true_and, gatedAfterFailures_some (show Go.fitsInt 32 1 = true by decide) n]
    simp only [retryBound, maxRetryCount]
    exact Bool.decide_congr (by omega)

theorem gatedAfterFailures_retryCount (pod : Pod) (n : Nat) :
    gatedAfterFailures pod.retryCount n = decide (n < retryBound pod.retryCount) := by
  cases hc : pod.retryCount with
  | none => exact gatedAfterFailures_none n
  | some v =>
    have hv : Go.fitsInt 32 v = true := by
      obtain ⟨s, -, hs⟩ := Option.bind_eq_some_iff.mp hc
      exact Go.fitsInt_of_parseInt hs
    exact gatedAfterFailures_some hv n

/-! ## One failed run -/

section FailedRun

variable {env : Env} {cppc : Option ClusterPodPlacementConfig} {q p : Pod} {b : Bool} {e : String}

/-- The count label after a failed run. -/
theorem label?_count_gateAfter (hp : preferredStep cppc b q = .ok p) :
    (gateAfter (p.handleError (some e), some e)).label? imageInspectionErrorCountLabel =
      some (nextRetryLabel q.retryCount) := by
  have hg : imageInspectionErrorCountLabel ≠ schedulingGateLabel := by decide
  have hpref : imageInspectionErrorCountLabel ≠ preferredNodeAffinityLabel := by decide
  have hcount : (p.handleError (some e)).label? imageInspectionErrorCountLabel = some (nextRetryLabel q.retryCount) := by
    rw [Pod.label?_handleError_count, label?_of_preferredStep hp hpref]
    rfl
  unfold gateAfter
  split
  · rw [Pod.label?_removeSchedulingGate _ hg, hcount]
  · exact hcount

/-- `maxRetries` after a failed run reads the incremented counter. -/
theorem maxRetries_handleError (hp : preferredStep cppc b q = .ok p) :
    (p.handleError (some e)).maxRetries = retriesExhausted (nextRetryCount q.retryCount) := by
  have hpref : imageInspectionErrorCountLabel ≠ preferredNodeAffinityLabel := by decide
  have hcount : (p.handleError (some e)).label? imageInspectionErrorCountLabel = some (nextRetryLabel q.retryCount) := by
    rw [Pod.label?_handleError_count, label?_of_preferredStep hp hpref]
    rfl
  rw [Pod.maxRetries_of_isSome (Pod.handleError_labels_isSome p e), hcount, Option.getD_some]
  rfl

/-- The gate after a failed run: removed when the retries are exhausted. -/
theorem hasSchedulingGate_gateAfter (hp : preferredStep cppc b q = .ok p) :
    (gateAfter (p.handleError (some e), some e)).hasSchedulingGate =
      (!retriesExhausted (nextRetryCount q.retryCount) && q.hasSchedulingGate) := by
  have hgates : (p.handleError (some e)).hasSchedulingGate = q.hasSchedulingGate := by
    simp only [Pod.hasSchedulingGate, Pod.handleError_spec]
    rw [spec_of_preferredStep hp]
  unfold gateAfter
  simp only [Option.isNone_some, Bool.false_or, maxRetries_handleError hp]
  cases retriesExhausted (nextRetryCount q.retryCount) with
  | true => simp [Pod.hasSchedulingGate_removeSchedulingGate]
  | false => simpa using hgates

end FailedRun

/-- `n` failed runs: the pod stays failing, the counter follows `nextRetryCount`, and the gate stays while the retries
last. -/
theorem processRuns_failing {env : Env} {cppc : Option ClusterPodPlacementConfig} (n : Nat) :
    ∀ {q : Pod}, FailingRun env cppc q →
      ∃ q', processRuns cppc (List.replicate n env) q = .ok q' ∧ FailingRun env cppc q' ∧
        q'.retryCount = nextRetryCount^[n] q.retryCount ∧
        q'.hasSchedulingGate = (gatedAfterFailures q.retryCount n && q.hasSchedulingGate) ∧
        (0 < n → q'.label? imageInspectionErrorCountLabel = some (nextRetryLabel (nextRetryCount^[n - 1] q.retryCount))) := by
  induction n with
  | zero =>
    intro q hs
    refine ⟨q, rfl, hs, rfl, ?_, fun h => absurd h (Nat.lt_irrefl 0)⟩
    simp [gatedAfterFailures]
  | succ n ih =>
    intro q hs
    obtain ⟨b, p, e, -, hp, hrun⟩ := processPod_of_failingRun hs
    have hlabel : (gateAfter (p.handleError (some e), some e)).label? imageInspectionErrorCountLabel =
        some (nextRetryLabel q.retryCount) := label?_count_gateAfter hp
    have hcount : (gateAfter (p.handleError (some e), some e)).retryCount = nextRetryCount q.retryCount := by
      simp only [Pod.retryCount, hlabel, Option.bind_some]
      rfl
    obtain ⟨q', hq', hs', hc', hg', hl'⟩ := ih (failingRun_gateAfter e hs hp)
    refine ⟨q', ?_, hs', ?_, ?_, ?_⟩
    · rw [List.replicate_succ, processRuns_cons_of_ok hrun, hq']
    · rw [hc', hcount, Function.iterate_succ_apply]
    · rw [hg', hcount, hasSchedulingGate_gateAfter hp, gatedAfterFailures]
      cases retriesExhausted (nextRetryCount q.retryCount) <;> simp
    · intro _
      cases n with
      | zero =>
        simp only [List.replicate_zero, processRuns, Except.ok.injEq] at hq'
        rw [← hq', hlabel]
        rfl
      | succ n =>
        rw [hl' (Nat.succ_pos n), hcount, Nat.add_sub_cancel, Nat.add_sub_cancel, ← Function.iterate_succ_apply]

/-! ## A run in which the inspection succeeds -/

/-- `SetNodeAffinityArchRequirement` returns no error once the inspection succeeded. -/
theorem setNodeAffinityArchRequirement_res_of_ok {pod q : Pod} {env : Env} {psdl : List Bytes}
    {r : NodeSelectorRequirement} {res : Except String Bool} (hr : pod.getArchitecturePredicate env psdl = .ok r)
    (h : pod.setNodeAffinityArchRequirement env psdl = .ok (q, res)) : errorOf res = none := by
  cases hc : pod.isNodeSelectorConfiguredForArchitecture.1 with
  | true =>
    rw [Pod.setNodeAffinityArchRequirement_of_configured hc] at h
    simp only [Except.ok.injEq, Prod.mk.injEq] at h
    rw [← h.2]
    rfl
  | false =>
    rw [Pod.setNodeAffinityArchRequirement_of_ok hc hr] at h
    simp only [Except.ok.injEq, Prod.mk.injEq] at h
    rw [← h.2]
    rfl

/-- A run in which the inspection of the pod's pull secrets succeeds removes the gate. -/
theorem processPod_hasSchedulingGate_of_ok {env : Env} {cppc : Option ClusterPodPlacementConfig} {q q' : Pod}
    (h : processPod env cppc q = .ok q')
    (hok : ∃ r, q.getArchitecturePredicate env
      (q.getPodImagePullSecrets.filterMap (env.secretData q.metadata.«namespace»)) = .ok r) :
    q'.hasSchedulingGate = false := by
  rcases processPod_inv h with ⟨q0, -, rfl⟩ | ⟨q0, b, p, ⟨p', err⟩, hq0, -, hp, hr, rfl⟩
  · exact Pod.hasSchedulingGate_removeSchedulingGate q0
  · obtain ⟨q1, res, hs, h1, h2⟩ := requiredStep_inv hr
    have hup : q.GatedUpdate p := (Pod.gatedUpdate_shouldIgnorePod hq0).trans (gatedUpdate_preferredStep hp)
    obtain ⟨r', hr'⟩ := hok
    rw [← Pod.getArchitecturePredicate_of_gatedUpdate hup, ← Pod.pullSecretData_of_gatedUpdate hup] at hr'
    have hnone : err = none := by rw [h2]; exact setNodeAffinityArchRequirement_res_of_ok hr' hs
    unfold gateAfter
    simp only [hnone, Option.isNone_none, Bool.true_or, if_true]
    exact Pod.hasSchedulingGate_removeSchedulingGate _

/-! ## The bound on the failed runs -/

/-- A counter that is absent, unparsable or not negative is exhausted after at most `MaxRetryCount` failed runs. -/
theorem retryBound_le {c : Option Int} (h : ∀ v, c = some v → 0 ≤ v) : retryBound c ≤ maxRetryCount.toNat := by
  cases c with
  | none => exact le_refl _
  | some v =>
    have hv := h v rfl
    show (max 1 (maxRetryCount - v)).toNat ≤ maxRetryCount.toNat
    simp only [maxRetryCount]
    omega

/-- The counter of a pod whose count label is a valid label value is not negative. -/
theorem retryCount_nonneg {pod : Pod}
    (hvalid : ∀ v, pod.label? imageInspectionErrorCountLabel = some v → isValidLabelValue v = true) :
    ∀ n, pod.retryCount = some n → 0 ≤ n := by
  intro n hn
  obtain ⟨v, hv, hp⟩ := Option.bind_eq_some_iff.mp hn
  exact Go.parseInt_nonneg (head?_ne_minus_of_isValidLabelValue (hvalid v hv)) hp

/-- From an absent or unparsable counter, the label the last of `MaxRetryCount` failed runs writes is
`MaxRetryCount`. -/
theorem nextRetryLabel_iterate_none :
    nextRetryLabel (nextRetryCount^[maxRetryCount.toNat - 1] none) = Go.formatInt maxRetryCount := by
  decide

/-- Failed runs of a gated pod whose count label, if it has one, is a valid label value keep the gate for exactly
`retryBound` runs of the counter it starts with, which is at most `MaxRetryCount`; from an absent or unparsable counter
that is `MaxRetryCount` runs, the label then `MaxRetryCount`. A run in which the inspection of the pod's own pull
secrets succeeds removes the gate. -/
theorem processRuns_gate_iff_lt_retryBound {env : Env} {cppc : Option ClusterPodPlacementConfig} {pod : Pod}
    (hs : FailingRun env cppc pod) (hg : pod.hasSchedulingGate = true)
    (hvalid : ∀ v, pod.label? imageInspectionErrorCountLabel = some v → isValidLabelValue v = true) :
    (∀ n, ∃ q, processRuns cppc (List.replicate n env) pod = .ok q ∧
        (q.hasSchedulingGate = true ↔ n < retryBound pod.retryCount)) ∧
      retryBound pod.retryCount ≤ maxRetryCount.toNat ∧
      (pod.retryCount = none → retryBound pod.retryCount = maxRetryCount.toNat ∧
        ∃ q, processRuns cppc (List.replicate maxRetryCount.toNat env) pod = .ok q ∧
          q.label? imageInspectionErrorCountLabel = some (Go.formatInt maxRetryCount)) ∧
      (∀ env' q q', processPod env' cppc q = .ok q' →
        (∃ r, q.getArchitecturePredicate env'
          (q.getPodImagePullSecrets.filterMap (env'.secretData q.metadata.«namespace»)) = .ok r) →
        q'.hasSchedulingGate = false) := by
  refine ⟨?_, retryBound_le (retryCount_nonneg hvalid), ?_,
    fun env' q q' h hok => processPod_hasSchedulingGate_of_ok h hok⟩
  · intro n
    obtain ⟨q, hq, -, -, hgate, -⟩ := processRuns_failing n hs
    refine ⟨q, hq, ?_⟩
    rw [hgate, hg, Bool.and_true, gatedAfterFailures_retryCount, decide_eq_true_iff]
  · intro hnone
    refine ⟨by rw [hnone]; rfl, ?_⟩
    obtain ⟨q, hq, -, -, -, hlabel⟩ := processRuns_failing maxRetryCount.toNat hs
    refine ⟨q, hq, ?_⟩
    rw [hlabel (by decide), hnone, nextRetryLabel_iterate_none]

/-- A gated pod with one image, no affinity, and the count label at 3. -/
def retriedPod : Pod :=
  ⟨{ (default : ObjectMeta) with
      name := "p", «namespace» := "default", labels := some ((∅ : StrMap).insert imageInspectionErrorCountLabel "3") },
    ⟨"", ∅, none, [⟨schedulingGateName⟩], [⟨"c", "img", .IfNotPresent⟩], [], []⟩⟩

theorem failingRun_retriedPod : FailingRun failingEnv none retriedPod where
  not_exempt := rfl
  not_configured := rfl
  no_panic := ⟨false, rfl⟩
  fails := by
    have hi : retriedPod.imagesNamesSet = [⟨"//img", false⟩] := rfl
    exact ⟨"inspection failed", by
      simp [Pod.getArchitecturePredicate, Pod.intersectImagesArchitecture, hi, failingEnv, Go.meetStep,
        Pod.inspectImage]⟩

/-- The pod whose count label is at 3 keeps its gate through one failed run and loses it at the second. -/
theorem retriedPod_ungated_at_second_run :
    (∃ q, processRuns none (List.replicate 1 failingEnv) retriedPod = .ok q ∧ q.hasSchedulingGate = true) ∧
      ∃ q, processRuns none (List.replicate 2 failingEnv) retriedPod = .ok q ∧ q.hasSchedulingGate = false := by
  have hvalid : ∀ v, retriedPod.label? imageInspectionErrorCountLabel = some v → isValidLabelValue v = true := by
    intro v hv
    have hl : retriedPod.label? imageInspectionErrorCountLabel = some "3" := by decide
    rw [hl, Option.some.injEq] at hv
    subst hv
    decide
  have hruns := (processRuns_gate_iff_lt_retryBound failingRun_retriedPod rfl hvalid).1
  have hb : retryBound retriedPod.retryCount = 2 := by decide
  obtain ⟨q1, hq1, hiff1⟩ := hruns 1
  obtain ⟨q2, hq2, hiff2⟩ := hruns 2
  rw [hb] at hiff1 hiff2
  exact ⟨⟨q1, hq1, hiff1.mpr (by decide)⟩, q2, hq2, by simpa using hiff2⟩

end MultiarchTuning
