import MultiarchTuning.Protocol.Machine
import MultiarchTuning.Api.Store
import MultiarchTuning.Api.Status
import MultiarchTuning.PodPlacement.Webhook

/-!
# The operand, the pods and the deprovisioning of `handleDelete`

The cluster as the operator's deprovisioning sees it: the `ClusterPodPlacementConfig`, the objects of the pod placement
operand that decide whether pods get and lose the gate (the mutating webhook configuration, the webhook's service and
the controller's deployment), the persisted pods and the pods admitted but not yet persisted. Every actor moves by
events, interleaved in any order:

* the `ClusterPodPlacementConfig` reconciler (`Reconcile`). On an object not being deleted it runs `reconcile`; on one
  being deleted that has the finalizer it runs `handleDelete`. Each runs as one event per API call that writes, in the
  order of the source, and `apiError` makes the next call fail: the reconcile then ends with an error and is
  requeued, except after the `Delete` of the mutating webhook configuration, whose error `reconcile` discards, and
  after a call of `ApplyResources` or `DeleteResources`, which goes on with the next object and returns the error at
  its end. The
  requeues `handleDelete` asks for itself end it the same way: the webhook's service still there, or a gated pod
  listed. A reconcile runs at a time, as the controller's work queue has it;
* the API server admitting the creation of a pod. It calls the webhook's `Handle` when the webhook configuration
  selects the pod's namespace and the service is there. Otherwise, and when `Handle` panics, it admits the pod as
  created, for the configuration's failure policy is `Ignore`. Persisting the admitted pod is a separate event, so
  admitted pods are in flight, and a later admission plugin may still reject one;
* the pod reconciler, `Reconcile` on a persisted pod while the controller's deployment exists;
* users, who delete pods, the `ClusterPodPlacementConfig` and the controller's deployment, and create the
  `ClusterPodPlacementConfig` when there is none. They create pods without the operator's gate;
* the garbage collector, which deletes the operand's objects once the `ClusterPodPlacementConfig` owning them is gone.

The webhook and the pod reconciler read the `ClusterPodPlacementConfig` through an informer; here they see `config`
while the object exists, and nil after. The pod listing of `handleDelete` asks for the pods in phase `Pending`; a gated
pod cannot be scheduled, so it is pending, and the listing is read as all persisted pods. An `Update` that succeeds
writes the object as it is stored; one that would conflict with a change since the `Get` is a failed call. The
objects of the operand other than the webhook's service, the controller's deployment and the mutating webhook
configuration, and the namespace `ensureNamespaceLabels` labels, decide nothing here: their calls only succeed or
fail.
-/

namespace MultiarchTuning

open Utils

/-- The API calls of `handleDelete` after `updateStatus`, in the order it makes them; the phase is the next one. -/
inductive HandleDeletePhase where
  /-- `utils.DeleteResources` on the mutating webhook configuration, then ... -/
  | deleteMutatingWebhookConfiguration
  /-- ... on the webhook's service. -/
  | deleteWebhookService
  /-- ... on the webhook's service after the `Delete` of the mutating webhook configuration failed; `DeleteResources`
  then returns the aggregated error. -/
  | deleteWebhookServiceAfterError
  /-- The `Get` of the webhook's service. -/
  | getWebhookService
  /-- The `List` of the pending pods. -/
  | listPods
  /-- The `Get` of the controller's deployment, `RemoveFinalizer` and the `Update`. -/
  | removeControllerFinalizer
  /-- `RemoveFinalizer` on the `ClusterPodPlacementConfig` and the `Update`. -/
  | removeFinalizer
  /-- `utils.DeleteResources` on the controller's deployment. -/
  | deleteControllerDeployment
  deriving DecidableEq, Repr

/-- `handleDelete` once its call in phase `p` failed: it returns the error, except that `DeleteResources` goes on with
the webhook's service after a failed `Delete` of the mutating webhook configuration. -/
def HandleDeletePhase.afterError : HandleDeletePhase → Option HandleDeletePhase
  | .deleteMutatingWebhookConfiguration => some .deleteWebhookServiceAfterError
  | _ => none

/-- The API calls of `reconcile` that write, with the one `dependentsStatusToClusterPodPlacementConfig` makes before
it, in the order they are made; the phase is the next one. -/
inductive OperandPhase where
  /-- `RemoveFinalizer` on the controller's deployment, which is being deleted, and the `Update`. -/
  | removeControllerFinalizer
  /-- `ensureNamespaceLabels`: the `Get` and the `Update` of the operator's namespace. -/
  | ensureNamespaceLabels
  /-- The `Delete` of the mutating webhook configuration when `shouldDeleteMWC`; its error is discarded. -/
  | deleteMutatingWebhookConfiguration
  /-- `ApplyResources` on the webhook's service, ... -/
  | applyWebhookService
  /-- ... on the controller's deployment, ... -/
  | applyControllerDeployment
  /-- ... and on the mutating webhook configuration when `shouldEnsureMWC`. -/
  | applyMutatingWebhookConfiguration
  /-- `AddFinalizer` on the `ClusterPodPlacementConfig` and the `Update`. -/
  | addFinalizer
  deriving DecidableEq, Repr

/-- A running `reconcile`: its next call, what the status `Build` computed decides about the mutating webhook
configuration, and whether an apply of `ApplyResources` has failed. -/
structure OperandReconcile where
  phase : OperandPhase
  shouldEnsureMWC : Bool
  shouldDeleteMWC : Bool
  applyFailed : Bool
  deriving DecidableEq, Repr

namespace OperandReconcile

/-- `ApplyResources` has returned: the finalizer is next when every apply succeeded; otherwise `reconcile` returns the
aggregated error. -/
def afterApply (r : OperandReconcile) : Option OperandReconcile :=
  if r.applyFailed then none else some { r with phase := .addFinalizer }

/-- The running `reconcile` once its call in `r.phase` returned, `failed` saying whether it failed; `none` when
`reconcile` returns. -/
def next (r : OperandReconcile) (failed : Bool) : Option OperandReconcile :=
  match r.phase with
  | .removeControllerFinalizer => if failed then none else some { r with phase := .ensureNamespaceLabels }
  | .ensureNamespaceLabels =>
    if failed then none
    else some { r with phase := if r.shouldDeleteMWC then .deleteMutatingWebhookConfiguration else .applyWebhookService }
  | .deleteMutatingWebhookConfiguration => some { r with phase := .applyWebhookService }
  | .applyWebhookService => some { r with phase := .applyControllerDeployment, applyFailed := r.applyFailed || failed }
  | .applyControllerDeployment =>
    if r.shouldEnsureMWC then
      some { r with phase := .applyMutatingWebhookConfiguration, applyFailed := r.applyFailed || failed }
    else afterApply { r with applyFailed := r.applyFailed || failed }
  | .applyMutatingWebhookConfiguration => afterApply { r with applyFailed := r.applyFailed || failed }
  | .addFinalizer => none

end OperandReconcile

/-- The operand's objects the garbage collector deletes once their owner is gone. -/
inductive Owned where
  | mutatingWebhookConfiguration
  | webhookService
  | controllerDeployment
  deriving DecidableEq, Repr

/-- The cluster. -/
structure World where
  clusterPodPlacementConfig : Option Stored
  mutatingWebhookConfiguration : Bool
  webhookService : Bool
  controllerDeployment : Option Stored
  /-- The persisted pods. -/
  pods : List Pod
  /-- The pods admitted and not yet persisted. -/
  admitted : List Pod
  /-- The next API call of the running `handleDelete`; `none` when it does not run. -/
  handleDelete : Option HandleDeletePhase
  /-- The running `reconcile`; `none` when it does not run. -/
  operandReconcile : Option OperandReconcile

/-- The events of the cluster. -/
inductive Event where
  /-- `Reconcile` of the `ClusterPodPlacementConfig` at time `now`: its `Get`, and the `Get`s of
  `dependentsStatusToClusterPodPlacementConfig`, which returned the two deployments (the zero deployment for one that
  is not there). -/
  | reconcile (now : String) (podPlacementController podPlacementWebhook : Deployment)
  /-- The next API call of `reconcile` succeeds. -/
  | operandStep
  /-- The next API call of `handleDelete`, at time `now`. -/
  | handleDeleteStep (now : String)
  /-- The next API call of the running reconcile fails. -/
  | apiError
  /-- A user creates `pod` in a namespace labelled `nsLabels`, and the API server admits it. -/
  | createPod (nsLabels : StrMap) (pod : Pod)
  /-- The API server persists the admitted pod at `i`. -/
  | persist (i : Nat)
  /-- A later admission plugin rejects the admitted pod at `i`. -/
  | reject (i : Nat)
  /-- The pod reconciler reconciles the persisted pod at `i`, with the image inspection of `env`. -/
  | reconcilePod (env : Env) (i : Nat)
  /-- A user deletes the persisted pod at `i`. -/
  | deletePod (i : Nat)
  /-- A user creates the `ClusterPodPlacementConfig`. -/
  | createClusterPodPlacementConfig
  /-- A user deletes the `ClusterPodPlacementConfig`. -/
  | deleteClusterPodPlacementConfig (now : String)
  /-- A user deletes the controller's deployment. -/
  | deleteControllerDeployment (now : String)
  /-- The garbage collector deletes `o`. -/
  | collectGarbage (o : Owned) (now : String)

/-- Whether the event deletes a pod, persisted or admitted. -/
def Event.deletesPod : Event → Bool
  | .reject _ | .deletePod _ => true
  | _ => false

/-- Whether the event creates the `ClusterPodPlacementConfig`. -/
def Event.createsClusterPodPlacementConfig : Event → Bool
  | .createClusterPodPlacementConfig => true
  | _ => false

/-- Whether the event is one of the pods, of the pod reconciler or the deletion of the controller's deployment, which
leave the `ClusterPodPlacementConfig`, the webhook's objects and the running reconcile as they are. -/
def Event.keepsOperator : Event → Bool
  | .createPod _ _ | .persist _ | .reject _ | .reconcilePod _ _ | .deletePod _ | .deleteControllerDeployment _ => true
  | _ => false

/-- The metadata of `buildControllerDeployment`, which carries the operator's finalizer. -/
def controllerDeploymentMetadata (ns : String) : ObjectMeta :=
  { (default : ObjectMeta) with
    name := podPlacementControllerName, «namespace» := ns, finalizers := [podPlacementFinalizerName] }

/-- The metadata of a `ClusterPodPlacementConfig` a user creates: the name `cluster`, which its validating webhook
requires, and no finalizer. -/
def createdConfigMetadata : ObjectMeta := { (default : ObjectMeta) with name := "cluster" }

theorem isDeleting_createdConfigMetadata : createdConfigMetadata.isDeleting = false := rfl

namespace World

section Step

variable (ns : String) (config : ClusterPodPlacementConfig)

/-- What the informers of the webhook and of the pod reconciler hold. -/
def cache (s : World) : Option ClusterPodPlacementConfig :=
  s.clusterPodPlacementConfig.map fun _ => config

/-- The API server calls the webhook for a pod created in a namespace labelled `nsLabels`. -/
def webhookCalled (s : World) (nsLabels : StrMap) : Bool :=
  s.mutatingWebhookConfiguration && webhookReceives config nsLabels && s.webhookService

/-- The pod the API server admits: what `Handle` returns when it is called and does not panic, the pod as created
otherwise. -/
def admission (s : World) (nsLabels : StrMap) (pod : Pod) : Pod :=
  if s.webhookCalled config nsLabels then
    match handle ns (s.cache config) pod with
    | .ok q => q
    | .error _ => pod
  else pod

/-- The pod the pod reconciler's `Update` writes; after a panic it writes nothing. -/
def reconciled (s : World) (env : Env) (pod : Pod) : Pod :=
  match reconcile env (s.cache config) pod with
  | .ok q => q
  | .error _ => pod

/-- The `reconcile` a `Reconcile` of an object not being deleted starts: the status `Build` computes from the two
deployments and from whether the mutating webhook configuration was found (its stored conditions, which `default`
stands for, are not read) decides whether it ensures or deletes the configuration; and
`dependentsStatusToClusterPodPlacementConfig` first removes the finalizer of a controller's deployment being deleted. -/
def startOperand (s : World) (now : String) (podPlacementController podPlacementWebhook : Deployment) :
    OperandReconcile :=
  let status := dependentsStatusToClusterPodPlacementConfig now default podPlacementController podPlacementWebhook
    s.mutatingWebhookConfiguration false
  { phase := if s.controllerDeployment.any (·.metadata.isDeleting) then .removeControllerFinalizer
      else .ensureNamespaceLabels
    shouldEnsureMWC := shouldEnsureMWC status
    shouldDeleteMWC := shouldDeleteMWC status
    applyFailed := false }

/-- What the call of `reconcile` in phase `p` writes when it succeeds; `none` when it cannot, for the object it
updates is gone or changed. -/
def runOperandPhase (s : World) : OperandPhase → Option World
  | .removeControllerFinalizer =>
    s.controllerDeployment.map fun d => { s with controllerDeployment := d.removeFinalizer podPlacementFinalizerName }
  | .ensureNamespaceLabels => some s
  | .deleteMutatingWebhookConfiguration => some { s with mutatingWebhookConfiguration := false }
  | .applyWebhookService => some { s with webhookService := true }
  | .applyControllerDeployment =>
    some { s with
      controllerDeployment := some (s.controllerDeployment.getD (Stored.created (controllerDeploymentMetadata ns) rfl)) }
  | .applyMutatingWebhookConfiguration => some { s with mutatingWebhookConfiguration := true }
  | .addFinalizer =>
    s.clusterPodPlacementConfig.bind fun o =>
      if o.metadata.isDeleting then none
      else some { s with clusterPodPlacementConfig := some (o.addFinalizer podPlacementFinalizerName) }

/-- The API call of `handleDelete` in phase `p`, at time `now`. -/
def runPhase (s : World) (now : String) : HandleDeletePhase → World
  | .deleteMutatingWebhookConfiguration =>
    { s with mutatingWebhookConfiguration := false, handleDelete := some .deleteWebhookService }
  | .deleteWebhookService => { s with webhookService := false, handleDelete := some .getWebhookService }
  | .deleteWebhookServiceAfterError => { s with webhookService := false, handleDelete := none }
  | .getWebhookService =>
    -- the service is found: requeue with `waitingForWebhookSInterruptionError`
    { s with handleDelete := if s.webhookService then none else some .listPods }
  | .listPods =>
    -- a pod with the gate is found: requeue with `waitingForUngatingPodsError`
    { s with handleDelete := if s.pods.any Pod.hasSchedulingGate then none else some .removeControllerFinalizer }
  | .removeControllerFinalizer =>
    { s with
      controllerDeployment := s.controllerDeployment.bind (·.removeFinalizer podPlacementFinalizerName)
      handleDelete := some .removeFinalizer }
  | .removeFinalizer =>
    { s with
      clusterPodPlacementConfig := s.clusterPodPlacementConfig.bind (·.removeFinalizer podPlacementFinalizerName)
      handleDelete := some .deleteControllerDeployment }
  | .deleteControllerDeployment =>
    { s with controllerDeployment := s.controllerDeployment.bind (·.delete now), handleDelete := none }

/-- The garbage collector deletes `o` at time `now`. -/
def collect (s : World) (now : String) : Owned → World
  | .mutatingWebhookConfiguration => { s with mutatingWebhookConfiguration := false }
  | .webhookService => { s with webhookService := false }
  | .controllerDeployment => { s with controllerDeployment := s.controllerDeployment.bind (·.delete now) }

/-- The step of the cluster; `none` when the event is not enabled. -/
def step (s : World) : Event → Option World
  | .reconcile now podPlacementController podPlacementWebhook =>
    match s.handleDelete, s.operandReconcile, s.clusterPodPlacementConfig with
    | none, none, some o =>
      if !o.metadata.isDeleting then
        if s.controllerDeployment.isNone && podPlacementController != default then none
        else some { s with operandReconcile := some (s.startOperand now podPlacementController podPlacementWebhook) }
      else if o.metadata.containsFinalizer podPlacementFinalizerName then
        some { s with handleDelete := some .deleteMutatingWebhookConfiguration }
      else none
    | _, _, _ => none
  | .operandStep =>
    s.operandReconcile.bind fun r =>
      (s.runOperandPhase ns r.phase).map fun t => { t with operandReconcile := r.next false }
  | .handleDeleteStep now => s.handleDelete.map (s.runPhase now)
  | .apiError =>
    match s.handleDelete, s.operandReconcile with
    | some p, _ => some { s with handleDelete := p.afterError }
    | none, some r => some { s with operandReconcile := r.next true }
    | none, none => none
  | .createPod nsLabels pod =>
    if pod.hasSchedulingGate then none
    else some { s with admitted := s.admitted ++ [s.admission ns config nsLabels pod] }
  | .persist i =>
    if h : i < s.admitted.length then
      some { s with pods := s.pods ++ [s.admitted[i]], admitted := s.admitted.eraseIdx i }
    else none
  | .reject i => if i < s.admitted.length then some { s with admitted := s.admitted.eraseIdx i } else none
  | .reconcilePod env i =>
    if s.controllerDeployment.isSome then
      if h : i < s.pods.length then some { s with pods := s.pods.set i (s.reconciled config env s.pods[i]) }
      else none
    else none
  | .deletePod i => if i < s.pods.length then some { s with pods := s.pods.eraseIdx i } else none
  | .createClusterPodPlacementConfig =>
    if s.clusterPodPlacementConfig.isNone then
      some { s with clusterPodPlacementConfig := some (Stored.created createdConfigMetadata rfl) }
    else none
  | .deleteClusterPodPlacementConfig now =>
    s.clusterPodPlacementConfig.map fun o => { s with clusterPodPlacementConfig := o.delete now }
  | .deleteControllerDeployment now =>
    s.controllerDeployment.map fun d => { s with controllerDeployment := d.delete now }
  | .collectGarbage o now => if s.clusterPodPlacementConfig.isNone then some (s.collect now o) else none

end Step

/-! ## What each event does -/

section Inversion

variable {ns : String} {config : ClusterPodPlacementConfig} {s s' : World}

@[simp]
theorem pods_runPhase (now : String) (p : HandleDeletePhase) : (s.runPhase now p).pods = s.pods := by
  cases p <;> rfl

@[simp]
theorem admitted_runPhase (now : String) (p : HandleDeletePhase) : (s.runPhase now p).admitted = s.admitted := by
  cases p <;> rfl

@[simp]
theorem operandReconcile_runPhase (now : String) (p : HandleDeletePhase) :
    (s.runPhase now p).operandReconcile = s.operandReconcile := by
  cases p <;> rfl

/-- Only the removal of its finalizer changes the `ClusterPodPlacementConfig`. -/
theorem clusterPodPlacementConfig_runPhase {p : HandleDeletePhase} (hp : p ≠ .removeFinalizer) (now : String) :
    (s.runPhase now p).clusterPodPlacementConfig = s.clusterPodPlacementConfig := by
  cases p
  case removeFinalizer => exact absurd rfl hp
  all_goals rfl

theorem HandleDeletePhase.afterError_eq_some {p q : HandleDeletePhase} (h : p.afterError = some q) :
    p = .deleteMutatingWebhookConfiguration ∧ q = .deleteWebhookServiceAfterError := by
  cases p <;> cases h
  exact ⟨rfl, rfl⟩

theorem handleDelete_runPhase_getWebhookService (now : String) :
    (s.runPhase now .getWebhookService).handleDelete = if s.webhookService then none else some .listPods := rfl

theorem handleDelete_runPhase_listPods (now : String) :
    (s.runPhase now .listPods).handleDelete =
      if s.pods.any Pod.hasSchedulingGate then none else some .removeControllerFinalizer := rfl

@[simp]
theorem pods_collect (now : String) (o : Owned) : (s.collect now o).pods = s.pods := by
  cases o <;> rfl

@[simp]
theorem admitted_collect (now : String) (o : Owned) : (s.collect now o).admitted = s.admitted := by
  cases o <;> rfl

@[simp]
theorem handleDelete_collect (now : String) (o : Owned) : (s.collect now o).handleDelete = s.handleDelete := by
  cases o <;> rfl

@[simp]
theorem operandReconcile_collect (now : String) (o : Owned) :
    (s.collect now o).operandReconcile = s.operandReconcile := by
  cases o <;> rfl

/-- A call of `reconcile` writes neither the pods nor the running reconciles. -/
theorem runOperandPhase_frame {p : OperandPhase} {t : World} (h : s.runOperandPhase ns p = some t) :
    t.pods = s.pods ∧ t.admitted = s.admitted ∧ t.handleDelete = s.handleDelete ∧
      t.operandReconcile = s.operandReconcile := by
  cases p
  case removeControllerFinalizer =>
    obtain ⟨d, -, rfl⟩ := Option.map_eq_some_iff.mp h
    exact ⟨rfl, rfl, rfl, rfl⟩
  case addFinalizer =>
    obtain ⟨o, -, h⟩ := Option.bind_eq_some_iff.mp h
    split at h
    · cases h
    · cases h
      exact ⟨rfl, rfl, rfl, rfl⟩
  all_goals
    cases h
    exact ⟨rfl, rfl, rfl, rfl⟩

/-- The reconciler either starts `reconcile` or starts `handleDelete`, and only while no reconcile runs. -/
theorem step_reconcile {now : String} {c w : Deployment} (h : s.step ns config (.reconcile now c w) = some s') :
    s.handleDelete = none ∧ s.operandReconcile = none ∧ ∃ o, s.clusterPodPlacementConfig = some o ∧
      (o.metadata.isDeleting = false ∧ (s.controllerDeployment = none → c = default) ∧
          s' = { s with operandReconcile := some (s.startOperand now c w) } ∨
        o.metadata.isDeleting = true ∧ o.metadata.containsFinalizer podPlacementFinalizerName = true ∧
          s' = { s with handleDelete := some .deleteMutatingWebhookConfiguration }) := by
  simp only [step] at h
  cases hd : s.handleDelete with
  | some p => simp [hd] at h
  | none =>
    cases hr : s.operandReconcile with
    | some r => simp [hd, hr] at h
    | none =>
      cases hc : s.clusterPodPlacementConfig with
      | none => simp [hd, hr, hc] at h
      | some o =>
        simp only [hd, hr, hc] at h
        refine ⟨rfl, rfl, o, rfl, ?_⟩
        cases hdel : o.metadata.isDeleting with
        | false =>
          simp only [hdel, Bool.not_false, if_true] at h
          split at h
          · cases h
          · rename_i hguard
            refine .inl ⟨rfl, fun hnone => ?_, (Option.some.inj h).symm⟩
            simpa [hnone] using hguard
        | true =>
          simp only [hdel, Bool.not_true, Bool.false_eq_true, if_false] at h
          split at h
          · rename_i hf
            exact .inr ⟨rfl, hf, (Option.some.inj h).symm⟩
          · cases h

/-- A call of `reconcile` that succeeds writes what its phase writes, and the reconcile goes on to its next call. -/
theorem step_operandStep (h : s.step ns config .operandStep = some s') :
    ∃ r t, s.operandReconcile = some r ∧ s.runOperandPhase ns r.phase = some t ∧
      s' = { t with operandReconcile := r.next false } := by
  obtain ⟨r, hr, h⟩ := Option.bind_eq_some_iff.mp h
  obtain ⟨t, ht, rfl⟩ := Option.map_eq_some_iff.mp h
  exact ⟨r, t, hr, ht, rfl⟩

theorem step_handleDeleteStep {now : String} (h : s.step ns config (.handleDeleteStep now) = some s') :
    ∃ p, s.handleDelete = some p ∧ s' = s.runPhase now p := by
  obtain ⟨p, hp, rfl⟩ := Option.map_eq_some_iff.mp h
  exact ⟨p, hp, rfl⟩

/-- A failed call writes nothing, and `handleDelete` or `reconcile` goes on as the source does after that call's
error. -/
theorem step_apiError (h : s.step ns config .apiError = some s') :
    (∃ p, s.handleDelete = some p ∧ s' = { s with handleDelete := p.afterError }) ∨
      (s.handleDelete = none ∧ ∃ r, s.operandReconcile = some r ∧ s' = { s with operandReconcile := r.next true }) := by
  simp only [step] at h
  cases hd : s.handleDelete with
  | some p =>
    simp only [hd, Option.some.injEq] at h
    exact .inl ⟨p, rfl, h.symm⟩
  | none =>
    cases hr : s.operandReconcile with
    | none => simp [hd, hr] at h
    | some r =>
      simp only [hd, hr, Option.some.injEq] at h
      exact .inr ⟨rfl, r, rfl, h.symm⟩

/-- With no `reconcile` running, no call of it is made ... -/
theorem step_operandStep_of_noOperand (hr : s.operandReconcile = none) : s.step ns config .operandStep = none := by
  simp [step, hr]

/-- ... and a failed call is one of `handleDelete`. -/
theorem step_apiError_of_noOperand (hr : s.operandReconcile = none) (h : s.step ns config .apiError = some s') :
    ∃ p, s.handleDelete = some p ∧ s' = { s with handleDelete := p.afterError } := by
  rcases step_apiError h with hp | ⟨-, r, hr', -⟩
  · exact hp
  · rw [hr] at hr'
    cases hr'

theorem step_createPod {nsLabels : StrMap} {pod : Pod} (h : s.step ns config (.createPod nsLabels pod) = some s') :
    pod.hasSchedulingGate = false ∧ s' = { s with admitted := s.admitted ++ [s.admission ns config nsLabels pod] } := by
  simp only [step] at h
  split at h
  · cases h
  · rename_i hg
    exact ⟨by simpa using hg, (Option.some.inj h).symm⟩

theorem step_persist {i : Nat} (h : s.step ns config (.persist i) = some s') :
    ∃ hi : i < s.admitted.length,
      s' = { s with pods := s.pods ++ [s.admitted[i]], admitted := s.admitted.eraseIdx i } := by
  obtain ⟨hi, h⟩ := Option.dite_none_right_eq_some.mp h
  exact ⟨hi, (Option.some.inj h).symm⟩

theorem step_reject {i : Nat} (h : s.step ns config (.reject i) = some s') :
    i < s.admitted.length ∧ s' = { s with admitted := s.admitted.eraseIdx i } := by
  simp only [step] at h
  split at h
  · rename_i hi
    exact ⟨hi, (Option.some.inj h).symm⟩
  · cases h

theorem step_reconcilePod {env : Env} {i : Nat} (h : s.step ns config (.reconcilePod env i) = some s') :
    s.controllerDeployment.isSome ∧ ∃ hi : i < s.pods.length,
      s' = { s with pods := s.pods.set i (s.reconciled config env s.pods[i]) } := by
  simp only [step] at h
  split at h
  · rename_i hc
    obtain ⟨hi, h⟩ := Option.dite_none_right_eq_some.mp h
    exact ⟨hc, hi, (Option.some.inj h).symm⟩
  · cases h

theorem step_deletePod {i : Nat} (h : s.step ns config (.deletePod i) = some s') :
    i < s.pods.length ∧ s' = { s with pods := s.pods.eraseIdx i } := by
  simp only [step] at h
  split at h
  · rename_i hi
    exact ⟨hi, (Option.some.inj h).symm⟩
  · cases h

theorem step_createClusterPodPlacementConfig (h : s.step ns config .createClusterPodPlacementConfig = some s') :
    s.clusterPodPlacementConfig = none ∧
      s' = { s with clusterPodPlacementConfig := some (Stored.created createdConfigMetadata rfl) } := by
  simp only [step] at h
  split at h
  · rename_i hc
    exact ⟨Option.isNone_iff_eq_none.mp hc, (Option.some.inj h).symm⟩
  · cases h

theorem step_deleteClusterPodPlacementConfig {now : String}
    (h : s.step ns config (.deleteClusterPodPlacementConfig now) = some s') :
    ∃ o, s.clusterPodPlacementConfig = some o ∧ s' = { s with clusterPodPlacementConfig := o.delete now } := by
  obtain ⟨o, ho, rfl⟩ := Option.map_eq_some_iff.mp h
  exact ⟨o, ho, rfl⟩

theorem step_deleteControllerDeployment {now : String}
    (h : s.step ns config (.deleteControllerDeployment now) = some s') :
    ∃ d, s.controllerDeployment = some d ∧ s' = { s with controllerDeployment := d.delete now } := by
  obtain ⟨d, hd, rfl⟩ := Option.map_eq_some_iff.mp h
  exact ⟨d, hd, rfl⟩

theorem step_collectGarbage {o : Owned} {now : String} (h : s.step ns config (.collectGarbage o now) = some s') :
    s.clusterPodPlacementConfig = none ∧ s' = s.collect now o := by
  simp only [step] at h
  split at h
  · rename_i hc
    exact ⟨Option.isNone_iff_eq_none.mp hc, (Option.some.inj h).symm⟩
  · cases h

/-- The events of `Event.keepsOperator` change the pods and the controller's deployment only. -/
theorem step_keepsOperator {e : Event} (he : e.keepsOperator = true) (h : s.step ns config e = some s') :
    s'.clusterPodPlacementConfig = s.clusterPodPlacementConfig ∧
      s'.mutatingWebhookConfiguration = s.mutatingWebhookConfiguration ∧ s'.webhookService = s.webhookService ∧
      s'.handleDelete = s.handleDelete ∧ s'.operandReconcile = s.operandReconcile := by
  cases e
  case createPod nsLabels pod =>
    obtain ⟨-, rfl⟩ := step_createPod h
    exact ⟨rfl, rfl, rfl, rfl, rfl⟩
  case persist i =>
    obtain ⟨-, rfl⟩ := step_persist h
    exact ⟨rfl, rfl, rfl, rfl, rfl⟩
  case reject i =>
    obtain ⟨-, rfl⟩ := step_reject h
    exact ⟨rfl, rfl, rfl, rfl, rfl⟩
  case reconcilePod env i =>
    obtain ⟨-, -, rfl⟩ := step_reconcilePod h
    exact ⟨rfl, rfl, rfl, rfl, rfl⟩
  case deletePod i =>
    obtain ⟨-, rfl⟩ := step_deletePod h
    exact ⟨rfl, rfl, rfl, rfl, rfl⟩
  case deleteControllerDeployment now =>
    obtain ⟨d, -, rfl⟩ := step_deleteControllerDeployment h
    exact ⟨rfl, rfl, rfl, rfl, rfl⟩
  all_goals cases he

end Inversion

/-- A cluster where the `ClusterPodPlacementConfig` has just been created, if at all: none of the operand's objects
exist, no reconcile runs, no admission is in flight and no pod has the gate. -/
def Initial (s : World) : Prop :=
  (∀ o ∈ s.clusterPodPlacementConfig, o.metadata.isDeleting = false ∧ o.metadata.finalizers = []) ∧
    s.mutatingWebhookConfiguration = false ∧ s.webhookService = false ∧ s.controllerDeployment = none ∧
    s.handleDelete = none ∧ s.operandReconcile = none ∧ s.admitted = [] ∧ ∀ p ∈ s.pods, p.hasSchedulingGate = false

/-! ## What the deprovisioning is for -/

/-- The deprovisioning is over: the `ClusterPodPlacementConfig` has lost the operator's finalizer, or is gone, and the
controller's deployment is gone or being deleted. -/
def Deprovisioned (s : World) : Prop :=
  (∀ o ∈ s.clusterPodPlacementConfig, o.metadata.containsFinalizer podPlacementFinalizerName = false) ∧
    ∀ d ∈ s.controllerDeployment, d.metadata.isDeleting = true

/-- No persisted pod and no pod in flight carries the operator's gate. -/
def NoGatedPod (s : World) : Prop :=
  ∀ p ∈ s.pods ++ s.admitted, p.hasSchedulingGate = false

/-- The number of pods, persisted or in flight, with the operator's gate. -/
def gatedCount (s : World) : Nat :=
  (s.pods ++ s.admitted).countP Pod.hasSchedulingGate

end World

/-- The cluster of the operator running in namespace `ns`, whose components see the configuration `config`. -/
def cluster (ns : String) (config : ClusterPodPlacementConfig) : Machine World Event :=
  ⟨World.Initial, World.step ns config⟩

end MultiarchTuning
