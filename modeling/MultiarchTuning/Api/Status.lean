import MultiarchTuning.Api.Config
import MultiarchTuning.Api.Core
import MultiarchTuning.Go.Strings
import MultiarchTuning.Lists.Keyed

/-!
# The status of the `ClusterPodPlacementConfig`

`ClusterPodPlacementConfigStatus.Build` (`apis/multiarch/v1beta1`) sets the unexported flags of the status from what
`dependentsStatusToClusterPodPlacementConfig` found of the operand: whether each of its two deployments is available and
rolled out, whether the mutating webhook configuration exists, and whether the object is being deleted.
`buildConditions` then writes seven conditions with `v1helpers.SetCondition` of library-go: a condition of the type
already there keeps its transition time unless its status changes, a missing one is appended with the current time.
`updateStatus` writes the status and asks for a requeue while the operand is progressing. What `reconcile` reads of the
status to apply or delete the mutating webhook configuration is `shouldEnsureMWC` and `shouldDeleteMWC`; its calls are
the events of `Protocol.Cluster`.

The time `SetCondition` reads from `time.Now()` is the parameter `now`. Each format text of `conditions.go` is a function
of the arguments `fmt.Sprintf` puts into it. The methods `IsReady`, `IsProgressing`, ... and `CanDeployMutatingWebhook`
read one flag each, and are the fields of `FlaggedStatus`.
-/

namespace MultiarchTuning

open Utils

/-! ## `v1helpers` of library-go -/

/-- `v1helpers.FindCondition`: the first condition of the type. -/
def findCondition (conditions : List Condition) (conditionType : String) : Option Condition :=
  Keyed.find Condition.type conditionType conditions

/-- What `SetCondition` makes of the condition `existing` of the type of `newCondition`: the new status, with the
time `now` when it differs from the old one, and the new reason and message. -/
def mergeCondition (now : String) (newCondition existing : Condition) : Condition :=
  { existing with
    status := newCondition.status
    lastTransitionTime := if existing.status ≠ newCondition.status then now else existing.lastTransitionTime
    reason := newCondition.reason
    message := newCondition.message }

/-- `v1helpers.SetCondition` at time `now`: the first condition of the type is merged with `newCondition`; without one,
`newCondition` is appended with the time `now`. -/
def setCondition (now : String) (conditions : List Condition) (newCondition : Condition) : List Condition :=
  Keyed.update Condition.type newCondition.type (mergeCondition now newCondition)
    { newCondition with lastTransitionTime := now } conditions

/-- `v1helpers.IsConditionPresentAndEqual`: the first condition of the type has the status. -/
def isConditionPresentAndEqual (conditions : List Condition) (conditionType status : String) : Bool :=
  match findCondition conditions conditionType with
  | some c => c.status == status
  | none => false

/-- `v1helpers.IsConditionTrue`. -/
def isConditionTrue (conditions : List Condition) (conditionType : String) : Bool :=
  isConditionPresentAndEqual conditions conditionType "True"

/-! ### What `SetCondition` does -/

section SetCondition

variable {now : String} {newCondition : Condition}

end SetCondition

/-! ### Several `SetCondition`s of distinct types, one after the other -/

section Fold

variable (now : String)

end Fold

/-! ## `conditions.go` -/

def mutatingWebhookConfigurationNotAvailable : String := "MutatingWebhookConfigurationNotAvailable"
def podPlacementControllerNotRolledOutType : String := "PodPlacementControllerNotRolledOut"
def podPlacementWebhookNotRolledOutType : String := "PodPlacementWebhookNotRolledOut"
def availableType : String := "Available"
def degradedType : String := "Degraded"
def progressingType : String := "Progressing"
def deprovisioningType : String := "Deprovisioning"
def allComponentsReady : String := "AllComponentsReady"

/-- `MutatingWebhookConfigurationReadyMsg`. -/
def mutatingWebhookConfigurationReadyMsg (a : String) : String := "The mutating webhook configuration is " ++ a ++ "ready."

/-- `PodPlacementControllerRolledOutMsg`. -/
def podPlacementControllerRolledOutMsg (a : String) : String :=
  "The pod placement controller is " ++ a ++ "fully rolled out."

/-- `PodPlacementWebhookRolledOutMsg`. -/
def podPlacementWebhookRolledOutMsg (a : String) : String := "The pod placement webhook is " ++ a ++ "fully rolled out."

/-- `ReadyMsg`. -/
def readyMsg (a b : String) : String :=
  "The cluster pod placement config operand is " ++ a ++ "ready. We can" ++ b ++ " gate and reconcile pods."

/-- `DegradedMsg`. -/
def degradedMsg (a : String) : String := "The cluster pod placement config operand is " ++ a ++ "degraded."

/-- `ProgressingMsg`. -/
def progressingMsg (a : String) : String := "The cluster pod placement config operand is " ++ a ++ "progressing."

/-- `DeprovisioningMsg`. -/
def deprovisioningMsg (a b : String) : String :=
  "The cluster pod placement config operand is " ++ a ++ "being deprovisioned. " ++ b

/-- `PendingDeprovisioningMsg`, with no blank between the gate's name and the word after it, as in the source. -/
def pendingDeprovisioningMsg : String :=
  "Some pods may still have the " ++ schedulingGateName ++
    "scheduling gate. The pod placement controller is updating them and will terminate."

/-! ## `clusterpodplacementconfig_types.go` -/

/-- `conditionFromBool`. -/
def conditionFromBool (b : Bool) : String := if b then "True" else "False"

/-- `notFromBool`. -/
def notFromBool (b : Bool) : String := if b then "" else "not "

/-- `trimAndCapitalize`, on the bytes of the Go strings: `strings.TrimSpace`, then `strings.ToUpper(string(trimmed[0]))`,
the first byte read as a rune, upper-cased and encoded in UTF-8, followed by the bytes `trimmed[1:]`. When the first
character takes more than one byte the result is not UTF-8. -/
def trimAndCapitalize (s : String) : List UInt8 :=
  match Go.utf8 (Go.Strings.trimSpace s) with
  | [] => []
  | b :: rest => String.utf8EncodeChar (Char.ofNat (Go.Strings.toUpperLatin1 b.toNat)) ++ rest

example : trimAndCapitalize "not " = Go.utf8 "Not" ∧ trimAndCapitalize " é" = [0xc3, 0x83, 0xa9] := by decide

/-- `v1beta1.ClusterPodPlacementConfigStatus` as the controller holds it: the stored conditions, and the unexported
flags tagged `json:"-"` that `Build` sets. -/
structure FlaggedStatus extends ClusterPodPlacementConfigStatus where
  available : Bool
  progressing : Bool
  degraded : Bool
  deprovisioning : Bool
  podPlacementControllerNotReady : Bool
  podPlacementWebhookNotReady : Bool
  mutatingWebhookConfigurationNotAvailable : Bool
  canDeployMutatingWebhook : Bool
  deriving DecidableEq, Inhabited

/-- A `metav1.Condition` literal of `buildConditions`: no observed generation, and the zero time, which `SetCondition`
never keeps. -/
def condition (type status : String) (reason : List UInt8) (message : String) : Condition :=
  { type, status, observedGeneration := 0, lastTransitionTime := "", reason, message }

namespace FlaggedStatus

/-- The reason of the availability conditions in `buildConditions`: the names of the components that are not ready,
in a fixed order, or `AllComponentsReady`. -/
def reason (s : FlaggedStatus) : String :=
  let r := (if s.podPlacementControllerNotReady then podPlacementControllerNotRolledOutType else "") ++
    (if s.podPlacementWebhookNotReady then podPlacementWebhookNotRolledOutType else "") ++
    (if s.mutatingWebhookConfigurationNotAvailable then MultiarchTuning.mutatingWebhookConfigurationNotAvailable
      else "")
  if r = "" then allComponentsReady else r

/-- The conditions `buildConditions` sets, in its order. -/
def newConditions (s : FlaggedStatus) : List Condition :=
  [condition availableType (conditionFromBool s.available) (Go.utf8 s.reason)
      (readyMsg (notFromBool s.available) (Go.Strings.trimSpace (notFromBool s.available))),
    condition progressingType (conditionFromBool s.progressing) (Go.utf8 s.reason)
      (progressingMsg (notFromBool s.progressing)),
    condition degradedType (conditionFromBool s.degraded)
      (trimAndCapitalize (notFromBool s.degraded) ++ Go.utf8 degradedType)
      (degradedMsg (notFromBool s.degraded)),
    condition deprovisioningType (conditionFromBool s.deprovisioning)
      (trimAndCapitalize (notFromBool s.deprovisioning) ++ Go.utf8 deprovisioningType)
      (deprovisioningMsg (notFromBool s.deprovisioning) (if s.deprovisioning then pendingDeprovisioningMsg else "")),
    condition podPlacementControllerNotRolledOutType (conditionFromBool s.podPlacementControllerNotReady)
      (Go.utf8 "PodPlacementController" ++ trimAndCapitalize (notFromBool !s.podPlacementControllerNotReady) ++
        Go.utf8 "Ready")
      (podPlacementControllerRolledOutMsg (notFromBool !s.podPlacementControllerNotReady)),
    condition podPlacementWebhookNotRolledOutType (conditionFromBool s.podPlacementWebhookNotReady)
      (Go.utf8 "PodPlacementWebhook" ++ trimAndCapitalize (notFromBool !s.podPlacementWebhookNotReady) ++
        Go.utf8 "Ready")
      (podPlacementWebhookRolledOutMsg (notFromBool !s.podPlacementWebhookNotReady)),
    condition MultiarchTuning.mutatingWebhookConfigurationNotAvailable
      (conditionFromBool s.mutatingWebhookConfigurationNotAvailable)
      (Go.utf8 s.reason) (mutatingWebhookConfigurationReadyMsg (notFromBool !s.mutatingWebhookConfigurationNotAvailable))]

/-- `buildConditions` at time `now`: `SetCondition` of each condition, in order. -/
def buildConditions (now : String) (s : FlaggedStatus) : FlaggedStatus :=
  { s with conditions := s.newConditions.foldl (setCondition now) s.conditions }

/-- `Build` at time `now`. -/
def build (s : FlaggedStatus) (now : String)
    (podPlacementControllerAvailable podPlacementWebhookAvailable podPlacementControllerUpToDate
      podPlacementWebhookUpToDate mutatingWebhookConfigurationAvailable deprovisioning : Bool) : FlaggedStatus :=
  let available := mutatingWebhookConfigurationAvailable && podPlacementWebhookAvailable &&
    podPlacementControllerAvailable
  buildConditions now
    { s with
      deprovisioning
      mutatingWebhookConfigurationNotAvailable := !mutatingWebhookConfigurationAvailable
      podPlacementControllerNotReady := !podPlacementControllerAvailable || !podPlacementControllerUpToDate
      podPlacementWebhookNotReady := !podPlacementWebhookAvailable || !podPlacementWebhookUpToDate
      available
      degraded := !available && !deprovisioning
      canDeployMutatingWebhook := podPlacementWebhookAvailable && podPlacementControllerAvailable && !deprovisioning
      progressing := (!podPlacementControllerUpToDate || !podPlacementWebhookUpToDate ||
        !mutatingWebhookConfigurationAvailable) && !deprovisioning }

end FlaggedStatus

/-! ## `clusterpodplacementconfig_controller.go` -/

/-- The fields of `appsv1.DeploymentStatus` the controller reads. -/
structure DeploymentStatus where
  observedGeneration : Int
  replicas : Int
  updatedReplicas : Int
  readyReplicas : Int
  availableReplicas : Int
  unavailableReplicas : Int
  deriving DecidableEq, Inhabited

/-- The fields of `appsv1.Deployment` the controller reads: the generation of its metadata, `spec.replicas` and the
status. A `Get` that finds nothing returns the zero deployment. -/
structure Deployment where
  generation : Int
  replicas : Option Int
  status : DeploymentStatus
  deriving DecidableEq, Inhabited

/-- `isDeploymentAvailable`: at least one replica available. -/
def isDeploymentAvailable : Option Deployment → Bool
  | none => false
  | some d => d.status.availableReplicas > 0

/-- `isDeploymentUpToDate`: every count of the status at the replicas the spec asks for (-1 when it asks for none),
no replica unavailable, and the generation observed. -/
def isDeploymentUpToDate : Option Deployment → Bool
  | none => false
  | some d =>
    let expectedReplicas := d.replicas.getD (-1)
    d.status.updatedReplicas == expectedReplicas && d.status.replicas == expectedReplicas &&
      d.status.availableReplicas == expectedReplicas && d.status.readyReplicas == expectedReplicas &&
      d.status.unavailableReplicas == 0 && d.status.observedGeneration == d.generation

/-- The `Build` of `dependentsStatusToClusterPodPlacementConfig`, once its `Get`s returned: the two deployments (the
zero deployment for one not found), whether the mutating webhook configuration was found, and whether the object is
being deleted. -/
def dependentsStatusToClusterPodPlacementConfig (now : String) (s : FlaggedStatus)
    (podPlacementController podPlacementWebhook : Deployment) (mutatingWebhookConfigurationFound deleting : Bool) :
    FlaggedStatus :=
  s.build now (isDeploymentAvailable (some podPlacementController)) (isDeploymentAvailable (some podPlacementWebhook))
    (isDeploymentUpToDate (some podPlacementController)) (isDeploymentUpToDate (some podPlacementWebhook))
    mutatingWebhookConfigurationFound deleting

def clusterPodPlacementConfigNotReady : String := "cluster pod placement config is not ready yet. re-queueing"

/-- `updateStatus`, given what `Status().Update` returned: its error, or a requeue while the operand is progressing. -/
def updateStatus (statusUpdate : Except String Unit) (s : FlaggedStatus) : Except String Unit :=
  match statusUpdate with
  | .error e => .error e
  | .ok () => if s.progressing then .error clusterPodPlacementConfigNotReady else .ok ()

/-- What a `Reconcile` of the `ClusterPodPlacementConfig` reads of the operand before `Build`, and when. -/
structure Observation where
  now : String
  podPlacementController : Deployment
  podPlacementWebhook : Deployment
  mutatingWebhookConfigurationFound : Bool
  deleting : Bool

/-- The status after a `Reconcile` that observed `o`. -/
def FlaggedStatus.observe (s : FlaggedStatus) (o : Observation) : FlaggedStatus :=
  dependentsStatusToClusterPodPlacementConfig o.now s o.podPlacementController o.podPlacementWebhook
    o.mutatingWebhookConfigurationFound o.deleting

/-- The conditions the `Reconcile` that observed `o` sets, whatever the status it starts from. -/
def Observation.newConditions (o : Observation) : List Condition := ((default : FlaggedStatus).observe o).newConditions

/-- `shouldEnsureMWC` of `reconcile`. -/
def shouldEnsureMWC (s : FlaggedStatus) : Bool := s.canDeployMutatingWebhook

/-- `shouldDeleteMWC` of `reconcile`: it may not be deployed and the status saw it. -/
def shouldDeleteMWC (s : FlaggedStatus) : Bool := !shouldEnsureMWC s && !s.mutatingWebhookConfigurationNotAvailable

end MultiarchTuning
