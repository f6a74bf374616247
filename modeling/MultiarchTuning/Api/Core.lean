import MultiarchTuning.Api.Meta

/-!
# The pod, as far as the pod placement operand reads and writes it

The types of `k8s.io/api/core/v1` (vendored `types.go`) that `pod_model.go`, the pod reconciler and the scheduling-gate
webhook use, with the fields they use. The pod's other fields (volumes, tolerations, status, ...) are read and written by
none of the modelled functions and are left out; every update in the model is a record update, so it keeps them as the
Go code does.

A pointer the code tests against nil is an `Option` (`Affinity`, `NodeAffinity`, the required `NodeSelector`), and so is
the `Values` slice of a requirement, which `ensureArchitectureLabels` tests against nil. The constants of
`pkg/utils/const.go` follow, with `ArchLabelValue` (`pkg/utils/utils.go`).
-/

namespace MultiarchTuning

/-- `corev1.NodeSelectorOperator`. -/
inductive NodeSelectorOperator where
  | In | NotIn | Exists | DoesNotExist | Gt | Lt
  deriving DecidableEq, Repr

/-- The `labels.Requirement` operator the scheduler reads a node selector operator as. -/
def NodeSelectorOperator.toSelection : NodeSelectorOperator → SelectionOperator
  | .In => .In
  | .NotIn => .NotIn
  | .Exists => .Exists
  | .DoesNotExist => .DoesNotExist
  | .Gt => .GreaterThan
  | .Lt => .LessThan

/-- `corev1.NodeSelectorRequirement`. -/
structure NodeSelectorRequirement where
  key : String
  operator : NodeSelectorOperator
  values : Option (List String)
  deriving DecidableEq, Repr

/-- `corev1.NodeSelectorTerm`: the requirements of a term are ANDed. -/
structure NodeSelectorTerm where
  matchExpressions : List NodeSelectorRequirement
  matchFields : List NodeSelectorRequirement
  deriving DecidableEq, Repr

/-- `corev1.NodeSelector`: its terms are ORed. -/
structure NodeSelector where
  nodeSelectorTerms : List NodeSelectorTerm
  deriving DecidableEq, Repr

/-- `corev1.PreferredSchedulingTerm`. -/
structure PreferredSchedulingTerm where
  weight : Int
  preference : NodeSelectorTerm
  deriving DecidableEq, Repr

/-- `corev1.NodeAffinity`. -/
structure NodeAffinity where
  requiredDuringSchedulingIgnoredDuringExecution : Option NodeSelector
  preferredDuringSchedulingIgnoredDuringExecution : List PreferredSchedulingTerm
  deriving DecidableEq, Repr

/-- `corev1.PodAffinityTerm`. -/
structure PodAffinityTerm where
  labelSelector : Option LabelSelector
  namespaces : List String
  topologyKey : String
  deriving DecidableEq

/-- `corev1.WeightedPodAffinityTerm`. -/
structure WeightedPodAffinityTerm where
  weight : Int
  podAffinityTerm : PodAffinityTerm
  deriving DecidableEq

/-- `corev1.PodAffinity`, and `corev1.PodAntiAffinity`, which has the same fields. -/
structure PodAffinity where
  requiredDuringSchedulingIgnoredDuringExecution : List PodAffinityTerm
  preferredDuringSchedulingIgnoredDuringExecution : List WeightedPodAffinityTerm
  deriving DecidableEq

/-- `corev1.Affinity`. -/
structure Affinity where
  nodeAffinity : Option NodeAffinity
  podAffinity : Option PodAffinity
  podAntiAffinity : Option PodAffinity
  deriving DecidableEq

/-- `corev1.PullPolicy`. -/
inductive PullPolicy where
  | Always | Never | IfNotPresent
  deriving DecidableEq, Repr

/-- `corev1.Container`: the fields the image inspection reads. -/
structure Container where
  name : String
  image : String
  imagePullPolicy : PullPolicy
  deriving DecidableEq, Repr

/-- `corev1.PodSchedulingGate`. -/
structure PodSchedulingGate where
  name : String
  deriving DecidableEq, Repr

/-- `corev1.LocalObjectReference`, an entry of `imagePullSecrets`. -/
structure LocalObjectReference where
  name : String
  deriving DecidableEq, Repr

/-- `corev1.PodSpec`. -/
structure PodSpec where
  nodeName : String
  nodeSelector : StrMap
  affinity : Option Affinity
  schedulingGates : List PodSchedulingGate
  containers : List Container
  initContainers : List Container
  imagePullSecrets : List LocalObjectReference
  deriving DecidableEq

/-- `corev1.Pod`. The operator's `Pod` wraps it with a context and an event recorder, which only log and publish
events. -/
structure Pod where
  metadata : ObjectMeta
  spec : PodSpec
  deriving DecidableEq

namespace Utils

/-! ## `pkg/utils/const.go` -/

def archLabel : String := "kubernetes.io/arch"
def nodeAffinityLabel : String := "multiarch.openshift.io/node-affinity"
def preferredNodeAffinityLabel : String := "multiarch.openshift.io/preferred-node-affinity"
def nodeAffinityLabelValueSet : String := "set"
def labelValueNotSet : String := "not-set"
def schedulingGateLabel : String := "multiarch.openshift.io/scheduling-gate"
def schedulingGateLabelValueGated : String := "gated"
def schedulingGateLabelValueRemoved : String := "removed"
def singleArchLabel : String := "multiarch.openshift.io/single-arch"
def multiArchLabel : String := "multiarch.openshift.io/multi-arch"
def noSupportedArchLabel : String := "multiarch.openshift.io/no-supported-arch"
def imageInspectionErrorLabel : String := "multiarch.openshift.io/image-inspect-error"
def imageInspectionErrorCountLabel : String := "multiarch.openshift.io/image-inspect-error-count"
def labelGroup : String := "multiarch.openshift.io"
def schedulingGateName : String := "multiarch.openshift.io/scheduling-gate"
def masterNodeSelectorLabel : String := "node-role.kubernetes.io/master"
def controlPlaneNodeSelectorLabel : String := "node-role.kubernetes.io/control-plane"
def podPlacementFinalizerName : String := "finalizers.multiarch.openshift.io/pod-placement"
def podPlacementControllerName : String := "pod-placement-controller"

/-- `utils.ArchLabelValue`: the label that marks a pod as supporting `arch`. -/
def archLabelValue (arch : String) : String := Go.join labelGroup arch

end Utils

end MultiarchTuning
