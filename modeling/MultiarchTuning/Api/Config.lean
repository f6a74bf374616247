import MultiarchTuning.Api.Meta

/-!
# The `ClusterPodPlacementConfig` API, in its two served versions

`v1beta1` (`apis/multiarch/v1beta1`, the storage version and conversion hub) carries the `plugins` tree of
`apis/multiarch/common/plugins`; `v1alpha1` has no such field. `ClusterPodPlacementConfigValidator.validate` is the
validating webhook, `SchemaValid` the structural schema of the generated CRD (`config/crd/bases`), and
`convertTo`/`convertFrom` the conversion of `clusterPodPlacementConfig_conversion.go`, which writes into the object the
conversion webhook allocates (`allocateDstObject`, the zero object).

The status of `v1beta1` also holds unexported flags the controller derives its conditions from; they are tagged
`json:"-"`, never stored or converted, and left out. `TypeMeta` is the Lean type itself.
-/

namespace MultiarchTuning

/-- `plugins.BasePlugin`. -/
structure BasePlugin where
  enabled : Bool
  deriving DecidableEq, Repr, Inhabited

/-- `plugins.NodeAffinityScoringPlatformTerm`. -/
structure NodeAffinityScoringPlatformTerm where
  architecture : String
  weight : Int
  deriving DecidableEq, Repr

/-- `plugins.NodeAffinityScoring`, which embeds `BasePlugin`. -/
structure NodeAffinityScoring extends BasePlugin where
  platforms : List NodeAffinityScoringPlatformTerm
  deriving DecidableEq, Repr

/-- `plugins.Plugins`. -/
structure Plugins where
  nodeAffinityScoring : Option NodeAffinityScoring
  deriving DecidableEq, Repr

/-- `v1beta1.ClusterPodPlacementConfigSpec`. -/
structure ClusterPodPlacementConfigSpec where
  logVerbosity : String
  namespaceSelector : Option LabelSelector
  plugins : Option Plugins
  deriving DecidableEq, Inhabited

/-- `v1beta1.ClusterPodPlacementConfigStatus`, its stored field. -/
structure ClusterPodPlacementConfigStatus where
  conditions : List Condition
  deriving DecidableEq, Inhabited

/-- `v1beta1.ClusterPodPlacementConfig`. -/
structure ClusterPodPlacementConfig where
  metadata : ObjectMeta
  spec : ClusterPodPlacementConfigSpec
  status : ClusterPodPlacementConfigStatus
  deriving DecidableEq, Inhabited

/-- `BasePlugin.IsEnabled`. -/
def BasePlugin.isEnabled (b : BasePlugin) : Bool := b.enabled

/-- `ClusterPodPlacementConfigValidator.validate`: a configuration without the `NodeAffinityScoring` plugin is
accepted as it is; with it, the architectures of its platforms must be pairwise distinct. -/
def ClusterPodPlacementConfigValidator.validate (c : ClusterPodPlacementConfig) : Except String Unit :=
  match c.spec.plugins with
  | none => .ok ()
  | some p =>
    match p.nodeAffinityScoring with
    | none => .ok ()
    | some nas =>
      if (nas.platforms.map (·.architecture)).Nodup then .ok ()
      else .error "duplicate architecture in the .spec.plugins.nodeAffinityScoring.platforms list"

/-- The architectures the CRD's enum allows for a platform term. -/
def schemaArchitectures : List String := ["arm64", "amd64", "ppc64le", "s390x"]

/-- The structural schema of the CRD on `spec.plugins`: `nodeAffinityScoring` is optional, and when present has at
least one platform, each with an architecture of the enum and a weight from 1 to 100. -/
def ClusterPodPlacementConfig.SchemaValid (c : ClusterPodPlacementConfig) : Prop :=
  ∀ p, c.spec.plugins = some p → ∀ nas, p.nodeAffinityScoring = some nas →
    nas.platforms ≠ [] ∧ ∀ t ∈ nas.platforms, t.architecture ∈ schemaArchitectures ∧ 1 ≤ t.weight ∧ t.weight ≤ 100

instance (c : ClusterPodPlacementConfig) : Decidable c.SchemaValid :=
  match hp : c.spec.plugins with
  | none => isTrue (fun p h => by rw [hp] at h; cases h)
  | some p =>
    match hn : p.nodeAffinityScoring with
    | none => isTrue (fun p' h => by rw [hp] at h; cases h; intro nas h'; rw [hn] at h'; cases h')
    | some nas =>
      decidable_of_iff (nas.platforms ≠ [] ∧
          ∀ t ∈ nas.platforms, t.architecture ∈ schemaArchitectures ∧ 1 ≤ t.weight ∧ t.weight ≤ 100)
        ⟨fun h p' hp' nas' hn' => by
          rw [hp] at hp'; cases hp'; rw [hn] at hn'; cases hn'; exact h,
        fun h => h p hp nas hn⟩

namespace V1alpha1

/-- `v1alpha1.ClusterPodPlacementConfigSpec`: no plugins. -/
structure ClusterPodPlacementConfigSpec where
  logVerbosity : String
  namespaceSelector : Option LabelSelector
  deriving DecidableEq, Inhabited

/-- `v1alpha1.ClusterPodPlacementConfigStatus`. -/
structure ClusterPodPlacementConfigStatus where
  conditions : List Condition
  deriving DecidableEq, Inhabited

/-- `v1alpha1.ClusterPodPlacementConfig`. -/
structure ClusterPodPlacementConfig where
  metadata : ObjectMeta
  spec : ClusterPodPlacementConfigSpec
  status : ClusterPodPlacementConfigStatus
  deriving DecidableEq, Inhabited

/-- `ConvertTo`: the hub object `dst` with the metadata, the log verbosity, the namespace selector and the
conditions of `src`; what `src` does not have (the plugins) stays as it was in `dst`. -/
def convertTo (src : ClusterPodPlacementConfig) (dst : MultiarchTuning.ClusterPodPlacementConfig) :
    MultiarchTuning.ClusterPodPlacementConfig :=
  { dst with
    metadata := src.metadata
    spec := { dst.spec with logVerbosity := src.spec.logVerbosity, namespaceSelector := src.spec.namespaceSelector }
    status := { dst.status with conditions := src.status.conditions } }

/-- `ConvertFrom`: `dst` with the metadata, the log verbosity, the namespace selector and the conditions of the hub
object `src`, and an annotations map allocated when it is nil. -/
def convertFrom (dst : ClusterPodPlacementConfig) (src : MultiarchTuning.ClusterPodPlacementConfig) :
    ClusterPodPlacementConfig :=
  let d : ClusterPodPlacementConfig :=
    { dst with
      metadata := src.metadata
      spec := { dst.spec with logVerbosity := src.spec.logVerbosity, namespaceSelector := src.spec.namespaceSelector }
      status := { dst.status with conditions := src.status.conditions } }
  match d.metadata.annotations with
  | none => { d with metadata := { d.metadata with annotations := some ∅ } }
  | some _ => d

end V1alpha1

end MultiarchTuning
