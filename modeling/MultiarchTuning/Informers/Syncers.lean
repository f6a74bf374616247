import MultiarchTuning.Api.Config
import MultiarchTuning.Protocol.Informer

/-!
# The informers' event handlers

Two syncers keep in memory what an informer tells them.

`CPPCSyncer` (`pkg/informers/clusterpodplacementconfig`) stores a copy of the `ClusterPodPlacementConfig` on each add
and on each update that changed its resource version, and drops it on a delete; the webhook and the pod reconciler
read the stored copy (`internal/storage.go`). A delete that the informer missed comes as a `DeletedFinalStateUnknown`
tombstone, on which the type assertion of `onDelete` fails: the syncer logs an error and keeps its copy.

`GlobalPullSecretSyncer` (`controllers/podplacement/global_pull_secret.go`) watches the secrets of one namespace. On
each add of the secret it follows, and on each update of it that changed its resource version, it hands the
credentials that `ExtractAuthFromSecret` reads from it to the image inspector (`StoreGlobalPullSecret`). It registers
no delete handler.

Each handler is modelled as what it does to the stored value. The informer hands add and update handlers objects of
its own type, so only the type assertion of `onDelete` can fail.
-/

namespace MultiarchTuning

namespace Informers

open Informer

/-! ## `CPPCSyncer` -/

/-- `onAdd`: `StoreClusterPodPlacementConfig` stores a deep copy of the object. -/
def CPPCSyncer.onAdd (config : ClusterPodPlacementConfig) : Option ClusterPodPlacementConfig :=
  some config

/-- `onUpdate`: an update that kept the resource version is a resync and changes nothing. -/
def CPPCSyncer.onUpdate (oldConfig newConfig : ClusterPodPlacementConfig) (stored : Option ClusterPodPlacementConfig) :
    Option ClusterPodPlacementConfig :=
  if oldConfig.metadata.resourceVersion = newConfig.metadata.resourceVersion then stored
  else CPPCSyncer.onAdd newConfig

/-- `onDelete`: `DeleteClusterPodPlacementConfig` on the deleted object; a tombstone fails the type assertion, and the
stored object stays. -/
def CPPCSyncer.onDelete : Deleted ClusterPodPlacementConfig → Option ClusterPodPlacementConfig →
    Option ClusterPodPlacementConfig
  | .final _, _ => none
  | .unknown _ _, stored => stored

/-- The handlers `Start` registers, on the stored object. -/
def CPPCSyncer.handle (stored : Option ClusterPodPlacementConfig) :
    Notification ClusterPodPlacementConfig → Option ClusterPodPlacementConfig
  | .add config => CPPCSyncer.onAdd config
  | .update oldConfig newConfig => CPPCSyncer.onUpdate oldConfig newConfig stored
  | .delete obj => CPPCSyncer.onDelete obj stored

/-! ## `GlobalPullSecretSyncer` -/

/-- The fields of `corev1.Secret` that `ExtractAuthFromSecret` and the syncer read. -/
structure Secret where
  metadata : ObjectMeta
  type : String
  data : String → Option (List UInt8)

/-- `ExtractAuthFromSecret`. `unmarshal` is `json.Unmarshal` into a `map[string]json.RawMessage`; a key that a map
lacks reads as nil. -/
def extractAuthFromSecret (unmarshal : List UInt8 → Except String (String → Option (List UInt8)))
    (secret : Secret) : Except String (List UInt8) :=
  match secret.type with
  | "kubernetes.io/dockercfg" => .ok ((secret.data ".dockercfg").getD [])
  | "kubernetes.io/dockerconfigjson" => do
    let objmap ← unmarshal ((secret.data ".dockerconfigjson").getD [])
    pure ((objmap "auths").getD [])
  | _ => .error "unknown secret type"

section GlobalPullSecret

variable (unmarshal : List UInt8 → Except String (String → Option (List UInt8))) (name : String)

/-- `onAddOrUpdate` of the syncer that follows the secret `name`, on the inspector's global pull secret: a secret of
another name is ignored, and credentials that cannot be read are logged and not stored. -/
def GlobalPullSecretSyncer.onAddOrUpdate (secret : Secret) (globalPullSecret : List UInt8) : List UInt8 :=
  if secret.metadata.name ≠ name then globalPullSecret
  else
    match extractAuthFromSecret unmarshal secret with
    | .ok pullSecret => pullSecret
    | .error _ => globalPullSecret

/-- `onUpdate`: an update that kept the resource version changes nothing. -/
def GlobalPullSecretSyncer.onUpdate (oldSecret newSecret : Secret) (globalPullSecret : List UInt8) : List UInt8 :=
  if oldSecret.metadata.resourceVersion = newSecret.metadata.resourceVersion then globalPullSecret
  else GlobalPullSecretSyncer.onAddOrUpdate unmarshal name newSecret globalPullSecret

/-- The handlers `Start` registers: none for a delete. -/
def GlobalPullSecretSyncer.handle (globalPullSecret : List UInt8) : Notification Secret → List UInt8
  | .add secret => GlobalPullSecretSyncer.onAddOrUpdate unmarshal name secret globalPullSecret
  | .update oldSecret newSecret => GlobalPullSecretSyncer.onUpdate unmarshal name oldSecret newSecret globalPullSecret
  | .delete _ => globalPullSecret

/-- The syncer ignores every notification about another secret. -/
theorem GlobalPullSecretSyncer.handle_of_not_concerns (g : List UInt8) (e : Notification Secret)
    (he : e.concerns (·.metadata.name) name = false) : GlobalPullSecretSyncer.handle unmarshal name g e = g := by
  have hne : ∀ secret : Secret, (secret.metadata.name == name) = false →
      GlobalPullSecretSyncer.onAddOrUpdate unmarshal name secret g = g := by
    intro secret h
    rw [GlobalPullSecretSyncer.onAddOrUpdate, if_pos (by simpa using h)]
  cases e with
  | add secret => exact hne secret he
  | update oldSecret newSecret =>
    simp only [GlobalPullSecretSyncer.handle, GlobalPullSecretSyncer.onUpdate]
    split
    · rfl
    · exact hne newSecret he
  | delete obj => rfl

/-- An add of the followed secret stores what `ExtractAuthFromSecret` reads from it, when it can. -/
theorem GlobalPullSecretSyncer.onAddOrUpdate_of_name {secret : Secret} (hname : secret.metadata.name = name)
    (g : List UInt8) :
    GlobalPullSecretSyncer.onAddOrUpdate unmarshal name secret g =
      ((extractAuthFromSecret unmarshal secret).toOption).getD g := by
  rw [GlobalPullSecretSyncer.onAddOrUpdate, if_neg (not_not.mpr hname)]
  cases extractAuthFromSecret unmarshal secret <;> rfl

end GlobalPullSecret

end Informers

end MultiarchTuning
