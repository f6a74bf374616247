import MultiarchTuning.Go.Runtime
import MultiarchTuning.Go.Fold
import MultiarchTuning.Api.Core
import MultiarchTuning.Api.Config
import MultiarchTuning.PodPlacement.Affinity
import MultiarchTuning.PodPlacement.Images
import MultiarchTuning.PodPlacement.Reconciler
import MultiarchTuning.PodPlacement.Webhook
import MultiarchTuning.Semantics.NodeAffinity
import MultiarchTuning.Theorems.Admission
import MultiarchTuning.Semantics.GatedUpdate
import MultiarchTuning.Theorems.Frame
import MultiarchTuning.Lemmas.Runs
import MultiarchTuning.Theorems.Retries
import MultiarchTuning.Theorems.Idempotence
import MultiarchTuning.Image.Inspector
import MultiarchTuning.Theorems.Intersection
import MultiarchTuning.Theorems.NilSafety
import MultiarchTuning.Theorems.WebhookContract
import MultiarchTuning.Theorems.Conversion
import MultiarchTuning.Protocol.Machine
import MultiarchTuning.Api.Store
import MultiarchTuning.Protocol.Cluster
import MultiarchTuning.Theorems.Deprovisioning
import MultiarchTuning.Theorems.Markers
import MultiarchTuning.Go.Strings
import MultiarchTuning.Go.Url
import MultiarchTuning.Go.Match
import MultiarchTuning.Codes.SuffixFree
import MultiarchTuning.Go.Json
import MultiarchTuning.Image.Auth
import MultiarchTuning.Image.Cache
import MultiarchTuning.Theorems.CacheSoundness
import MultiarchTuning.Image.Expansion
import MultiarchTuning.Theorems.GlobExpansion
import MultiarchTuning.Lists.Keyed
import MultiarchTuning.Api.Status
import MultiarchTuning.Theorems.StatusConditions
import MultiarchTuning.Protocol.RWMutex
import MultiarchTuning.Image.SystemConfig
import MultiarchTuning.Theorems.SystemConfig
import MultiarchTuning.Protocol.Informer
import MultiarchTuning.Informers.Syncers
import MultiarchTuning.Theorems.Syncers
