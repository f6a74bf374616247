import MultiarchTuning.PodPlacement.Images

/-!
# The registry inspector

`registryInspector.GetCompatibleArchitecturesSet` (`pkg/image/inspector.go`) reads an image's manifest and config from
its registry through `containers/image`. The calls into the library are the fields of `Registry`, each of which may
fail with an error; the calls the inspector makes before the manifest is classified (the auth file, the reference, the
image source, the manifest, the signature policy) are one field, since the inspector only returns their error.

What the inspector itself computes is modelled as the code has it. A manifest list is read as an OCI index; the
architecture of each of its manifests is read through the optional `Platform` pointer, and the first manifest is taken
as the instance whose config is read, both of which can panic: an empty index does
(`getCompatibleArchitecturesSet_of_empty_index`). A config that carries the operator-sdk bundle label gives the four
supported architectures (`getCompatibleArchitecturesSet_of_bundle`), a single manifest its config's
architecture, and a manifest list the architectures of its manifests.
-/

namespace MultiarchTuning

namespace Utils

/-- `utils.AllSupportedArchitecturesSet`. -/
def allSupportedArchitecturesSet : Finset String := {"amd64", "arm64", "ppc64le", "s390x"}

end Utils

namespace Image

/-- `operatorSDKBuilderBundleAnnotation`, the config label of an operator bundle image. -/
def operatorSDKBuilderBundleAnnotation : String := "operators.operatorframework.io.metrics.builder"

/-- `v1.Platform` of `image-spec`, with the field the inspector reads. -/
structure Platform where
  architecture : String
  deriving DecidableEq, Repr

/-- `v1.Descriptor`: a manifest of an index, its digest, and its optional platform. -/
structure Descriptor where
  digest : String
  platform : Option Platform
  deriving DecidableEq, Repr

/-- `manifest.OCI1Index`. -/
structure OCI1Index where
  manifests : List Descriptor
  deriving DecidableEq, Repr

/-- The OCI config of an image: its `architecture` and its `config.Labels`. A nil label map reads as an empty one. -/
structure ImageConfig where
  architecture : String
  labels : StrMap
  deriving DecidableEq

/-- What `GetCompatibleArchitecturesSet` asks of `containers/image`; every call may fail. -/
structure Registry where
  /-- `createAuthFile`, `docker.ParseReference`, `NewImageSource`, `GetManifest`, `signature.DefaultPolicy` and
  `NewPolicyContext`: the raw manifest of a reference, read with the pull secrets. -/
  rawManifest : String → List Bytes → Except String Bytes
  /-- `manifest.MIMETypeIsMultiImage(manifest.GuessMIMEType(rawManifest))`. -/
  isMultiImage : Bytes → Bool
  /-- `manifest.OCI1IndexFromManifest`. -/
  ociIndex : Bytes → Except String OCI1Index
  /-- `policyCtx.IsRunningImageAllowed` on the instance of a digest (nil for the image itself). -/
  isRunningImageAllowed : String → List Bytes → Option String → Except String Unit
  /-- `image.FromUnparsedImage` and `OCIConfig` on the instance of a digest. -/
  ociConfig : String → List Bytes → Option String → Except String ImageConfig

/-- `registryInspector`, with the global pull secret it holds. -/
structure RegistryInspector where
  globalPullSecret : Bytes

/-- The loop over `index.Manifests`: `sets.Insert(supportedArchitectures, m.Platform.Architecture)`. -/
def indexArchitectures (index : OCI1Index) : Except Go.Panic (Finset String) :=
  index.manifests.foldlM (fun s m => do
    let p ← Go.deref m.platform
    pure (insert p.architecture s)) ∅

/-- The manifest-list branch: the architectures of the index, and `&index.Manifests[0].Digest`. -/
def manifestListArchitectures (reg : Registry) (raw : Bytes) :
    Except Go.Panic (Except String (Finset String × Option String)) :=
  match reg.ociIndex raw with
  | .error e => .ok (.error e)
  | .ok index => do
    let s ← indexArchitectures index
    let m ← Go.index index.manifests 0
    pure (.ok (s, some m.digest))

/-- From the policy check on: the architectures the config gives, a bundle image giving every supported one. -/
def configArchitectures (reg : Registry) (imageReference : String) (secrets : List Bytes) (multi : Bool)
    (supportedArchitectures : Finset String) (instanceDigest : Option String) : Except String (Finset String) := do
  reg.isRunningImageAllowed imageReference secrets instanceDigest
  let config ← reg.ociConfig imageReference secrets instanceDigest
  if (config.labels.lookup operatorSDKBuilderBundleAnnotation).isSome then
    return Utils.allSupportedArchitecturesSet
  if !multi then
    return {config.architecture}
  return supportedArchitectures

/-- `i.GetCompatibleArchitecturesSet(ctx, imageReference, _, secrets)`: the architectures, an error, or a panic. -/
def RegistryInspector.getCompatibleArchitecturesSet (i : RegistryInspector) (reg : Registry) (imageReference : String)
    (_ : Bool) (secrets : List Bytes) : Except Go.Panic (Except String (Finset String)) :=
  let secrets := i.globalPullSecret :: secrets
  match reg.rawManifest imageReference secrets with
  | .error e => .ok (.error e)
  | .ok raw =>
    if reg.isMultiImage raw then
      match manifestListArchitectures reg raw with
      | .error p => .error p
      | .ok (.error e) => .ok (.error e)
      | .ok (.ok (s, d)) => .ok (configArchitectures reg imageReference secrets true s d)
    else .ok (configArchitectures reg imageReference secrets false ∅ none)

/-! ## What the inspector returns -/

section Inspect

variable {i : RegistryInspector} {reg : Registry} {ref : String} {skip : Bool} {secrets : List Bytes} {raw : Bytes}

/-- An empty index panics: `index.Manifests[0]` is out of range. -/
theorem getCompatibleArchitecturesSet_of_empty_index
    (hraw : reg.rawManifest ref (i.globalPullSecret :: secrets) = .ok raw) (hm : reg.isMultiImage raw = true)
    (hi : reg.ociIndex raw = .ok ⟨[]⟩) :
    i.getCompatibleArchitecturesSet reg ref skip secrets = .error (.indexOutOfRange 0 0) := by
  simp [RegistryInspector.getCompatibleArchitecturesSet, hraw, hm, manifestListArchitectures, hi, indexArchitectures,
    Go.index]

/-- A bundle image, read without error, gives the four supported architectures. -/
theorem getCompatibleArchitecturesSet_of_bundle {config : ImageConfig}
    (hraw : reg.rawManifest ref (i.globalPullSecret :: secrets) = .ok raw) (hm : reg.isMultiImage raw = false)
    (hp : reg.isRunningImageAllowed ref (i.globalPullSecret :: secrets) none = .ok ())
    (hc : reg.ociConfig ref (i.globalPullSecret :: secrets) none = .ok config)
    (hb : (config.labels.lookup operatorSDKBuilderBundleAnnotation).isSome = true) :
    i.getCompatibleArchitecturesSet reg ref skip secrets = .ok (.ok Utils.allSupportedArchitecturesSet) := by
  simp [RegistryInspector.getCompatibleArchitecturesSet, hraw, hm, configArchitectures, hp, hc, hb]

end Inspect

/-- A registry whose every manifest is an OCI index with no manifest, as an index of attestations or artifacts can
be. -/
def emptyIndexRegistry : Registry where
  rawManifest _ _ := .ok []
  isMultiImage _ := true
  ociIndex _ := .ok ⟨[]⟩
  isRunningImageAllowed _ _ _ := .ok ()
  ociConfig _ _ _ := .ok ⟨"amd64", ∅⟩

/-- On an empty index the inspector indexes `index.Manifests[0]` of an empty slice. -/
theorem getCompatibleArchitecturesSet_emptyIndexRegistry :
    (⟨[]⟩ : RegistryInspector).getCompatibleArchitecturesSet emptyIndexRegistry "//quay.io/org/attestations:latest"
      false [] = .error (.indexOutOfRange 0 0) :=
  getCompatibleArchitecturesSet_of_empty_index rfl rfl rfl

/-- The inspector as an `Inspector` of the pod model, on a registry where it never panics. -/
def RegistryInspector.inspector (i : RegistryInspector) (reg : Registry)
    (h : ∀ ref skip secrets, ∃ r, i.getCompatibleArchitecturesSet reg ref skip secrets = .ok r) : Inspector :=
  fun ref skip secrets =>
    match hr : i.getCompatibleArchitecturesSet reg ref skip secrets with
    | .ok r => r
    | .error _ => absurd hr (by obtain ⟨r, hr'⟩ := h ref skip secrets; rw [hr']; exact fun h => nomatch h)

/-- The inspector does not read `skipCache`. -/
theorem RegistryInspector.inspector_skip (i : RegistryInspector) (reg : Registry)
    (h : ∀ ref skip secrets, ∃ r, i.getCompatibleArchitecturesSet reg ref skip secrets = .ok r) (ref : String)
    (b b' : Bool) (secrets : List Bytes) : i.inspector reg h ref b secrets = i.inspector reg h ref b' secrets := rfl

theorem RegistryInspector.inspector_eq {i : RegistryInspector} {reg : Registry}
    {h : ∀ ref skip secrets, ∃ r, i.getCompatibleArchitecturesSet reg ref skip secrets = .ok r} {ref : String}
    {skip : Bool} {secrets : List Bytes} {r : Except String (Finset String)}
    (hr : i.getCompatibleArchitecturesSet reg ref skip secrets = .ok r) : i.inspector reg h ref skip secrets = r := by
  unfold RegistryInspector.inspector
  split
  · rename_i r' hr'
    rw [hr] at hr'
    cases hr'
    rfl
  · rename_i p hp
    rw [hr] at hp
    cases hp

end Image

end MultiarchTuning
