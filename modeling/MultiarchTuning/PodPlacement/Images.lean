import Mathlib.Data.Finset.Sort
import Mathlib.Data.String.Basic
import MultiarchTuning.Go.Fold
import MultiarchTuning.PodPlacement.Affinity

/-!
# From the images of a pod to the node affinity the operator sets

`imagesNamesSet` collects the images of a pod's containers and init containers as a set of (reference, `skipCache`)
pairs; `intersectImagesArchitecture` ranges over that set, asks the image inspection for each element, and intersects
the answers, with nil for "no image read yet" (the loop of `Go.Fold`); `getArchitecturePredicate` turns the result into
a requirement on `kubernetes.io/arch`, or on the `no-supported-arch` label when the intersection is empty; and
`SetNodeAffinityArchRequirement` writes it, with the architecture labels of `ensureArchitectureLabels`.

The image inspection (`imageInspectionCache`, the cache and registry inspector of `pkg/image`) and the order in which
the Go runtime visits the set are parameters, collected with the operator's namespace and the reading of pull
secrets in `Env`; the order is any permutation, and `Env` carries that as a field. The inspection returns a set that is never nil: the registry inspector builds every set it returns
with `sets.New`, and the cache stores only those.
-/

namespace MultiarchTuning

open Utils

/-- The bytes of a pull secret. -/
abbrev Bytes := List UInt8

/-- `containerImage`: an image reference, and whether the pull policy is `Always` (then the cache is skipped). -/
structure ContainerImage where
  imageName : String
  skipCache : Bool
  deriving DecidableEq, Repr

/-- `ICache.GetCompatibleArchitecturesSet(ctx, imageReference, skipCache, pullSecrets)`. -/
abbrev Inspector := String → Bool → List Bytes → Except String (Finset String)

/-- What the pod model reads from outside the pod. -/
structure Env where
  /-- `utils.Namespace()`, the namespace of the operator's pods. -/
  operatorNamespace : String
  /-- `imageInspectionCache.GetCompatibleArchitecturesSet`. -/
  inspect : Inspector
  /-- The order in which `range` visits the set of images. -/
  order : List ContainerImage → List ContainerImage
  /-- `range` visits every element once. -/
  order_perm : ∀ l, (order l).Perm l
  /-- The data of the pull secret of a namespace and a name, `none` when reading or extracting it fails. -/
  secretData : String → String → Option Bytes

/-- `sets.List`: the elements in increasing order. -/
def setsList (s : Finset String) : List String := s.sort (· ≤ ·)

namespace Pod

/-- `pod.imagesNamesSet`: the references (with the `//` prefix `docker.ParseReference` wants) and pull policies of
the containers and init containers, without repetition. -/
def imagesNamesSet (pod : Pod) : List ContainerImage :=
  ((pod.spec.containers ++ pod.spec.initContainers).map fun c =>
    ⟨"//" ++ c.image, c.imagePullPolicy == .Always⟩).dedup

/-- What the inspection says of one element of the image set. -/
def inspectImage (env : Env) (psdl : List Bytes) (c : ContainerImage) : Except String (Finset String) :=
  env.inspect c.imageName c.skipCache psdl

/-- `pod.intersectImagesArchitecture`: the intersection of the architectures of every image, in increasing order, or
the first error of the inspection. No image gives the empty list. -/
def intersectImagesArchitecture (pod : Pod) (env : Env) (psdl : List Bytes) : Except String (List String) :=
  match (env.order pod.imagesNamesSet).foldlM (Go.meetStep (inspectImage env psdl)) none with
  | .error e => .error e
  | .ok s => .ok (setsList (s.getD ∅))

/-- `pod.getArchitecturePredicate`: `kubernetes.io/arch In` the architectures, or `no-supported-arch Exists` (with nil
values) when there is none. -/
def getArchitecturePredicate (pod : Pod) (env : Env) (psdl : List Bytes) : Except String NodeSelectorRequirement :=
  match pod.intersectImagesArchitecture env psdl with
  | .error e => .error e
  | .ok archs =>
    if archs.length = 0 then .ok ⟨noSupportedArchLabel, .Exists, none⟩
    else .ok ⟨archLabel, .In, some archs⟩

/-- `pod.ensureArchitectureLabels`: nothing for nil values; otherwise one of the `no-supported-arch`, `single-arch` and
`multi-arch` labels by the number of values, and one label per architecture. -/
def ensureArchitectureLabels (pod : Pod) (r : NodeSelectorRequirement) : Pod :=
  match r.values with
  | none => pod
  | some vs =>
    let pod := match vs.length with
      | 0 => pod.ensureLabel noSupportedArchLabel ""
      | 1 => pod.ensureLabel singleArchLabel ""
      | _ => pod.ensureLabel multiArchLabel ""
    vs.foldl (fun p v => p.ensureLabel (archLabelValue v) "") pod

/-- `pod.SetNodeAffinityArchRequirement`: nothing but the ignore label when the user constrained `kubernetes.io/arch`
already; the inspection's error, with the pod untouched, when it fails; and otherwise the labels and the patched
required node affinity. The result is the pod and `(patched, err)`. -/
def setNodeAffinityArchRequirement (pod : Pod) (env : Env) (psdl : List Bytes) :
    Except Go.Panic (Pod × Except String Bool) :=
  let (configured, pod) := pod.isNodeSelectorConfiguredForArchitecture
  if configured then .ok (pod.publishIgnorePod, .ok false)
  else
    match pod.getArchitecturePredicate env psdl with
    | .error e => .ok (pod, .error e)
    | .ok r => do
      let pod := ((pod.ensureNoLabel imageInspectionErrorLabel).ensureArchitectureLabels r).allocateRequired
      let pod ← pod.setRequiredArchNodeAffinity r
      pure (pod, .ok true)

/-! ## Spec lemmas -/

@[simp] theorem ensureArchitectureLabels_spec (pod : Pod) (r : NodeSelectorRequirement) :
    (pod.ensureArchitectureLabels r).spec = pod.spec := by
  unfold ensureArchitectureLabels
  cases r.values with
  | none => rfl
  | some vs =>
    have hfold : ∀ (l : List String) (p : Pod), (l.foldl (fun p v => p.ensureLabel (archLabelValue v) "") p).spec =
        p.spec := by
      intro l
      induction l with
      | nil => intro p; rfl
      | cons v l ih => intro p; rw [List.foldl_cons, ih, ensureLabel_spec]
    simp only
    rw [hfold]
    split <;> rfl

theorem nodeAffinity?_of_spec {p q : Pod} (h : p.spec = q.spec) : p.nodeAffinity? = q.nodeAffinity? := by
  simp [nodeAffinity?, h]

theorem requiredTerms?_of_spec {p q : Pod} (h : p.spec = q.spec) : p.requiredTerms? = q.requiredTerms? := by
  simp [requiredTerms?, nodeAffinity?_of_spec h]

/-- When `isNodeSelectorConfiguredForArchitecture` is false it wrote nothing. -/
theorem isNodeSelectorConfiguredForArchitecture_snd_of_false {pod : Pod}
    (h : pod.isNodeSelectorConfiguredForArchitecture.1 = false) : pod.isNodeSelectorConfiguredForArchitecture.2 = pod := by
  rw [isNodeSelectorConfiguredForArchitecture_snd]
  unfold isNodeSelectorConfiguredForArchitecture at h
  split at h
  · cases h
  · rename_i hk
    rw [if_neg hk]

/-- `SetNodeAffinityArchRequirement` after a successful inspection: the pod with its labels written and its required
terms patched. -/
theorem setNodeAffinityArchRequirement_of_ok {pod : Pod} {env : Env} {psdl : List Bytes} {r : NodeSelectorRequirement}
    (hc : pod.isNodeSelectorConfiguredForArchitecture.1 = false) (hr : pod.getArchitecturePredicate env psdl = .ok r) :
    pod.setNodeAffinityArchRequirement env psdl =
      .ok ((((pod.ensureNoLabel imageInspectionErrorLabel).ensureArchitectureLabels r).modifyNodeAffinity fun na =>
        { na with
          requiredDuringSchedulingIgnoredDuringExecution :=
            some ⟨patchTerms r (pod.requiredTerms?.getD [])⟩ }).ensureLabel nodeAffinityLabel nodeAffinityLabelValueSet,
        .ok true) := by
  have h2 := isNodeSelectorConfiguredForArchitecture_snd_of_false hc
  have hreq : ((pod.ensureNoLabel imageInspectionErrorLabel).ensureArchitectureLabels r).requiredTerms? =
      pod.requiredTerms? := requiredTerms?_of_spec (by simp)
  unfold setNodeAffinityArchRequirement
  rw [← hreq]
  rcases hq : pod.isNodeSelectorConfiguredForArchitecture with ⟨b, q⟩
  rw [hq] at hc h2
  simp only at hc h2
  subst hc h2
  simp [hr, setRequiredArchNodeAffinity_allocateRequired]

/-- `SetNodeAffinityArchRequirement` after a failed inspection: the error, and the pod as it was. -/
theorem setNodeAffinityArchRequirement_of_error {pod : Pod} {env : Env} {psdl : List Bytes} {e : String}
    (hc : pod.isNodeSelectorConfiguredForArchitecture.1 = false) (he : pod.getArchitecturePredicate env psdl = .error e) :
    pod.setNodeAffinityArchRequirement env psdl = .ok (pod, .error e) := by
  have h2 := isNodeSelectorConfiguredForArchitecture_snd_of_false hc
  unfold setNodeAffinityArchRequirement
  rcases hq : pod.isNodeSelectorConfiguredForArchitecture with ⟨b, q⟩
  rw [hq] at hc h2
  simp only at hc h2
  subst hc h2
  simp [he]

/-- `SetNodeAffinityArchRequirement` on a pod whose user constrained `kubernetes.io/arch`: only a label. -/
theorem setNodeAffinityArchRequirement_of_configured {pod : Pod} {env : Env} {psdl : List Bytes}
    (hc : pod.isNodeSelectorConfiguredForArchitecture.1 = true) :
    pod.setNodeAffinityArchRequirement env psdl =
      .ok (pod.isNodeSelectorConfiguredForArchitecture.2.publishIgnorePod, .ok false) := by
  unfold setNodeAffinityArchRequirement
  rcases hq : pod.isNodeSelectorConfiguredForArchitecture with ⟨b, q⟩
  rw [hq] at hc
  simp only at hc
  subst hc
  rfl

end Pod

end MultiarchTuning
