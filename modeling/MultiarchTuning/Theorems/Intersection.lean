import MultiarchTuning.Image.Inspector

/-!
# What `getArchitecturePredicate` computes

`getArchitecturePredicate` is the meet loop of `Go.Fold` over the image set of the pod, followed by `requirementOf`
on what it met (`getArchitecturePredicate_eq`). So it fails exactly when the inspection fails on an image of the set
(`getArchitecturePredicate_error_iff`); otherwise, for a pod with an image, it asks for the intersection of the
architectures of the images (`getArchitecturePredicate_eq_intersection`).

When the inspection does not read `skipCache`, the loop reads only the references of the set, so the result depends
only on which images the pod names: not on the order of the containers or the iteration order, on repeated images, on
the split between containers and init containers, or on the pull policies (`toOption_getArchitecturePredicate_congr`).
The error returned is the first one the iteration meets, so the equality is of the results read as options: which error
comes back depends on the order of `range`.

The registry inspector answers an operator bundle image with the four supported architectures
(`Image.getCompatibleArchitecturesSet_of_bundle`), not with "no constraint". Removing a bundle image changes nothing
when the other images' intersection lies within those four (`toOption_getArchitecturePredicate_of_bundle`); when it does
not, the bundle narrows the intersection, and a pod whose other image is built for `riscv64` only gets the
`no-supported-arch` requirement instead of `riscv64`.
-/

namespace MultiarchTuning

open Utils

/-- The requirement `getArchitecturePredicate` makes of the architectures `archs` that every image supports:
`kubernetes.io/arch In` them in increasing order, or `no-supported-arch Exists` when there is none. -/
def requirementOf (archs : Finset String) : NodeSelectorRequirement :=
  if archs = ∅ then ⟨noSupportedArchLabel, .Exists, none⟩ else ⟨archLabel, .In, some (setsList archs)⟩

/-- `range` visits no element exactly when there is none. -/
theorem Env.order_eq_nil_iff (env : Env) (l : List ContainerImage) : env.order l = [] ↔ l = [] := by
  constructor
  · intro h
    have hp := env.order_perm l
    rw [h] at hp
    exact hp.symm.eq_nil
  · rintro rfl
    exact (env.order_perm []).eq_nil

namespace Pod

/-- The images the containers and init containers name. -/
def images (pod : Pod) : List String := (pod.spec.containers ++ pod.spec.initContainers).map (·.image)

/-- The loop, then the requirement of what it met. -/
theorem getArchitecturePredicate_eq (pod : Pod) (env : Env) (psdl : List Bytes) :
    pod.getArchitecturePredicate env psdl =
      (fun s => requirementOf (s.getD ∅)) <$>
        (env.order pod.imagesNamesSet).foldlM (Go.meetStep (inspectImage env psdl)) none := by
  unfold getArchitecturePredicate intersectImagesArchitecture
  cases (env.order pod.imagesNamesSet).foldlM (Go.meetStep (inspectImage env psdl)) none with
  | error e => rfl
  | ok s =>
    show _ = Except.ok (requirementOf (s.getD ∅))
    have hlen : (setsList (s.getD ∅)).length = 0 ↔ s.getD ∅ = ∅ := by
      rw [setsList, Finset.length_sort, Finset.card_eq_zero]
    simp only [requirementOf, hlen]
    exact (apply_ite Except.ok _ _ _).symm

theorem mem_imagesNamesSet (pod : Pod) (c : ContainerImage) :
    c ∈ pod.imagesNamesSet ↔ ∃ k ∈ pod.spec.containers ++ pod.spec.initContainers,
      c = ⟨"//" ++ k.image, k.imagePullPolicy == .Always⟩ := by
  simp only [imagesNamesSet, List.mem_dedup, List.mem_map]
  exact exists_congr fun k => and_congr_right fun _ => eq_comm

/-- The references the loop reads are those of the pod's images. -/
theorem mem_map_imageName (pod : Pod) (env : Env) (x : String) :
    x ∈ (env.order pod.imagesNamesSet).map (·.imageName) ↔ ∃ i ∈ pod.images, x = "//" ++ i := by
  simp only [List.mem_map, (env.order_perm _).mem_iff, mem_imagesNamesSet, images]
  constructor
  · rintro ⟨c, ⟨k, hk, rfl⟩, rfl⟩
    exact ⟨k.image, ⟨k, hk, rfl⟩, rfl⟩
  · rintro ⟨i, ⟨k, hk, rfl⟩, rfl⟩
    exact ⟨_, ⟨k, hk, rfl⟩, rfl⟩

theorem imagesNamesSet_ne_nil {pod : Pod} (h : pod.images ≠ []) : pod.imagesNamesSet ≠ [] := by
  obtain ⟨i, hi⟩ := List.exists_mem_of_ne_nil _ h
  obtain ⟨k, hk, -⟩ := List.mem_map.mp hi
  exact List.ne_nil_of_mem ((mem_imagesNamesSet pod _).mpr ⟨k, hk, rfl⟩)

/-- An inspection that does not read `skipCache` makes the loop a loop over the references. -/
theorem foldlM_inspectImage_eq {env : Env} {psdl : List Bytes}
    (hskip : ∀ ref b b', env.inspect ref b psdl = env.inspect ref b' psdl) (l : List ContainerImage) :
    l.foldlM (Go.meetStep (inspectImage env psdl)) none =
      (l.map (·.imageName)).foldlM (Go.meetStep fun ref => env.inspect ref false psdl) none := by
  have hf : inspectImage env psdl = fun c => env.inspect c.imageName false psdl :=
    funext fun c => hskip c.imageName c.skipCache false
  rw [hf, List.foldlM_map]
  rfl

end Pod

open Pod

section Predicate

variable {pod : Pod} {env : Env} {psdl : List Bytes}

/-- The predicate fails exactly when the inspection fails on an image of the set. -/
theorem getArchitecturePredicate_error_iff :
    (∃ e, pod.getArchitecturePredicate env psdl = .error e) ↔
      ∃ c ∈ pod.imagesNamesSet, ∃ e, env.inspect c.imageName c.skipCache psdl = .error e := by
  rw [getArchitecturePredicate_eq, Go.exists_map_eq_error, Go.foldlM_meetStep_error_iff]
  simp only [(env.order_perm _).mem_iff, inspectImage]

/-- For a pod with an image on which the inspection succeeds, the predicate asks for the intersection of what it
returned. -/
theorem getArchitecturePredicate_eq_intersection (hne : pod.images ≠ [])
    (hok : ∀ c ∈ pod.imagesNamesSet, ∃ S, env.inspect c.imageName c.skipCache psdl = .ok S) :
    ∃ m : Finset String,
      (∀ a, a ∈ m ↔ ∀ c ∈ pod.imagesNamesSet, ∀ S, env.inspect c.imageName c.skipCache psdl = .ok S → a ∈ S) ∧
        pod.getArchitecturePredicate env psdl = .ok (requirementOf m) := by
  have hperm := env.order_perm pod.imagesNamesSet
  have hall : ∀ c ∈ env.order pod.imagesNamesSet, ∃ S, inspectImage env psdl c = .ok S :=
    fun c hc => hok c (hperm.mem_iff.mp hc)
  obtain ⟨r, hr⟩ := (Go.foldlM_meetStep_ok_iff _ _ none).mpr hall
  rcases Go.foldlM_meetStep_none_eq _ hr with ⟨hl, -⟩ | ⟨-, m, rfl, hm⟩
  · exact absurd ((env.order_eq_nil_iff _).mp hl) (imagesNamesSet_ne_nil hne)
  · refine ⟨m, fun a => ?_, by rw [getArchitecturePredicate_eq, hr]; rfl⟩
    have ha := hm {a}
    simp only [Finset.singleton_subset_iff, hperm.mem_iff, inspectImage] at ha
    exact ha

/-- An inspection that does not read `skipCache` gives the same result on pods that name the same images, whatever
the iteration order, up to which error is returned. -/
theorem toOption_getArchitecturePredicate_congr {pod' : Pod} {env' : Env}
    (hskip : ∀ ref b b', env.inspect ref b psdl = env.inspect ref b' psdl)
    (himg : ∀ x, x ∈ pod.images ↔ x ∈ pod'.images) (hinsp : env'.inspect = env.inspect) :
    (pod.getArchitecturePredicate env psdl).toOption = (pod'.getArchitecturePredicate env' psdl).toOption := by
  have hskip' : ∀ ref b b', env'.inspect ref b psdl = env'.inspect ref b' psdl := by
    rw [hinsp]
    exact hskip
  rw [getArchitecturePredicate_eq, getArchitecturePredicate_eq, Go.toOption_map, Go.toOption_map,
    foldlM_inspectImage_eq hskip, foldlM_inspectImage_eq hskip', hinsp]
  congr 1
  apply Go.foldlM_meetStep_congr_mem
  intro x
  rw [mem_map_imageName, mem_map_imageName]
  exact exists_congr fun i => and_congr_left fun _ => himg i

/-- Removing an image on which the inspection returns the four supported architectures changes nothing when the
other images' intersection lies within them. -/
theorem toOption_getArchitecturePredicate_of_bundle {pod' : Pod} {β : String}
    (hskip : ∀ ref b b', env.inspect ref b psdl = env.inspect ref b' psdl)
    (himg : ∀ x, x ∈ pod.images ↔ x = β ∨ x ∈ pod'.images) (hne : pod'.images ≠ [])
    (hβ : env.inspect ("//" ++ β) false psdl = .ok allSupportedArchitecturesSet)
    (hsub : ∀ a, (∀ x ∈ pod'.images, ∀ S, env.inspect ("//" ++ x) false psdl = .ok S → a ∈ S) →
      a ∈ allSupportedArchitecturesSet) :
    (pod.getArchitecturePredicate env psdl).toOption = (pod'.getArchitecturePredicate env psdl).toOption := by
  rw [getArchitecturePredicate_eq, getArchitecturePredicate_eq, Go.toOption_map, Go.toOption_map,
    foldlM_inspectImage_eq hskip, foldlM_inspectImage_eq hskip]
  congr 1
  have hne' : (env.order pod'.imagesNamesSet).map (·.imageName) ≠ [] := by
    rw [ne_eq, List.map_eq_nil_iff, env.order_eq_nil_iff]
    exact imagesNamesSet_ne_nil hne
  refine Go.foldlM_meetStep_absorb _ ?_ hne' hβ ?_
  · intro x
    rw [mem_map_imageName, mem_map_imageName]
    constructor
    · rintro ⟨i, hi, rfl⟩
      rcases (himg i).mp hi with rfl | hi'
      · exact .inl rfl
      · exact .inr ⟨i, hi', rfl⟩
    · rintro (rfl | ⟨i, hi, rfl⟩)
      · exact ⟨β, (himg β).mpr (.inl rfl), rfl⟩
      · exact ⟨i, (himg i).mpr (.inr hi), rfl⟩
  · intro d hd a had
    refine hsub a fun x hx S hS => ?_
    exact hd ("//" ++ x) ((mem_map_imageName pod' env _).mpr ⟨x, hx, rfl⟩) S hS had

end Predicate

/-- The predicate fails exactly when the inspection fails on an image; for a pod with an image it otherwise asks for
the intersection of the architectures; with an inspection that does not read `skipCache` it depends only on the
images the pod names, up to which error is returned; and removing an image the inspection answers with the four
supported architectures changes nothing when the intersection of the other images lies within them. -/
theorem getArchitecturePredicate_characterisation (pod : Pod) (env : Env) (psdl : List Bytes) :
    ((∃ e, pod.getArchitecturePredicate env psdl = .error e) ↔
        ∃ c ∈ pod.imagesNamesSet, ∃ e, env.inspect c.imageName c.skipCache psdl = .error e) ∧
      (pod.images ≠ [] → (∀ c ∈ pod.imagesNamesSet, ∃ S, env.inspect c.imageName c.skipCache psdl = .ok S) →
        ∃ m : Finset String,
          (∀ a, a ∈ m ↔ ∀ c ∈ pod.imagesNamesSet, ∀ S, env.inspect c.imageName c.skipCache psdl = .ok S → a ∈ S) ∧
            pod.getArchitecturePredicate env psdl = .ok (requirementOf m)) ∧
      ((∀ ref b b', env.inspect ref b psdl = env.inspect ref b' psdl) →
        (∀ (pod' : Pod) (env' : Env), (∀ x, x ∈ pod.images ↔ x ∈ pod'.images) → env'.inspect = env.inspect →
          (pod.getArchitecturePredicate env psdl).toOption = (pod'.getArchitecturePredicate env' psdl).toOption) ∧
        ∀ (pod' : Pod) (β : String), (∀ x, x ∈ pod.images ↔ x = β ∨ x ∈ pod'.images) → pod'.images ≠ [] →
          env.inspect ("//" ++ β) false psdl = .ok allSupportedArchitecturesSet →
          (∀ a, (∀ x ∈ pod'.images, ∀ S, env.inspect ("//" ++ x) false psdl = .ok S → a ∈ S) →
            a ∈ allSupportedArchitecturesSet) →
          (pod.getArchitecturePredicate env psdl).toOption = (pod'.getArchitecturePredicate env psdl).toOption) := by
  refine ⟨getArchitecturePredicate_error_iff, getArchitecturePredicate_eq_intersection, fun hskip => ⟨?_, ?_⟩⟩
  · intro pod' env' himg hinsp
    exact toOption_getArchitecturePredicate_congr hskip himg hinsp
  · intro pod' β himg hne hβ hsub
    exact toOption_getArchitecturePredicate_of_bundle hskip himg hne hβ hsub

/-! ## A bundle image next to a `riscv64` image -/

/-- A registry of single-manifest images: an operator bundle, an `amd64` image, and `riscv64` images. -/
def bundleRegistry : Image.Registry where
  rawManifest _ _ := .ok []
  isMultiImage _ := false
  ociIndex _ := .error "not an index"
  isRunningImageAllowed _ _ _ := .ok ()
  ociConfig ref _ _ :=
    if ref = "//bundle" then .ok ⟨"amd64", (∅ : StrMap).insert Image.operatorSDKBuilderBundleAnnotation "v1"⟩
    else if ref = "//amd" then .ok ⟨"amd64", ∅⟩
    else .ok ⟨"riscv64", ∅⟩

theorem bundleRegistry_no_panic (ref : String) (skip : Bool) (secrets : List Bytes) :
    ∃ r, (⟨[]⟩ : Image.RegistryInspector).getCompatibleArchitecturesSet bundleRegistry ref skip secrets = .ok r :=
  ⟨_, rfl⟩

/-- The registry inspector over `bundleRegistry`. -/
def bundleEnv : Env :=
  ⟨"openshift-multiarch-tuning-operator", (⟨[]⟩ : Image.RegistryInspector).inspector bundleRegistry
    bundleRegistry_no_panic, id, List.Perm.refl, fun _ _ => none⟩

/-- A gated pod in `default` whose containers run `images`. -/
def podOf (images : List String) : Pod :=
  ⟨{ (default : ObjectMeta) with name := "p", «namespace» := "default" },
    ⟨"", ∅, none, [⟨schedulingGateName⟩], images.map fun i => ⟨i, i, .IfNotPresent⟩, [], []⟩⟩

theorem bundleEnv_order : bundleEnv.order = id := rfl

theorem bundleEnv_inspect (ref : String) (b : Bool) (psdl : List Bytes) :
    bundleEnv.inspect ref b psdl =
      (⟨[]⟩ : Image.RegistryInspector).inspector bundleRegistry bundleRegistry_no_panic ref b psdl := rfl

theorem bundleEnv_inspect_skip (ref : String) (b b' : Bool) (psdl : List Bytes) :
    bundleEnv.inspect ref b psdl = bundleEnv.inspect ref b' psdl := by
  rw [bundleEnv_inspect, bundleEnv_inspect]
  exact Image.RegistryInspector.inspector_skip _ _ _ ref b b' psdl

theorem bundleEnv_inspect_bundle (b : Bool) :
    bundleEnv.inspect "//bundle" b [] = .ok allSupportedArchitecturesSet := by
  rw [bundleEnv_inspect]
  apply Image.RegistryInspector.inspector_eq
  exact Image.getCompatibleArchitecturesSet_of_bundle rfl rfl rfl rfl (by simp [AList.lookup, AList.singleton_entries])

theorem bundleEnv_inspect_riscv (b : Bool) : bundleEnv.inspect "//riscv" b [] = .ok {"riscv64"} := by
  rw [bundleEnv_inspect]
  apply Image.RegistryInspector.inspector_eq
  simp [Image.RegistryInspector.getCompatibleArchitecturesSet, bundleRegistry, Image.configArchitectures]

theorem bundleEnv_inspect_amd (b : Bool) : bundleEnv.inspect "//amd" b [] = .ok {"amd64"} := by
  rw [bundleEnv_inspect]
  apply Image.RegistryInspector.inspector_eq
  simp [Image.RegistryInspector.getCompatibleArchitecturesSet, bundleRegistry, Image.configArchitectures]

/-- An inspection that fails on every image with an error naming it, the image set visited in `order`. -/
def namingEnv (order : List ContainerImage → List ContainerImage) (order_perm : ∀ l, (order l).Perm l) : Env :=
  ⟨"openshift-multiarch-tuning-operator", fun ref _ _ => .error ref, order, order_perm, fun _ _ => none⟩

/-- Next to an image built for `riscv64` only, the registry inspector's answer for a bundle image empties the
intersection: the pod gets the `no-supported-arch` requirement where without the bundle it gets `riscv64`. And when
two images fail with different errors, the error returned is that of the image `range` visits first, so two orders
give two errors. -/
theorem getArchitecturePredicate_bundle_narrows_and_error_of_order :
    (podOf ["bundle", "riscv"]).getArchitecturePredicate bundleEnv [] = .ok ⟨noSupportedArchLabel, .Exists, none⟩ ∧
      (podOf ["riscv"]).getArchitecturePredicate bundleEnv [] = .ok ⟨archLabel, .In, some ["riscv64"]⟩ ∧
      (podOf ["x", "y"]).getArchitecturePredicate (namingEnv id List.Perm.refl) [] = .error "//x" ∧
      (podOf ["x", "y"]).getArchitecturePredicate (namingEnv List.reverse List.reverse_perm) [] = .error "//y" := by
  have h2 : (podOf ["bundle", "riscv"]).imagesNamesSet = [⟨"//bundle", false⟩, ⟨"//riscv", false⟩] := rfl
  have h1 : (podOf ["riscv"]).imagesNamesSet = [⟨"//riscv", false⟩] := rfl
  have hxy : (podOf ["x", "y"]).imagesNamesSet = [⟨"//x", false⟩, ⟨"//y", false⟩] := rfl
  have hempty : allSupportedArchitecturesSet ∩ {"riscv64"} = ∅ := by decide
  refine ⟨?_, ?_, ?_, ?_⟩
  · simp [getArchitecturePredicate, intersectImagesArchitecture, h2, bundleEnv_order, Go.meetStep, inspectImage,
      bundleEnv_inspect_bundle, bundleEnv_inspect_riscv, hempty, setsList]
  · simp [getArchitecturePredicate, intersectImagesArchitecture, h1, bundleEnv_order, Go.meetStep, inspectImage,
      bundleEnv_inspect_riscv, setsList]
  · simp [getArchitecturePredicate, intersectImagesArchitecture, hxy, namingEnv, Go.meetStep, inspectImage]
  · simp [getArchitecturePredicate, intersectImagesArchitecture, hxy, namingEnv, Go.meetStep, inspectImage]

/-- Next to an `amd64` image the bundle changes nothing. -/
theorem getArchitecturePredicate_characterisation_bundle_amd :
    ((podOf ["bundle", "amd"]).getArchitecturePredicate bundleEnv []).toOption =
      ((podOf ["amd"]).getArchitecturePredicate bundleEnv []).toOption := by
  have himg : ∀ x, x ∈ (podOf ["bundle", "amd"]).images ↔ x = "bundle" ∨ x ∈ (podOf ["amd"]).images := by
    intro x
    simp [podOf, images]
  have hsub : ∀ a, (∀ x ∈ (podOf ["amd"]).images, ∀ S, bundleEnv.inspect ("//" ++ x) false [] = .ok S → a ∈ S) →
      a ∈ allSupportedArchitecturesSet := by
    intro a h
    have ha := h "amd" (by simp [podOf, images]) {"amd64"} (bundleEnv_inspect_amd false)
    rw [Finset.mem_singleton] at ha
    subst ha
    decide
  exact ((getArchitecturePredicate_characterisation (podOf ["bundle", "amd"]) bundleEnv []).2.2
    (fun ref b b' => bundleEnv_inspect_skip ref b b' [])).2 (podOf ["amd"]) "bundle" himg
    (by simp [podOf, images]) (bundleEnv_inspect_bundle false) hsub

end MultiarchTuning
