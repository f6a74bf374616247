import MultiarchTuning.Api.Config

/-!
# The round trips through the served versions

The conversion webhook converts into a freshly allocated object (`default`): `ConvertFrom` for the hub `v1beta1` to
`v1alpha1`, `ConvertTo` back. Both copy the metadata, the log verbosity, the namespace selector and the conditions;
`ConvertFrom` also allocates a nil annotations map, which is the only change of `ObjectMeta.normalize`.

So an object of the hub survives the round trip through `v1alpha1` up to that normalisation, except for its plugins,
which `v1alpha1` has no field for and which `ConvertFrom` stores nowhere: they come back nil (`convertTo_convertFrom`),
so an object with plugins loses them (`convertTo_convertFrom_drops_plugins`).
-/

namespace MultiarchTuning

/-- The metadata with a nil annotations map allocated, as `ConvertFrom` leaves it. -/
def ObjectMeta.normalize (m : ObjectMeta) : ObjectMeta := { m with annotations := some (m.annotations.getD ∅) }

theorem ObjectMeta.normalize_of_some {m : ObjectMeta} {a : StrMap} (h : m.annotations = some a) : m.normalize = m := by
  obtain ⟨_, _, _, _, _, _, an, _, _, _⟩ := m
  simp only at h
  subst h
  rfl

namespace V1alpha1

/-- `ConvertFrom` copies what `v1alpha1` has, with the annotations allocated. -/
theorem convertFrom_eq (dst : ClusterPodPlacementConfig) (src : MultiarchTuning.ClusterPodPlacementConfig) :
    convertFrom dst src =
      { dst with
        metadata := src.metadata.normalize
        spec := { dst.spec with logVerbosity := src.spec.logVerbosity, namespaceSelector := src.spec.namespaceSelector }
        status := { dst.status with conditions := src.status.conditions } } := by
  unfold convertFrom
  cases h : src.metadata.annotations with
  | none => simp [ObjectMeta.normalize, h]
  | some a =>
    simp only [h, ObjectMeta.normalize_of_some h]

/-- An object of the hub survives the round trip through `v1alpha1`, up to its annotations map being allocated,
except for its plugins, which come back nil. -/
theorem convertTo_convertFrom (x : MultiarchTuning.ClusterPodPlacementConfig) :
    convertTo (convertFrom default x) default =
      { x with metadata := x.metadata.normalize, spec := { x.spec with plugins := none } } := by
  rw [convertFrom_eq]
  rfl

end V1alpha1

/-- A hub object whose plugin prefers `arm64` nodes. -/
def pluginConfig : ClusterPodPlacementConfig :=
  ⟨{ (default : ObjectMeta) with name := "cluster", annotations := some ∅ },
    ⟨"Normal", none, some ⟨some ⟨⟨true⟩, [⟨"arm64", 50⟩]⟩⟩⟩, ⟨[]⟩⟩

/-- Read through `v1alpha1` and written back, `pluginConfig` loses its plugins. -/
theorem convertTo_convertFrom_drops_plugins :
    (V1alpha1.convertTo (V1alpha1.convertFrom default pluginConfig) default).spec.plugins = none ∧
      pluginConfig.spec.plugins ≠ none ∧ pluginConfig.metadata.normalize = pluginConfig.metadata := by
  refine ⟨by rw [V1alpha1.convertTo_convertFrom], by decide, rfl⟩

end MultiarchTuning
