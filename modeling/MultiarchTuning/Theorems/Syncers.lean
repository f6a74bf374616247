import MultiarchTuning.Informers.Syncers

/-!
# What the syncers store

Along every watch of the `ClusterPodPlacementConfig`, the config that `CPPCSyncer` stores is the config's last state:
the resync updates, which keep the resource version, hand over the object the store already holds. A delete that the
informer missed is the exception: its tombstone leaves the deleted config stored until a config is created again.

The credentials that `GlobalPullSecretSyncer` hands to the inspector are those of the last version of its secret from
which `ExtractAuthFromSecret` reads them, whatever the other secrets of the namespace do; a deletion of the secret
leaves them in place.
-/

namespace MultiarchTuning

namespace Informers

open Informer

/-! ## The stored `ClusterPodPlacementConfig` -/

/-- On the changes between two versions of the config, the syncer goes from storing the old one to storing the new
one. -/
theorem CPPCSyncer.foldl_changes (p n : Option ClusterPodPlacementConfig)
    (hrv : ResourceVersioned (·.metadata.resourceVersion) p n) : (changes p n).foldl CPPCSyncer.handle p = n := by
  cases p with
  | none => cases n <;> rfl
  | some x =>
    cases n with
    | none => rfl
    | some y =>
      show CPPCSyncer.onUpdate x y (some x) = some y
      rw [CPPCSyncer.onUpdate]
      split
      · next heq => rw [hrv x y rfl rfl heq]
      · rfl

/-- The stored config is the config's last state along every watch of it. -/
theorem cppcSyncer_follows_watch (prev : Option ClusterPodPlacementConfig)
    (states : List (Option ClusterPodPlacementConfig))
    (hrv : List.IsChain (ResourceVersioned (·.metadata.resourceVersion)) (prev :: states)) :
    (watch prev states).foldl CPPCSyncer.handle prev = states.getLast?.getD prev :=
  foldl_watch CPPCSyncer.handle id CPPCSyncer.foldl_changes prev states hrv

/-- The config `cluster` at resource version `rv`. -/
def clusterAt (rv : String) : ClusterPodPlacementConfig :=
  { (default : ClusterPodPlacementConfig) with
    metadata := { (default : ObjectMeta) with name := "cluster", resourceVersion := rv } }

/-- The config is created, updated and deleted: the store ends empty. -/
theorem cppcSyncer_follows_watch_created_updated_deleted :
    List.IsChain (ResourceVersioned (·.metadata.resourceVersion))
        [none, some (clusterAt "1"), some (clusterAt "2"), none] ∧
      (watch none [some (clusterAt "1"), some (clusterAt "2"), none]).foldl CPPCSyncer.handle none = none := by
  have hrv : List.IsChain (ResourceVersioned (·.metadata.resourceVersion))
      [none, some (clusterAt "1"), some (clusterAt "2"), none] := by
    refine List.isChain_cons_cons.mpr ⟨resourceVersioned_none_left _ _, List.isChain_cons_cons.mpr ⟨?_,
      List.isChain_pair.mpr (resourceVersioned_none_right _ _)⟩⟩
    rintro x y ⟨⟩ ⟨⟩ h
    exact absurd h (by decide)
  exact ⟨hrv, cppcSyncer_follows_watch none _ hrv⟩

/-- From a stored config that the API server no longer has, the syncer keeps it until a config is added, and from
then on follows the config. -/
theorem CPPCSyncer.foldl_watch_none (x : ClusterPodPlacementConfig) :
    ∀ rest : List (Option ClusterPodPlacementConfig),
      List.IsChain (ResourceVersioned (·.metadata.resourceVersion)) (none :: rest) →
      (watch none rest).foldl CPPCSyncer.handle (some x) =
        if rest.all (·.isNone) then some x else rest.getLast?.getD none := by
  refine foldl_watch_spec CPPCSyncer.handle
    (fun rest => if rest.all (·.isNone) then some x else rest.getLast?.getD none) none ?_
  intro states n _ hP
  by_cases hall : states.all (·.isNone)
  · rw [getLast?_getD_none_of_all_isNone hall, if_pos hall]
    cases n with
    | none => simp [changes, hall]
    | some y => simp [changes, CPPCSyncer.handle, CPPCSyncer.onAdd]
  · rw [if_neg hall, CPPCSyncer.foldl_changes _ n hP]
    simp [hall]

/-- After a delete that the informer missed, the syncer keeps the deleted config while no config exists, and follows
the config again once one is created. -/
theorem cppcSyncer_keeps_config_of_tombstone (prev : Option ClusterPodPlacementConfig)
    (states rest : List (Option ClusterPodPlacementConfig)) (key : String) (x : ClusterPodPlacementConfig)
    (hrv : List.IsChain (ResourceVersioned (·.metadata.resourceVersion)) (prev :: states))
    (hlast : states.getLast?.getD prev = some x)
    (hrest : List.IsChain (ResourceVersioned (·.metadata.resourceVersion)) (none :: rest)) :
    (watch prev states ++ .delete (.unknown key x) :: watch none rest).foldl CPPCSyncer.handle prev =
      if rest.all (·.isNone) then some x else rest.getLast?.getD none := by
  have hstore : (watch prev states).foldl CPPCSyncer.handle prev = some x :=
    (foldl_watch CPPCSyncer.handle id CPPCSyncer.foldl_changes prev states hrv).trans hlast
  rw [List.foldl_append, hstore, List.foldl_cons]
  exact CPPCSyncer.foldl_watch_none x rest hrest

/-- The config is created and its delete is missed: the store keeps it through the hourly resyncs that follow. -/
theorem cppcSyncer_keeps_config_of_tombstone_created :
    List.IsChain (ResourceVersioned (·.metadata.resourceVersion)) [none, some (clusterAt "1")] ∧
      (watch none [some (clusterAt "1")] ++ .delete (.unknown "cluster" (clusterAt "1")) ::
        watch none [none, none]).foldl CPPCSyncer.handle none = some (clusterAt "1") := by
  have hrv : List.IsChain (ResourceVersioned (·.metadata.resourceVersion)) [none, some (clusterAt "1")] := by
    simp
  have hrest : List.IsChain (ResourceVersioned (·.metadata.resourceVersion))
      ([none, none, none] : List (Option ClusterPodPlacementConfig)) := by
    simp [List.isChain_cons_cons]
  exact ⟨hrv, cppcSyncer_keeps_config_of_tombstone none _ [none, none] "cluster" (clusterAt "1") hrv rfl hrest⟩

/-! ## The global pull secret -/

section GlobalPullSecret

variable (unmarshal : List UInt8 → Except String (String → Option (List UInt8))) (name : String)

/-- The credentials of the last of `states` from which `ExtractAuthFromSecret` reads them, and `init` when none
has them. -/
def lastReadablePullSecret (init : List UInt8) (states : List (Option Secret)) : List UInt8 :=
  ((states.filterMap fun st => st.bind fun x => (extractAuthFromSecret unmarshal x).toOption).getLast?).getD init

theorem lastReadablePullSecret_append_singleton (init : List UInt8) (states : List (Option Secret))
    (st : Option Secret) :
    lastReadablePullSecret unmarshal init (states ++ [st]) =
      (st.bind fun x => (extractAuthFromSecret unmarshal x).toOption).getD
        (lastReadablePullSecret unmarshal init states) := by
  unfold lastReadablePullSecret
  cases hst : st.bind fun x => (extractAuthFromSecret unmarshal x).toOption <;>
    simp only [List.filterMap_append, List.filterMap_cons, List.filterMap_nil, hst, List.append_nil,
      Option.getD_none, List.getLast?_append, List.getLast?_singleton, Option.some_or, Option.getD_some]

/-- Reading the last version once more changes nothing. -/
theorem lastReadablePullSecret_of_getLast? (init : List UInt8) {states : List (Option Secret)} {x : Secret}
    (hlast : states.getLast? = some (some x)) :
    ((extractAuthFromSecret unmarshal x).toOption).getD (lastReadablePullSecret unmarshal init states) =
      lastReadablePullSecret unmarshal init states := by
  obtain ⟨states, rfl⟩ := List.getLast?_eq_some_iff.mp hlast
  rw [lastReadablePullSecret_append_singleton, Option.bind_some]
  cases (extractAuthFromSecret unmarshal x).toOption <;> rfl

/-- On the changes between two versions of the followed secret, the inspector's credentials go from the last readable
ones before to the last readable ones after. -/
theorem GlobalPullSecretSyncer.foldl_changes (init : List UInt8) (states : List (Option Secret)) (n : Option Secret)
    (hrv : ResourceVersioned (·.metadata.resourceVersion) (states.getLast?.getD none) n)
    (hname : ∀ y ∈ n, y.metadata.name = name) :
    (changes (states.getLast?.getD none) n).foldl (GlobalPullSecretSyncer.handle unmarshal name)
        (lastReadablePullSecret unmarshal init states) =
      lastReadablePullSecret unmarshal init (states ++ [n]) := by
  rw [lastReadablePullSecret_append_singleton]
  cases hp : states.getLast?.getD none with
  | none =>
    cases n with
    | none => rfl
    | some y =>
      exact GlobalPullSecretSyncer.onAddOrUpdate_of_name unmarshal name (hname y rfl) _
  | some x =>
    cases n with
    | none => rfl
    | some y =>
      show GlobalPullSecretSyncer.onUpdate unmarshal name x y _ = _
      rw [GlobalPullSecretSyncer.onUpdate, Option.bind_some]
      split
      · next heq =>
        have hxy : x = y := hrv x y hp rfl heq
        rw [← hxy, lastReadablePullSecret_of_getLast? unmarshal init (getLast?_of_getLast?_getD_none hp)]
      · exact GlobalPullSecretSyncer.onAddOrUpdate_of_name unmarshal name (hname y rfl) _

/-- Whatever the other secrets of the namespace do, the inspector's global pull secret is the credentials of the last
version of the followed secret from which `ExtractAuthFromSecret` reads them; a deletion of the secret leaves them
in place. -/
theorem globalPullSecretSyncer_stores_last_readable (init : List UInt8) (evs : List (Notification Secret))
    (states : List (Option Secret)) (hname : ∀ st ∈ states, ∀ x ∈ st, x.metadata.name = name)
    (hrv : List.IsChain (ResourceVersioned (·.metadata.resourceVersion)) (none :: states))
    (hevs : evs.filter (Notification.concerns (·.metadata.name) name) = watch none states) :
    evs.foldl (GlobalPullSecretSyncer.handle unmarshal name) init = lastReadablePullSecret unmarshal init states := by
  have hchain : List.IsChain (fun p n => ResourceVersioned (·.metadata.resourceVersion) p n ∧
      ∀ y ∈ n, y.metadata.name = name) (none :: states) := by
    refine (List.IsChain.iff_mem.mp hrv).imp ?_
    rintro p n ⟨-, hn, hpn⟩
    refine ⟨hpn, fun y hy => ?_⟩
    rw [Option.mem_def] at hy
    subst hy
    exact hname _ (List.mem_of_ne_of_mem (by simp) hn) y rfl
  rw [foldl_filter_of_ignored _ _ (GlobalPullSecretSyncer.handle_of_not_concerns unmarshal name) evs init, hevs]
  exact foldl_watch_spec _ (lastReadablePullSecret unmarshal init) none
    (fun states n _ h => GlobalPullSecretSyncer.foldl_changes unmarshal name init states n h.1 h.2) states hchain

/-- The secret \"pull-secret\" of type \"kubernetes.io/dockercfg\", which holds the credentials [1, 2]. -/
def dockercfgSecret : Secret :=
  ⟨{ (default : ObjectMeta) with name := "pull-secret", resourceVersion := "1" }, "kubernetes.io/dockercfg",
    fun k => if k = ".dockercfg" then some [1, 2] else none⟩

/-- The secret is added, another secret of the namespace is added, and the secret is deleted: the inspector keeps
the secret's credentials. -/
theorem globalPullSecretSyncer_stores_last_readable_deleted :
    [.add dockercfgSecret, .add ⟨{ (default : ObjectMeta) with name := "other" }, "Opaque", fun _ => none⟩,
        .delete (.final dockercfgSecret)].foldl
      (GlobalPullSecretSyncer.handle (fun _ => .error "unexpected end of JSON input") "pull-secret") [] = [1, 2] := by
  have hname : ∀ st ∈ [some dockercfgSecret, none], ∀ x ∈ st, x.metadata.name = "pull-secret" := by
    intro st hst x hx
    simp only [List.mem_cons, List.not_mem_nil, or_false] at hst
    rcases hst with rfl | rfl
    · cases hx
      rfl
    · cases hx
  have hrv : List.IsChain (ResourceVersioned (·.metadata.resourceVersion)) [none, some dockercfgSecret, none] := by
    simp [List.isChain_cons_cons]
  rw [globalPullSecretSyncer_stores_last_readable _ _ [] _ [some dockercfgSecret, none] hname hrv rfl]
  rfl

end GlobalPullSecret

end Informers

end MultiarchTuning
