import MultiarchTuning.PodPlacement.Webhook
import MultiarchTuning.Lemmas.Runs

/-!
# Where the pod placement paths read through a nil pointer

Three call sites read through the configuration: the plugin guard `nodeAffinityScoringEnabled` of `Handle` and
`processPod`, which checks `cppc` and `cppc.Spec.Plugins` but not `NodeAffinityScoring`, and `shouldIgnorePod`, which
checks nothing and reads `cppc.Spec` on a pod whose architecture the user constrained. Everything after them reads
only pointers it checked or allocated (`requiredStep_ok`, `Pod.gate_of_isSome`).

So with a configuration whose plugins, when set, have the `NodeAffinityScoring` plugin, neither `Handle` nor
`processPod` panics, whatever set or error the image inspection returns (`handle_ok`, `processPod_ok`); the inspection
is a function of the environment here, so a panic inside the inspector
(`Image.getCompatibleArchitecturesSet_of_empty_index`) is not one of this model. With `plugins: {}`, which the validating webhook and the schema
both accept, `Handle` panics on every pod and `processPod` on every pod it does not ignore at once
(`handle_of_nil_nodeAffinityScoring`, `processPod_of_nil_nodeAffinityScoring`); and with no configuration at all,
`shouldIgnorePod` panics on every pod that is not exempt and whose architecture is constrained
(`shouldIgnorePod_none_of_configured`), which `Handle` then does too.
-/

namespace MultiarchTuning

open Utils

/-- The plugins of the configuration, when set, have the `NodeAffinityScoring` plugin. -/
def PluginPresent (c : ClusterPodPlacementConfig) : Prop :=
  ∀ p, c.spec.plugins = some p → p.nodeAffinityScoring.isSome

/-! ## The plugin guard and `shouldIgnorePod` -/

theorem nodeAffinityScoringEnabled_ok {c : ClusterPodPlacementConfig} (h : PluginPresent c) :
    ∃ b, nodeAffinityScoringEnabled (some c) = .ok b := by
  cases hp : c.spec.plugins with
  | none => exact ⟨false, by simp [nodeAffinityScoringEnabled, hp]⟩
  | some p =>
    obtain ⟨nas, hn⟩ := Option.isSome_iff_exists.mp (h p hp)
    exact ⟨nas.toBasePlugin.isEnabled, by simp [nodeAffinityScoringEnabled, hp, hn]⟩

theorem nodeAffinityScoringEnabled_of_nil {c : ClusterPodPlacementConfig} (h : c.spec.plugins = some ⟨none⟩) :
    nodeAffinityScoringEnabled (some c) = .error .nilDereference := by
  simp [nodeAffinityScoringEnabled, h]

namespace Pod

theorem shouldIgnorePod_ok {c : ClusterPodPlacementConfig} (h : PluginPresent c) (pod : Pod) (ns : String) :
    ∃ r, pod.shouldIgnorePod ns (some c) = .ok r := by
  unfold shouldIgnorePod
  split
  · exact ⟨_, rfl⟩
  · generalize pod.isNodeSelectorConfiguredForArchitecture = r
    obtain ⟨configured, q⟩ := r
    cases configured with
    | false => exact ⟨_, rfl⟩
    | true =>
      cases hp : c.spec.plugins with
      | none => exact ⟨(true, q), by simp [hp]⟩
      | some p =>
        obtain ⟨nas, hn⟩ := Option.isSome_iff_exists.mp (h p hp)
        by_cases hen : nas.toBasePlugin.isEnabled = true
        · exact ⟨(q.isPreferredAffinityConfiguredForArchitecture, q), by simp [hp, hn, hen]⟩
        · exact ⟨(true, q), by simp [hp, hn, hen]⟩

/-- Without a configuration, `shouldIgnorePod` reads `cppc.Spec` of a pod whose architecture is constrained. -/
theorem shouldIgnorePod_none_of_configured {pod : Pod} {ns : String} (hx : pod.isExempt ns = false)
    (hc : pod.isNodeSelectorConfiguredForArchitecture.1 = true) :
    pod.shouldIgnorePod ns none = .error .nilDereference := by
  unfold shouldIgnorePod
  rw [if_neg (by simp [hx])]
  rcases hq : pod.isNodeSelectorConfiguredForArchitecture with ⟨b, q⟩
  rw [hq] at hc
  simp only at hc
  subst hc
  rfl

/-- The labels `Handle` writes first change nothing `shouldIgnorePod` reads. -/
theorem gatedUpdate_handleLabels (pod : Pod) (enabled : Bool) : pod.GatedUpdate (pod.handleLabels enabled) := by
  have ha : (pod.handleLabels enabled).metadata.annotations = pod.metadata.annotations := by
    rw [handleLabels_metadata]
  refine GatedUpdate.of_spec_eq ?_ (handleLabels_spec pod enabled)
  rw [ha]
  exact handleLabels_metadata pod enabled

end Pod

/-! ## The required step -/

/-- `SetNodeAffinityArchRequirement` reads only the pointers it allocated. -/
theorem setNodeAffinityArchRequirement_ok (p : Pod) (env : Env) (psdl : List Bytes) :
    ∃ r, p.setNodeAffinityArchRequirement env psdl = .ok r := by
  cases hc : p.isNodeSelectorConfiguredForArchitecture.1 with
  | true => exact ⟨_, Pod.setNodeAffinityArchRequirement_of_configured hc⟩
  | false =>
    cases hr : p.getArchitecturePredicate env psdl with
    | error e => exact ⟨_, Pod.setNodeAffinityArchRequirement_of_error hc hr⟩
    | ok r => exact ⟨_, Pod.setNodeAffinityArchRequirement_of_ok hc hr⟩

theorem requiredStep_ok (env : Env) (p : Pod) : ∃ r, requiredStep env p = .ok r := by
  obtain ⟨r, hr⟩ := setNodeAffinityArchRequirement_ok p env
    (p.getPodImagePullSecrets.filterMap (env.secretData p.metadata.«namespace»))
  exact ⟨_, by rw [requiredStep_eq, hr]; rfl⟩

/-! ## `Handle` and `processPod` -/

section Paths

variable {c : ClusterPodPlacementConfig} {ns : String} {env : Env} {pod : Pod}

/-- With the plugin present when plugins are set, `Handle` does not panic. -/
theorem handle_ok (h : PluginPresent c) : ∃ q, handle ns (some c) pod = .ok q := by
  obtain ⟨enabled, he⟩ := nodeAffinityScoringEnabled_ok h
  obtain ⟨⟨ignore, q⟩, hi⟩ := Pod.shouldIgnorePod_ok h (pod.handleLabels enabled) ns
  exact ⟨_, handle_eq he hi⟩

/-- With the plugin present when plugins are set, `processPod` does not panic, whatever the inspection returns. -/
theorem processPod_ok (h : PluginPresent c) : ∃ q, processPod env (some c) pod = .ok q := by
  obtain ⟨⟨ignore, q⟩, hi⟩ := Pod.shouldIgnorePod_ok h pod env.operatorNamespace
  cases ignore with
  | true => exact ⟨_, processPod_of_ignore hi⟩
  | false =>
    obtain ⟨b, hb⟩ := nodeAffinityScoringEnabled_ok h
    obtain ⟨p, hp⟩ := preferredStep_ok hb q
    obtain ⟨r, hr⟩ := requiredStep_ok env p
    exact ⟨_, by rw [processPod_of_not_ignore hi hb hp, hr]; rfl⟩

/-- A configuration without plugins: `processPod` places `unschedulablePod` without panicking. -/
theorem processPod_ok_unschedulablePod :
    PluginPresent ⟨{ (default : ObjectMeta) with name := "cluster" }, ⟨"Normal", none, none⟩, ⟨[]⟩⟩ ∧
      ∃ q, processPod amd64Env (some ⟨{ (default : ObjectMeta) with name := "cluster" }, ⟨"Normal", none, none⟩, ⟨[]⟩⟩)
        unschedulablePod = .ok q := by
  refine ⟨?_, processPod_ok ?_⟩ <;> intro _ hp <;> cases hp

/-- With `plugins: {}`, `Handle` panics on every pod, in the plugin guard. -/
theorem handle_of_nil_nodeAffinityScoring (h : c.spec.plugins = some ⟨none⟩) :
    handle ns (some c) pod = .error .nilDereference := by
  simp [handle, nodeAffinityScoringEnabled_of_nil h]

/-- With `plugins: {}`, `processPod` panics on every pod it does not ignore at once, in the plugin guard. -/
theorem processPod_of_nil_nodeAffinityScoring (h : c.spec.plugins = some ⟨none⟩)
    (hx : pod.isExempt env.operatorNamespace = false) (hc : pod.isNodeSelectorConfiguredForArchitecture.1 = false) :
    processPod env (some c) pod = .error .nilDereference := by
  simp [processPod, Pod.shouldIgnorePod_of_not_configured (some c) hx hc, nodeAffinityScoringEnabled_of_nil h]

/-- Without a configuration, `Handle` panics on every pod that is not exempt and whose architecture is constrained. -/
theorem handle_none_of_configured (hx : pod.isExempt ns = false)
    (hc : pod.isNodeSelectorConfiguredForArchitecture.1 = true) : handle ns none pod = .error .nilDereference := by
  have hup := Pod.gatedUpdate_handleLabels pod false
  have hx' : (pod.handleLabels false).isExempt ns = false := by
    rw [Pod.isExempt_of_gatedUpdate hup]
    exact hx
  have hc' : (pod.handleLabels false).isNodeSelectorConfiguredForArchitecture.1 = true := by
    rw [@Pod.isNodeSelectorConfiguredForArchitecture_fst_congr (pod.handleLabels false) pod
      (by rw [Pod.handleLabels_spec]) (Pod.requiredSelector?_congr (by rw [Pod.handleLabels_spec]))]
    exact hc
  have he : nodeAffinityScoringEnabled none = .ok false := rfl
  simp [handle, he, Pod.shouldIgnorePod_none_of_configured hx' hc']

end Paths

/-! ## `plugins: {}` -/

/-- The configuration `spec: {plugins: {}}`. -/
def emptyPluginsConfig : ClusterPodPlacementConfig :=
  ⟨{ (default : ObjectMeta) with name := "cluster" }, ⟨"Normal", none, some ⟨none⟩⟩, ⟨[]⟩⟩

/-- A pod in `default` whose user set `kubernetes.io/arch` in its node selector. -/
def archSelectorPod : Pod :=
  ⟨{ (default : ObjectMeta) with name := "p", «namespace» := "default" },
    ⟨"", (∅ : StrMap).insert archLabel "amd64", none, [], [⟨"c", "img", .IfNotPresent⟩], [], []⟩⟩

/-- `plugins: {}` passes the validating webhook and the schema, and then `Handle` and `processPod` panic on a pod the
operator should place; without a configuration, `Handle` panics on a pod whose node selector sets the architecture. -/
theorem nilDereference_emptyPluginsConfig :
    ClusterPodPlacementConfigValidator.validate emptyPluginsConfig = .ok () ∧ emptyPluginsConfig.SchemaValid ∧
      handle "openshift-multiarch-tuning-operator" (some emptyPluginsConfig) unschedulablePod =
        .error .nilDereference ∧
      processPod amd64Env (some emptyPluginsConfig) unschedulablePod = .error .nilDereference ∧
      handle "openshift-multiarch-tuning-operator" none archSelectorPod = .error .nilDereference := by
  refine ⟨rfl, by decide, handle_of_nil_nodeAffinityScoring rfl, processPod_of_nil_nodeAffinityScoring rfl rfl rfl, ?_⟩
  exact handle_none_of_configured rfl (by decide)

end MultiarchTuning
