import MultiarchTuning.PodPlacement.Pod
import MultiarchTuning.Api.Config

/-!
# The node affinity the operator reads and patches

The node-affinity half of `pod_model.go`: `isNodeSelectorConfiguredForArchitecture` and
`isPreferredAffinityConfiguredForArchitecture` decide whether the user already constrained `kubernetes.io/arch`;
`setRequiredArchNodeAffinity` adds the operator's requirement to every required term that does not already have an
expression on its key (creating one term when there are none), and `SetPreferredArchNodeAffinity` appends one preferred
term per platform of the `NodeAffinityScoring` plugin.

Every write goes through `modifyNodeAffinity`, which allocates `Affinity` and `NodeAffinity` when nil, as the Go code
does before it writes. The three pointers `setRequiredArchNodeAffinity` reads through are `Go.deref`s: its caller
allocates them, and `setRequiredArchNodeAffinity_allocateRequired` says what it then does.
-/

namespace MultiarchTuning

open Utils

namespace Pod

/-- `corev1.Affinity{}`. -/
def emptyAffinity : Affinity := ⟨none, none, none⟩

/-- `corev1.NodeAffinity{}`. -/
def emptyNodeAffinity : NodeAffinity := ⟨none, []⟩

/-- The node affinity of the pod, nil when the pod has no affinity. -/
def nodeAffinity? (pod : Pod) : Option NodeAffinity := pod.spec.affinity.bind (·.nodeAffinity)

/-- The terms of the pod's required node affinity, `none` when `Affinity`, `NodeAffinity` or the required selector is
nil. -/
def requiredTerms? (pod : Pod) : Option (List NodeSelectorTerm) :=
  pod.nodeAffinity?.bind (fun na => na.requiredDuringSchedulingIgnoredDuringExecution.map (·.nodeSelectorTerms))

/-- The pod's preferred terms, none when `Affinity` or `NodeAffinity` is nil. -/
def preferredTerms (pod : Pod) : List PreferredSchedulingTerm :=
  (pod.nodeAffinity?.map (·.preferredDuringSchedulingIgnoredDuringExecution)).getD []

/-- `pod` with `f` applied to its node affinity, `Affinity` and `NodeAffinity` allocated when nil. -/
def modifyNodeAffinity (pod : Pod) (f : NodeAffinity → NodeAffinity) : Pod :=
  let a := pod.spec.affinity.getD emptyAffinity
  { pod with
    spec := { pod.spec with affinity := some { a with nodeAffinity := some (f (a.nodeAffinity.getD emptyNodeAffinity)) } } }

/-- A term has an expression on `kubernetes.io/arch`. -/
def termHasArch (t : NodeSelectorTerm) : Bool := t.matchExpressions.any (·.key == archLabel)

/-- `pod.isNodeSelectorConfiguredForArchitecture`, with the labels it writes: true when the node selector has the
`kubernetes.io/arch` key (and then the pod is labelled as ignored, `publishIgnorePod`), false when there is no required
node affinity, and otherwise whether every required term has an expression on the key. -/
def isNodeSelectorConfiguredForArchitecture (pod : Pod) : Bool × Pod :=
  if pod.spec.nodeSelector.keys.any (· == archLabel) then (true, pod.publishIgnorePod)
  else
    match pod.requiredTerms? with
    | none => (false, pod)
    | some terms => (terms.all termHasArch, pod)

/-- `pod.isPreferredAffinityConfiguredForArchitecture`: some preferred term has an expression on
`kubernetes.io/arch`. -/
def isPreferredAffinityConfiguredForArchitecture (pod : Pod) : Bool :=
  pod.preferredTerms.any (fun t => termHasArch t.preference)

/-- The body of the term loop of `setRequiredArchNodeAffinity`: add the requirement unless the term already has an
expression on its key, so that a user's expression on that key is never overridden. -/
def patchTerm (r : NodeSelectorRequirement) (t : NodeSelectorTerm) : NodeSelectorTerm :=
  if t.matchExpressions.any (·.key == r.key) then t else { t with matchExpressions := t.matchExpressions ++ [r] }

/-- The required terms after `setRequiredArchNodeAffinity`: one empty term when there were none, then every term
patched. -/
def patchTerms (r : NodeSelectorRequirement) (terms : List NodeSelectorTerm) : List NodeSelectorTerm :=
  (if terms.length = 0 then [⟨[], []⟩] else terms).map (patchTerm r)

/-- `pod.setRequiredArchNodeAffinity`: patch the terms of the required node affinity and label the pod. -/
def setRequiredArchNodeAffinity (pod : Pod) (r : NodeSelectorRequirement) : Except Go.Panic Pod := do
  let a ← Go.deref pod.spec.affinity
  let na ← Go.deref a.nodeAffinity
  let ns ← Go.deref na.requiredDuringSchedulingIgnoredDuringExecution
  let na' := { na with requiredDuringSchedulingIgnoredDuringExecution := some ⟨patchTerms r ns.nodeSelectorTerms⟩ }
  pure (({ pod with spec := { pod.spec with affinity := some { a with nodeAffinity := some na' } } }).ensureLabel
    nodeAffinityLabel nodeAffinityLabelValueSet)

/-- The allocations `SetNodeAffinityArchRequirement` makes before it patches: `Affinity`, `NodeAffinity` and the
required `NodeSelector`, each when nil. -/
def allocateRequired (pod : Pod) : Pod :=
  pod.modifyNodeAffinity fun na =>
    { na with
      requiredDuringSchedulingIgnoredDuringExecution := some (na.requiredDuringSchedulingIgnoredDuringExecution.getD ⟨[]⟩) }

/-- The preferred term `SetPreferredArchNodeAffinity` adds for a platform of the plugin. -/
def preferredTermOf (p : NodeAffinityScoringPlatformTerm) : PreferredSchedulingTerm :=
  ⟨p.weight, ⟨[⟨archLabel, .In, some [p.architecture]⟩], []⟩⟩

/-- `pod.SetPreferredArchNodeAffinity`: nothing when a preferred term on `kubernetes.io/arch` is there already (the
user's, or the operator's from an earlier run); otherwise append the plugin's terms and label the pod. The Go code
allocates the affinity before it reads through `cppc`, which only matters on a panic, after which nothing of the pod
is kept. -/
def setPreferredArchNodeAffinity (pod : Pod) (cppc : Option ClusterPodPlacementConfig) : Except Go.Panic Pod :=
  if pod.isPreferredAffinityConfiguredForArchitecture then pure pod
  else do
    let c ← Go.deref cppc
    let plugins ← Go.deref c.spec.plugins
    let nas ← Go.deref plugins.nodeAffinityScoring
    let pod := pod.modifyNodeAffinity fun na =>
      { na with
        preferredDuringSchedulingIgnoredDuringExecution :=
          na.preferredDuringSchedulingIgnoredDuringExecution ++ nas.platforms.map preferredTermOf }
    pure (pod.ensureLabel preferredNodeAffinityLabel nodeAffinityLabelValueSet)

/-! ## Reading back what the writes did -/

@[simp] theorem nodeAffinity?_modifyNodeAffinity (pod : Pod) (f : NodeAffinity → NodeAffinity) :
    (pod.modifyNodeAffinity f).nodeAffinity? = some (f (pod.nodeAffinity?.getD emptyNodeAffinity)) := by
  cases h : pod.spec.affinity with
  | none => simp [modifyNodeAffinity, nodeAffinity?, h, emptyAffinity]
  | some a => simp [modifyNodeAffinity, nodeAffinity?, h]

@[simp] theorem nodeAffinity?_ensureLabel (pod : Pod) (k v : String) :
    (pod.ensureLabel k v).nodeAffinity? = pod.nodeAffinity? := rfl

theorem preferredTerms_eq (pod : Pod) :
    pod.preferredTerms = (pod.nodeAffinity?.map (·.preferredDuringSchedulingIgnoredDuringExecution)).getD [] := rfl

/-- The other fields of `Affinity` survive `modifyNodeAffinity`, an allocated affinity having none. -/
theorem modifyNodeAffinity_podAffinity (pod : Pod) (f : NodeAffinity → NodeAffinity) :
    (pod.modifyNodeAffinity f).spec.affinity.bind (·.podAffinity) = pod.spec.affinity.bind (·.podAffinity) ∧
      (pod.modifyNodeAffinity f).spec.affinity.bind (·.podAntiAffinity) = pod.spec.affinity.bind (·.podAntiAffinity) := by
  cases h : pod.spec.affinity <;> simp [modifyNodeAffinity, h, emptyAffinity]

/-- `isNodeSelectorConfiguredForArchitecture` writes only a label. -/
theorem isNodeSelectorConfiguredForArchitecture_snd (pod : Pod) :
    pod.isNodeSelectorConfiguredForArchitecture.2 =
      if pod.spec.nodeSelector.keys.any (· == archLabel) then pod.publishIgnorePod else pod := by
  unfold isNodeSelectorConfiguredForArchitecture
  split
  · rfl
  · split <;> rfl

/-- What `setRequiredArchNodeAffinity` does once its caller has allocated the pointers it reads through: the required
terms become the patched ones, and the pod is labelled. -/
theorem setRequiredArchNodeAffinity_allocateRequired (pod : Pod) (r : NodeSelectorRequirement) :
    pod.allocateRequired.setRequiredArchNodeAffinity r =
      .ok ((pod.modifyNodeAffinity fun na =>
        { na with
          requiredDuringSchedulingIgnoredDuringExecution :=
            some ⟨patchTerms r (pod.requiredTerms?.getD [])⟩ }).ensureLabel nodeAffinityLabel nodeAffinityLabelValueSet) := by
  cases h : pod.spec.affinity with
  | none =>
    simp [allocateRequired, setRequiredArchNodeAffinity, modifyNodeAffinity, requiredTerms?, nodeAffinity?, h,
      emptyAffinity, emptyNodeAffinity]
  | some a =>
    cases hn : a.nodeAffinity with
    | none =>
      simp [allocateRequired, setRequiredArchNodeAffinity, modifyNodeAffinity, requiredTerms?, nodeAffinity?, h, hn,
        emptyNodeAffinity]
    | some na =>
      cases hr : na.requiredDuringSchedulingIgnoredDuringExecution <;>
        simp [allocateRequired, setRequiredArchNodeAffinity, modifyNodeAffinity, requiredTerms?, nodeAffinity?, h, hn,
          hr]

/-- What `SetPreferredArchNodeAffinity` does when the plugin is there. -/
theorem setPreferredArchNodeAffinity_of_plugin {pod : Pod} {c : ClusterPodPlacementConfig} {p : Plugins}
    {nas : NodeAffinityScoring} (hp : c.spec.plugins = some p) (hn : p.nodeAffinityScoring = some nas) :
    pod.setPreferredArchNodeAffinity (some c) =
      .ok (if pod.isPreferredAffinityConfiguredForArchitecture then pod
        else (pod.modifyNodeAffinity fun na =>
          { na with
            preferredDuringSchedulingIgnoredDuringExecution :=
              na.preferredDuringSchedulingIgnoredDuringExecution ++ nas.platforms.map preferredTermOf }).ensureLabel
          preferredNodeAffinityLabel nodeAffinityLabelValueSet) := by
  unfold setPreferredArchNodeAffinity
  split
  · rfl
  · simp [hp, hn]

/-- What `SetPreferredArchNodeAffinity` can have done: nothing, or append the platforms of the plugin. -/
theorem setPreferredArchNodeAffinity_inv {pod q : Pod} {cppc : Option ClusterPodPlacementConfig}
    (h : pod.setPreferredArchNodeAffinity cppc = .ok q) :
    q = pod ∨ pod.isPreferredAffinityConfiguredForArchitecture = false ∧ ∃ nas : NodeAffinityScoring,
      q = (pod.modifyNodeAffinity fun na =>
        { na with
          preferredDuringSchedulingIgnoredDuringExecution :=
            na.preferredDuringSchedulingIgnoredDuringExecution ++ nas.platforms.map preferredTermOf }).ensureLabel
        preferredNodeAffinityLabel nodeAffinityLabelValueSet := by
  unfold setPreferredArchNodeAffinity at h
  split at h
  · cases h
    exact .inl rfl
  · rename_i hp
    obtain ⟨c, -, h⟩ := Go.bind_eq_ok h
    obtain ⟨plugins, -, h⟩ := Go.bind_eq_ok h
    obtain ⟨nas, -, h⟩ := Go.bind_eq_ok h
    simp only [Go.pure_eq_ok, Except.ok.injEq] at h
    exact .inr ⟨by simpa using hp, nas, h.symm⟩

end Pod

end MultiarchTuning
