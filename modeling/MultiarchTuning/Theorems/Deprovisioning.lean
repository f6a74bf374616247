import MultiarchTuning.Protocol.Cluster

/-!
# What the ordering of `handleDelete` guarantees, and the pod it strands

`handleDelete` deletes the webhook configuration and the webhook's service, requeues until the service is gone, lists
the pods for the gate, and only then drops the finalizers and deletes the controller. Past the check of the service
nothing can gate a pod: the `ClusterPodPlacementConfig` is being deleted and no `reconcile` runs beside `handleDelete`,
so none creates the service again (`World.Inv`, `World.quiet_of_listPods`), and from such a state no event adds a gated
pod (`World.gatedCount_step_le`) until a user creates the `ClusterPodPlacementConfig` again. So along every run that
does not, from the moment the listing finds no gated pod, the gated pods are at most those admitted and in flight at
that moment (`gatedCount_le_of_listPods`), and when none was in flight, none is ever there (`noGatedPod_of_listPods`).

The listing reads only the persisted pods, and the service has no finalizer, so its check passes as soon as it is
deleted, while a creation the webhook already gated is still in flight. The API server persists it after the listing,
the finalizers go and the controller is deleted: the pod keeps the gate until a user deletes it or creates the
`ClusterPodPlacementConfig` again (`handleDelete_strands_gated_pod`, `gatedCount_runFrom_of_orphaned`).
-/

namespace MultiarchTuning

open Utils

/-! ## Counting gated pods -/

section Count

variable {α : Type} {p : α → Bool}

theorem countP_set_le {l : List α} {i : Nat} (h : i < l.length) {a : α} (ha : p a = true → p l[i] = true) :
    (l.set i a).countP p ≤ l.countP p := by
  have hset := (List.set_perm_cons_eraseIdx h a).countP_eq p
  have hl := (List.getElem_cons_eraseIdx_perm h).countP_eq p
  rw [List.countP_cons] at hset hl
  rw [hset, ← hl]
  by_cases hp : p a = true
  · simp [hp, ha hp]
  · simp [hp]

theorem countP_eraseIdx_add {l : List α} {i : Nat} (h : i < l.length) :
    (l.eraseIdx i).countP p + (if p l[i] = true then 1 else 0) = l.countP p := by
  have hl := (List.getElem_cons_eraseIdx_perm h).countP_eq p
  rw [List.countP_cons] at hl
  exact hl

end Count

namespace World

variable {ns : String} {config : ClusterPodPlacementConfig} {s s' : World}

/-! ## The pods each event changes -/

theorem webhookCalled_of_noService (h : s.webhookService = false) (nsLabels : StrMap) :
    s.webhookCalled config nsLabels = false := by
  simp [webhookCalled, h]

theorem admission_of_not_webhookCalled {nsLabels : StrMap} (h : s.webhookCalled config nsLabels = false) (pod : Pod) :
    s.admission ns config nsLabels pod = pod := by
  simp [admission, h]

/-- The pod reconciler only removes the gate. -/
theorem hasSchedulingGate_of_reconciled {env : Env} {p : Pod} (h : (s.reconciled config env p).hasSchedulingGate = true) :
    p.hasSchedulingGate = true := by
  cases hp : p.hasSchedulingGate with
  | true => rfl
  | false =>
    have hr : reconcile env (s.cache config) p = .ok p := by simp [reconcile, hp]
    simp only [reconciled, hr] at h
    rw [hp] at h
    exact h

theorem gatedCount_runPhase (now : String) (p : HandleDeletePhase) : (s.runPhase now p).gatedCount = s.gatedCount := by
  simp only [gatedCount, pods_runPhase, admitted_runPhase]

/-- An admission the webhook does not see adds a pod without the gate. -/
theorem gatedCount_createPod {nsLabels : StrMap} (h : s.webhookCalled config nsLabels = false) {pod : Pod}
    (hg : pod.hasSchedulingGate = false) :
    ({ s with admitted := s.admitted ++ [s.admission ns config nsLabels pod] } : World).gatedCount = s.gatedCount := by
  simp [gatedCount, admission_of_not_webhookCalled h, hg]

/-- Persisting moves a pod from the admitted ones to the persisted ones. -/
theorem gatedCount_persist {i : Nat} (hi : i < s.admitted.length) :
    ({ s with pods := s.pods ++ [s.admitted[i]], admitted := s.admitted.eraseIdx i } : World).gatedCount =
      s.gatedCount := by
  have he : (s.admitted.eraseIdx i).countP Pod.hasSchedulingGate +
      (if s.admitted[i].hasSchedulingGate = true then 1 else 0) = s.admitted.countP Pod.hasSchedulingGate :=
    countP_eraseIdx_add hi
  simp only [gatedCount, List.countP_append, List.countP_singleton] at he ⊢
  omega

theorem gatedCount_reject {i : Nat} :
    ({ s with admitted := s.admitted.eraseIdx i } : World).gatedCount ≤ s.gatedCount := by
  simp only [gatedCount, List.countP_append]
  have : (s.admitted.eraseIdx i).countP Pod.hasSchedulingGate ≤ s.admitted.countP Pod.hasSchedulingGate :=
    (List.eraseIdx_sublist s.admitted i).countP_le
  omega

theorem gatedCount_deletePod {i : Nat} :
    ({ s with pods := s.pods.eraseIdx i } : World).gatedCount ≤ s.gatedCount := by
  simp only [gatedCount, List.countP_append]
  have : (s.pods.eraseIdx i).countP Pod.hasSchedulingGate ≤ s.pods.countP Pod.hasSchedulingGate :=
    (List.eraseIdx_sublist s.pods i).countP_le
  omega

theorem gatedCount_reconcilePod {env : Env} {i : Nat} (hi : i < s.pods.length) :
    ({ s with pods := s.pods.set i (s.reconciled config env s.pods[i]) } : World).gatedCount ≤ s.gatedCount := by
  simp only [gatedCount, List.countP_append]
  have : (s.pods.set i (s.reconciled config env s.pods[i])).countP Pod.hasSchedulingGate ≤
      s.pods.countP Pod.hasSchedulingGate :=
    countP_set_le hi hasSchedulingGate_of_reconciled
  omega

/-! ## Once the deletion is requested and the service is gone -/

/-- The `ClusterPodPlacementConfig` is being deleted or is gone, the webhook's service is gone, and no `reconcile`
runs. -/
structure Quiet (s : World) : Prop where
  deleting : ∀ o ∈ s.clusterPodPlacementConfig, o.metadata.isDeleting = true
  noService : s.webhookService = false
  noOperand : s.operandReconcile = none

/-- `handleDelete` never revives a `ClusterPodPlacementConfig` being deleted. -/
theorem isDeleting_runPhase (h : ∀ o ∈ s.clusterPodPlacementConfig, o.metadata.isDeleting = true) (now : String)
    (p : HandleDeletePhase) : ∀ o ∈ (s.runPhase now p).clusterPodPlacementConfig, o.metadata.isDeleting = true := by
  cases p
  case removeFinalizer =>
    intro o ho'
    obtain ⟨o₀, ho, hr⟩ := Option.bind_eq_some_iff.mp ho'
    rw [Stored.isDeleting_of_removeFinalizer hr]
    exact h o₀ ho
  all_goals exact h

theorem Quiet.runPhase (h : s.Quiet) (now : String) (p : HandleDeletePhase) : (s.runPhase now p).Quiet := by
  refine ⟨isDeleting_runPhase h.deleting now p, ?_, by rw [operandReconcile_runPhase, h.noOperand]⟩
  cases p
  case deleteWebhookService | deleteWebhookServiceAfterError => rfl
  all_goals exact h.noService

theorem Quiet.collect (h : s.Quiet) (now : String) (o : Owned) : (s.collect now o).Quiet := by
  cases o
  case webhookService => exact ⟨h.deleting, rfl, h.noOperand⟩
  all_goals exact ⟨h.deleting, h.noService, h.noOperand⟩

/-- No event but a creation of the `ClusterPodPlacementConfig` brings back an object that is not being deleted, and
so no event starts a `reconcile` that creates the service again. -/
theorem Quiet.step (h : s.Quiet) {e : Event} (he : e.createsClusterPodPlacementConfig = false)
    (hs : s.step ns config e = some s') : s'.Quiet := by
  cases e
  case reconcile now c w =>
    obtain ⟨-, -, o, ho, ⟨hd, -, -⟩ | ⟨-, -, rfl⟩⟩ := step_reconcile hs
    · rw [h.deleting o ho] at hd
      cases hd
    · exact ⟨h.deleting, h.noService, h.noOperand⟩
  case operandStep => cases (step_operandStep_of_noOperand h.noOperand).symm.trans hs
  case handleDeleteStep now =>
    obtain ⟨p, -, rfl⟩ := step_handleDeleteStep hs
    exact h.runPhase now p
  case apiError =>
    obtain ⟨p, -, rfl⟩ := step_apiError_of_noOperand h.noOperand hs
    exact ⟨h.deleting, h.noService, h.noOperand⟩
  case createClusterPodPlacementConfig => cases he
  case deleteClusterPodPlacementConfig now =>
    obtain ⟨o, -, rfl⟩ := step_deleteClusterPodPlacementConfig hs
    exact ⟨fun _ ho' => Stored.isDeleting_of_delete ho', h.noService, h.noOperand⟩
  case collectGarbage o now =>
    obtain ⟨-, rfl⟩ := step_collectGarbage hs
    exact h.collect now o
  all_goals
    obtain ⟨hc, -, hw, -, hr⟩ := step_keepsOperator rfl hs
    refine ⟨?_, hw.trans h.noService, hr.trans h.noOperand⟩
    rw [hc]
    exact h.deleting

/-- From a quiet state no event adds a gated pod: creations are not gated, and the pod reconciler only ungates. -/
theorem gatedCount_step_le (h : s.Quiet) {e : Event} (hs : s.step ns config e = some s') :
    s'.gatedCount ≤ s.gatedCount := by
  cases e with
  | reconcile now c w =>
    obtain ⟨-, -, o, -, ⟨-, -, rfl⟩ | ⟨-, -, rfl⟩⟩ := step_reconcile hs <;> exact le_refl _
  | operandStep =>
    obtain ⟨r, t, -, ht, rfl⟩ := step_operandStep hs
    obtain ⟨hp, ha, -⟩ := runOperandPhase_frame ht
    simp only [gatedCount, hp, ha, le_refl]
  | handleDeleteStep now =>
    obtain ⟨p, -, rfl⟩ := step_handleDeleteStep hs
    exact (gatedCount_runPhase now p).le
  | apiError =>
    rcases step_apiError hs with ⟨p, -, rfl⟩ | ⟨-, r, -, rfl⟩ <;> exact le_refl _
  | createPod nsLabels pod =>
    obtain ⟨hg, rfl⟩ := step_createPod hs
    exact (gatedCount_createPod (webhookCalled_of_noService h.noService nsLabels) hg).le
  | persist i =>
    obtain ⟨hi, rfl⟩ := step_persist hs
    exact (gatedCount_persist hi).le
  | reject i =>
    obtain ⟨-, rfl⟩ := step_reject hs
    exact gatedCount_reject
  | reconcilePod env i =>
    obtain ⟨-, hi, rfl⟩ := step_reconcilePod hs
    exact gatedCount_reconcilePod hi
  | deletePod i =>
    obtain ⟨-, rfl⟩ := step_deletePod hs
    exact gatedCount_deletePod
  | createClusterPodPlacementConfig =>
    obtain ⟨-, rfl⟩ := step_createClusterPodPlacementConfig hs
    exact le_refl _
  | deleteClusterPodPlacementConfig now =>
    obtain ⟨o, -, rfl⟩ := step_deleteClusterPodPlacementConfig hs
    exact le_refl _
  | deleteControllerDeployment now =>
    obtain ⟨d, -, rfl⟩ := step_deleteControllerDeployment hs
    exact le_refl _
  | collectGarbage o now =>
    obtain ⟨-, rfl⟩ := step_collectGarbage hs
    simp only [gatedCount, pods_collect, admitted_collect, le_refl]

end World

/-! ## The invariant of `handleDelete` -/

/-- The phases past the check of the webhook's service. -/
def HandleDeletePhase.afterServiceCheck : HandleDeletePhase → Bool
  | .listPods | .removeControllerFinalizer | .removeFinalizer | .deleteControllerDeployment => true
  | _ => false

namespace World

variable {ns : String} {config : ClusterPodPlacementConfig} {s s' : World}

/-- Until `handleDelete` removes its finalizer, the `ClusterPodPlacementConfig` is there, being deleted and with the
finalizer; past the check of the webhook's service that service is gone; and `handleDelete` and `reconcile` do not
run at once. -/
structure Inv (s : World) : Prop where
  deleting : ∀ p ∈ s.handleDelete, p ≠ .deleteControllerDeployment → ∃ o ∈ s.clusterPodPlacementConfig,
    o.metadata.isDeleting = true ∧ o.metadata.containsFinalizer podPlacementFinalizerName = true
  serviceGone : ∀ p ∈ s.handleDelete, p.afterServiceCheck = true → s.webhookService = false
  exclusive : s.handleDelete = none ∨ s.operandReconcile = none

theorem Inv.of_handleDelete_none (h : s.handleDelete = none) : s.Inv where
  deleting p hp := by rw [h] at hp; cases hp
  serviceGone p hp := by rw [h] at hp; cases hp
  exclusive := .inl h

theorem Inv.noOperand (h : s.Inv) {p : HandleDeletePhase} (hp : s.handleDelete = some p) : s.operandReconcile = none :=
  h.exclusive.resolve_left (by rw [hp]; exact Option.some_ne_none p)

theorem Inv.runPhase (h : s.Inv) {p : HandleDeletePhase} (hp : s.handleDelete = some p) (now : String) :
    (s.runPhase now p).Inv := by
  have hexcl : (s.runPhase now p).handleDelete = none ∨ (s.runPhase now p).operandReconcile = none :=
    .inr (by rw [operandReconcile_runPhase, h.noOperand hp])
  by_cases hlast : p = .deleteControllerDeployment
  · subst hlast
    exact Inv.of_handleDelete_none rfl
  by_cases hrem : p = .removeFinalizer
  · subst hrem
    refine ⟨fun p' hp' hne => ?_, fun _ _ _ => h.serviceGone .removeFinalizer hp rfl, hexcl⟩
    rw [Option.mem_def, show (s.runPhase now .removeFinalizer).handleDelete = some .deleteControllerDeployment from rfl,
      Option.some.injEq] at hp'
    exact absurd hp'.symm hne
  have hcfg : ∃ o ∈ (s.runPhase now p).clusterPodPlacementConfig,
      o.metadata.isDeleting = true ∧ o.metadata.containsFinalizer podPlacementFinalizerName = true := by
    rw [clusterPodPlacementConfig_runPhase hrem]
    exact h.deleting p hp hlast
  refine ⟨fun _ _ _ => hcfg, ?_, hexcl⟩
  cases p
  case deleteMutatingWebhookConfiguration => exact fun p' hp' hq => by cases hp'; cases hq
  case deleteWebhookService => exact fun _ _ _ => rfl
  case deleteWebhookServiceAfterError => exact fun _ hp' _ => by cases hp'
  case getWebhookService =>
    intro p' hp' _
    cases hw : s.webhookService with
    | false => exact hw
    | true =>
      rw [Option.mem_def, handleDelete_runPhase_getWebhookService, hw, if_pos rfl] at hp'
      cases hp'
  case listPods => exact fun _ _ _ => h.serviceGone .listPods hp rfl
  case removeControllerFinalizer => exact fun _ _ _ => h.serviceGone .removeControllerFinalizer hp rfl
  case removeFinalizer => exact absurd rfl hrem
  case deleteControllerDeployment => exact absurd rfl hlast

theorem Inv.step (h : s.Inv) {e : Event} (hs : s.step ns config e = some s') : s'.Inv := by
  cases e
  case reconcile now c w =>
    obtain ⟨hd, hr, o, ho, ⟨-, -, rfl⟩ | ⟨hdel, hfin, rfl⟩⟩ := step_reconcile hs
    · exact Inv.of_handleDelete_none hd
    · exact ⟨fun _ _ _ => ⟨o, ho, hdel, hfin⟩, fun p hp hq => (by cases hp; cases hq), .inr hr⟩
  case operandStep =>
    obtain ⟨r, t, hr, ht, rfl⟩ := step_operandStep hs
    have hd : s.handleDelete = none := h.exclusive.resolve_right (by rw [hr]; exact Option.some_ne_none r)
    exact Inv.of_handleDelete_none ((runOperandPhase_frame ht).2.2.1.trans hd)
  case handleDeleteStep now =>
    obtain ⟨p, hp, rfl⟩ := step_handleDeleteStep hs
    exact h.runPhase hp now
  case apiError =>
    rcases step_apiError hs with ⟨p, hp, rfl⟩ | ⟨hd, r, -, rfl⟩
    · cases ha : p.afterError with
      | none => exact Inv.of_handleDelete_none rfl
      | some q =>
        obtain ⟨rfl, rfl⟩ := HandleDeletePhase.afterError_eq_some ha
        exact ⟨fun _ _ _ => h.deleting _ hp (by decide), fun p' hp' hq => (by cases hp'; cases hq),
          .inr (h.noOperand hp)⟩
    · exact Inv.of_handleDelete_none hd
  case createClusterPodPlacementConfig =>
    obtain ⟨hc, rfl⟩ := step_createClusterPodPlacementConfig hs
    refine ⟨fun p hp hne => ?_, h.serviceGone, h.exclusive⟩
    obtain ⟨o, ho, -⟩ := h.deleting p hp hne
    rw [hc] at ho
    cases ho
  case deleteClusterPodPlacementConfig now =>
    obtain ⟨o, ho, rfl⟩ := step_deleteClusterPodPlacementConfig hs
    refine ⟨fun p hp hne => ?_, h.serviceGone, h.exclusive⟩
    obtain ⟨o₀, ho₀, -, hfin⟩ := h.deleting p hp hne
    rw [ho, Option.mem_some_iff] at ho₀
    subst ho₀
    obtain ⟨o', ho', hdel', hfin'⟩ := Stored.delete_of_containsFinalizer hfin now
    exact ⟨o', ho', hdel', hfin'⟩
  case collectGarbage o now =>
    obtain ⟨hc, rfl⟩ := step_collectGarbage hs
    refine ⟨fun p hp hne => ?_, fun p hp hq => ?_, ?_⟩
    · rw [handleDelete_collect] at hp
      obtain ⟨o', ho', -⟩ := h.deleting p hp hne
      rw [hc] at ho'
      cases ho'
    · rw [handleDelete_collect] at hp
      cases o
      case webhookService => rfl
      all_goals exact h.serviceGone p hp hq
    · rw [handleDelete_collect, operandReconcile_collect]
      exact h.exclusive
  all_goals
    obtain ⟨hc, -, hw, hd, hr⟩ := step_keepsOperator rfl hs
    refine ⟨fun p hp hne => ?_, fun p hp hq => ?_, by rw [hd, hr]; exact h.exclusive⟩
    · rw [hd] at hp
      rw [hc]
      exact h.deleting p hp hne
    · rw [hd] at hp
      exact hw.trans (h.serviceGone p hp hq)

/-- At the listing of the pods, nothing can gate a pod any more. -/
theorem quiet_of_listPods (h : s.Inv) (hp : s.handleDelete = some .listPods) : s.Quiet := by
  obtain ⟨o, ho, hdel, -⟩ := h.deleting .listPods hp (by decide)
  refine ⟨fun o' ho' => ?_, h.serviceGone .listPods hp rfl, h.noOperand hp⟩
  rw [Option.mem_unique ho' ho]
  exact hdel

end World

section Cluster

variable {ns : String} {config : ClusterPodPlacementConfig}

theorem inv_reachable : (cluster ns config).Invariant World.Inv :=
  Machine.invariant_of_inductive (fun _ h0 => World.Inv.of_handleDelete_none h0.2.2.2.2.1)
    (fun _ _ _ _ hi hs => hi.step hs)

/-- Along any run from a quiet state that creates no `ClusterPodPlacementConfig`, the gated pods never grow in number. -/
theorem gatedCount_runFrom_le {s s' : World} (h : s.Quiet) (evs : List Event)
    (hc : ∀ e ∈ evs, e.createsClusterPodPlacementConfig = false)
    (hr : (cluster ns config).runFrom s evs = some s') : s'.gatedCount ≤ s.gatedCount := by
  have hstep : ∀ t e t', e.createsClusterPodPlacementConfig = false → t.Quiet ∧ t.gatedCount ≤ s.gatedCount →
      (cluster ns config).step t e = some t' → t'.Quiet ∧ t'.gatedCount ≤ s.gatedCount :=
    fun _ _ _ he ht hs => ⟨ht.1.step he hs, (World.gatedCount_step_le ht.1 hs).trans ht.2⟩
  exact (Machine.runFrom_preserves hstep evs hc ⟨h, le_refl _⟩ hr).2

/-- From the moment the listing of `handleDelete` finds no gated pod, along every run that creates no
`ClusterPodPlacementConfig`, the gated pods are at most those that were admitted and in flight at that moment. -/
theorem gatedCount_le_of_listPods {s₀ s s' : World} {now : String} {evs : List Event}
    (hr : (cluster ns config).Reachable s₀) (hp : s₀.handleDelete = some .listPods)
    (hc : (cluster ns config).step s₀ (.handleDeleteStep now) = some s)
    (hpass : s.handleDelete = some .removeControllerFinalizer)
    (hcreate : ∀ e ∈ evs, e.createsClusterPodPlacementConfig = false)
    (hrun : (cluster ns config).runFrom s evs = some s') :
    s'.gatedCount ≤ s₀.admitted.countP Pod.hasSchedulingGate := by
  have hc' : s₀.step ns config (.handleDeleteStep now) = some s := hc
  obtain ⟨p, hp', rfl⟩ := World.step_handleDeleteStep hc'
  rw [hp, Option.some.injEq] at hp'
  subst hp'
  have hq := World.quiet_of_listPods (inv_reachable _ hr) hp
  have hpods : s₀.pods.any Pod.hasSchedulingGate = false := by
    cases hg : s₀.pods.any Pod.hasSchedulingGate with
    | false => rfl
    | true =>
      rw [World.handleDelete_runPhase_listPods, hg, if_pos rfl] at hpass
      cases hpass
  have hzero : s₀.pods.countP Pod.hasSchedulingGate = 0 := by
    rw [List.countP_eq_zero]
    simpa using hpods
  calc s'.gatedCount
      ≤ (s₀.runPhase now .listPods).gatedCount :=
        gatedCount_runFrom_le (hq.runPhase now .listPods) evs hcreate hrun
    _ = s₀.gatedCount := World.gatedCount_runPhase now .listPods
    _ = s₀.admitted.countP Pod.hasSchedulingGate := by
      rw [World.gatedCount, List.countP_append, hzero, Nat.zero_add]

/-- So the deprovisioning strands no pod when no gated admission is in flight as `handleDelete` lists the pods, along
every run that creates no `ClusterPodPlacementConfig`. -/
theorem noGatedPod_of_listPods {s₀ s s' : World} {now : String} {evs : List Event}
    (hr : (cluster ns config).Reachable s₀) (hp : s₀.handleDelete = some .listPods)
    (hc : (cluster ns config).step s₀ (.handleDeleteStep now) = some s)
    (hpass : s.handleDelete = some .removeControllerFinalizer)
    (hnone : ∀ p ∈ s₀.admitted, p.hasSchedulingGate = false)
    (hcreate : ∀ e ∈ evs, e.createsClusterPodPlacementConfig = false)
    (hrun : (cluster ns config).runFrom s evs = some s') : s'.NoGatedPod := by
  have hle := gatedCount_le_of_listPods hr hp hc hpass hcreate hrun
  have hzero : s₀.admitted.countP Pod.hasSchedulingGate = 0 := by
    rw [List.countP_eq_zero]
    simpa using hnone
  have hcount : s'.gatedCount = 0 := by omega
  intro p hp'
  rw [World.gatedCount, List.countP_eq_zero] at hcount
  simpa using hcount p hp'

end Cluster

/-! ## After the deprovisioning -/

namespace World

variable {ns : String} {config : ClusterPodPlacementConfig} {s s' : World}

/-- The `ClusterPodPlacementConfig`, the controller's deployment and the webhook's service are gone, and no
`reconcile` runs. -/
structure Orphaned (s : World) : Prop where
  noConfig : s.clusterPodPlacementConfig = none
  noController : s.controllerDeployment = none
  noService : s.webhookService = false
  noOperand : s.operandReconcile = none

theorem clusterPodPlacementConfig_runPhase_of_none (h : s.clusterPodPlacementConfig = none) (now : String)
    (p : HandleDeletePhase) : (s.runPhase now p).clusterPodPlacementConfig = none := by
  cases p <;> simp [runPhase, h]

theorem controllerDeployment_runPhase_of_none (h : s.controllerDeployment = none) (now : String)
    (p : HandleDeletePhase) : (s.runPhase now p).controllerDeployment = none := by
  cases p <;> simp [runPhase, h]

theorem webhookService_runPhase_of_false (h : s.webhookService = false) (now : String) (p : HandleDeletePhase) :
    (s.runPhase now p).webhookService = false := by
  cases p <;> simp [runPhase, h]

theorem Orphaned.runPhase (h : s.Orphaned) (now : String) (p : HandleDeletePhase) : (s.runPhase now p).Orphaned :=
  ⟨clusterPodPlacementConfig_runPhase_of_none h.noConfig now p,
    controllerDeployment_runPhase_of_none h.noController now p, webhookService_runPhase_of_false h.noService now p,
    by rw [operandReconcile_runPhase, h.noOperand]⟩

theorem Orphaned.collect (h : s.Orphaned) (now : String) (o : Owned) : (s.collect now o).Orphaned := by
  cases o
  case mutatingWebhookConfiguration => exact ⟨h.noConfig, h.noController, h.noService, h.noOperand⟩
  case webhookService => exact ⟨h.noConfig, h.noController, rfl, h.noOperand⟩
  case controllerDeployment =>
    refine ⟨h.noConfig, ?_, h.noService, h.noOperand⟩
    show s.controllerDeployment.bind _ = none
    rw [h.noController]
    rfl

/-- Unless a user creates the `ClusterPodPlacementConfig` again, nothing brings the configuration, the controller or
the service back; and no event but a deletion changes the number of gated pods, for the pod reconciler is gone. -/
theorem Orphaned.step (h : s.Orphaned) {e : Event} (he : e.createsClusterPodPlacementConfig = false)
    (hs : s.step ns config e = some s') :
    s'.Orphaned ∧ (e.deletesPod = false → s'.gatedCount = s.gatedCount) := by
  cases e with
  | reconcile now c w =>
    obtain ⟨-, -, o, ho, -⟩ := step_reconcile hs
    rw [h.noConfig] at ho
    cases ho
  | operandStep => cases (step_operandStep_of_noOperand h.noOperand).symm.trans hs
  | handleDeleteStep now =>
    obtain ⟨p, -, rfl⟩ := step_handleDeleteStep hs
    exact ⟨h.runPhase now p, fun _ => gatedCount_runPhase now p⟩
  | apiError =>
    obtain ⟨p, -, rfl⟩ := step_apiError_of_noOperand h.noOperand hs
    exact ⟨⟨h.noConfig, h.noController, h.noService, h.noOperand⟩, fun _ => rfl⟩
  | createPod nsLabels pod =>
    obtain ⟨hg, rfl⟩ := step_createPod hs
    exact ⟨⟨h.noConfig, h.noController, h.noService, h.noOperand⟩,
      fun _ => gatedCount_createPod (webhookCalled_of_noService h.noService nsLabels) hg⟩
  | persist i =>
    obtain ⟨hi, rfl⟩ := step_persist hs
    exact ⟨⟨h.noConfig, h.noController, h.noService, h.noOperand⟩, fun _ => gatedCount_persist hi⟩
  | reject i =>
    obtain ⟨-, rfl⟩ := step_reject hs
    exact ⟨⟨h.noConfig, h.noController, h.noService, h.noOperand⟩, fun hd => by cases hd⟩
  | reconcilePod env i =>
    obtain ⟨hc, -⟩ := step_reconcilePod hs
    rw [h.noController] at hc
    cases hc
  | deletePod i =>
    obtain ⟨-, rfl⟩ := step_deletePod hs
    exact ⟨⟨h.noConfig, h.noController, h.noService, h.noOperand⟩, fun hd => by cases hd⟩
  | createClusterPodPlacementConfig => cases he
  | deleteClusterPodPlacementConfig now =>
    obtain ⟨o, ho, -⟩ := step_deleteClusterPodPlacementConfig hs
    rw [h.noConfig] at ho
    cases ho
  | deleteControllerDeployment now =>
    obtain ⟨d, hd, -⟩ := step_deleteControllerDeployment hs
    rw [h.noController] at hd
    cases hd
  | collectGarbage o now =>
    obtain ⟨-, rfl⟩ := step_collectGarbage hs
    exact ⟨h.collect now o, fun _ => by simp only [gatedCount, pods_collect, admitted_collect]⟩

end World

section Cluster

variable {ns : String} {config : ClusterPodPlacementConfig}

/-- Once the configuration, the controller and the service are gone, a gated pod keeps its gate until a user deletes
it or creates the `ClusterPodPlacementConfig` again: along any other run, the number of gated pods stays as it is. -/
theorem gatedCount_runFrom_of_orphaned {s s' : World} (h : s.Orphaned) (evs : List Event)
    (hd : ∀ e ∈ evs, e.deletesPod = false) (hc : ∀ e ∈ evs, e.createsClusterPodPlacementConfig = false)
    (hr : (cluster ns config).runFrom s evs = some s') : s'.gatedCount = s.gatedCount := by
  have hstep : ∀ t e t', e.deletesPod = false ∧ e.createsClusterPodPlacementConfig = false →
      t.Orphaned ∧ t.gatedCount = s.gatedCount →
      (cluster ns config).step t e = some t' → t'.Orphaned ∧ t'.gatedCount = s.gatedCount := by
    intro t e t' he ht hs
    obtain ⟨ho, hcount⟩ := ht.1.step he.2 hs
    exact ⟨ho, (hcount he.1).trans ht.2⟩
  exact (Machine.runFrom_preserves hstep evs (fun e he => ⟨hd e he, hc e he⟩) ⟨h, rfl⟩ hr).2

end Cluster

/-! ## A pod in flight across the listing -/

/-- The operator's namespace of the deployment manifests. -/
def operatorNamespace : String := "openshift-multiarch-tuning-operator"

/-- A configuration with no namespace selector and no plugins: the webhook sees every namespace. -/
def strandingConfig : ClusterPodPlacementConfig :=
  ⟨{ (default : ObjectMeta) with name := "cluster" }, ⟨"Normal", none, none⟩, ⟨[]⟩⟩

/-- A pod created in `default` with one container, placed by nobody. -/
def strandedPod : Pod :=
  ⟨{ (default : ObjectMeta) with name := "p", «namespace» := "default" },
    ⟨"", ∅, none, [], [⟨"c", "img", .IfNotPresent⟩], [], []⟩⟩

/-- The cluster just after the `ClusterPodPlacementConfig` was created. -/
def createdWorld : World :=
  ⟨some (Stored.created createdConfigMetadata isDeleting_createdConfigMetadata), false, false, none, [], [], none,
    none⟩

/-- A deployment with a replica available. -/
def availableDeployment : Deployment :=
  { (default : Deployment) with status := { (default : DeploymentStatus) with availableReplicas := 1 } }

/-- The first reconcile deploys the webhook's service and the controller and adds the finalizer; the mutating webhook
configuration waits for the deployments to be available, and the next reconcile, which finds them so, applies it. -/
def deployTrace : List Event :=
  (.reconcile "t0" default default :: List.replicate 4 .operandStep) ++
    (.reconcile "t0" availableDeployment availableDeployment :: List.replicate 5 .operandStep)

/-- The operand is deployed and the deletion requested; a creation is gated by the webhook and still in flight when
`handleDelete` runs to its end; then the API server persists it. -/
def strandingTrace : List Event :=
  deployTrace ++ [.deleteClusterPodPlacementConfig "t1", .createPod ∅ strandedPod, .reconcile "t2" default default] ++
    List.replicate 7 (.handleDeleteStep "t2") ++ [.persist 0]

theorem initial_createdWorld : createdWorld.Initial :=
  ⟨by decide, rfl, rfl, rfl, rfl, rfl, rfl, by decide⟩

/-- The deprovisioning can end with a persisted pod that carries the gate, in a cluster where nothing will remove it
until a user deletes the pod or creates the `ClusterPodPlacementConfig` again: the claim that no reachable
deprovisioned state has a gated pod fails. -/
theorem handleDelete_strands_gated_pod :
    ¬(cluster operatorNamespace strandingConfig).Invariant (fun s => s.Deprovisioned → s.NoGatedPod) ∧
      ∃ s, (cluster operatorNamespace strandingConfig).Reachable s ∧ s.Deprovisioned ∧ s.Orphaned ∧
        (∃ p ∈ s.pods, p.hasSchedulingGate = true) ∧
        ∀ evs s', (∀ e ∈ evs, e.deletesPod = false) → (∀ e ∈ evs, e.createsClusterPodPlacementConfig = false) →
          (cluster operatorNamespace strandingConfig).runFrom s evs = some s' →
          ∃ p ∈ s'.pods ++ s'.admitted, p.hasSchedulingGate = true := by
  have hrun : ((cluster operatorNamespace strandingConfig).runFrom createdWorld strandingTrace).any
      (fun s => s.clusterPodPlacementConfig.isNone && s.controllerDeployment.isNone && !s.webhookService &&
        s.operandReconcile.isNone && s.pods.any Pod.hasSchedulingGate) = true := by
    decide
  obtain ⟨s, hs, hcheck⟩ := (Option.any_eq_true _ _).mp hrun
  simp only [Bool.and_eq_true, Bool.not_eq_true', Option.isNone_iff_eq_none, List.any_eq_true] at hcheck
  obtain ⟨⟨⟨⟨hc, hd⟩, hw⟩, hr⟩, p, hp, hg⟩ := hcheck
  have horph : s.Orphaned := ⟨hc, hd, hw, hr⟩
  have hdep : s.Deprovisioned := by
    refine ⟨fun o ho => ?_, fun d hd' => ?_⟩
    · rw [hc] at ho
      cases ho
    · rw [hd] at hd'
      cases hd'
  have hgated : ¬s.NoGatedPod := fun hn => by
    rw [hn p (List.mem_append_left _ hp)] at hg
    cases hg
  refine ⟨Machine.not_invariant_of_runFrom initial_createdWorld hs fun h => hgated (h hdep), s,
    (Machine.Reachable.init initial_createdWorld).runFrom hs, hdep, horph, ⟨p, hp, hg⟩, ?_⟩
  intro evs s' hdel hcreate hr'
  have hpos : 0 < s.gatedCount := List.countP_pos_iff.mpr ⟨p, List.mem_append_left _ hp, hg⟩
  have hpos' : 0 < s'.gatedCount := by
    rw [gatedCount_runFrom_of_orphaned horph evs hdel hcreate hr']
    exact hpos
  exact List.countP_pos_iff.mp hpos'

/-! ## The deprovisioning with no pod in flight -/

/-- The operand is deployed, the deletion requested, and `handleDelete` runs up to its listing of the pods. -/
def listingTrace : List Event :=
  deployTrace ++ [.deleteClusterPodPlacementConfig "t1", .reconcile "t2" default default] ++
    List.replicate 3 (.handleDeleteStep "t2")

/-- With no pod in flight as `handleDelete` lists the pods, the listing passes and no gated pod appears after it. -/
theorem noGatedPod_of_listPods_listingTrace :
    ∃ s₀ s, (cluster operatorNamespace strandingConfig).Reachable s₀ ∧ s₀.handleDelete = some .listPods ∧
      (cluster operatorNamespace strandingConfig).step s₀ (.handleDeleteStep "t2") = some s ∧
      s.handleDelete = some .removeControllerFinalizer ∧ (∀ p ∈ s₀.admitted, p.hasSchedulingGate = false) ∧
      s.NoGatedPod := by
  have hrun : ((cluster operatorNamespace strandingConfig).runFrom createdWorld listingTrace).any (fun s₀ =>
      decide (s₀.handleDelete = some .listPods) && s₀.admitted.isEmpty &&
        ((cluster operatorNamespace strandingConfig).step s₀ (.handleDeleteStep "t2")).any
          fun s => decide (s.handleDelete = some .removeControllerFinalizer)) = true := by
    decide
  obtain ⟨s₀, hs₀, hcheck⟩ := (Option.any_eq_true _ _).mp hrun
  simp only [Bool.and_eq_true, decide_eq_true_eq, List.isEmpty_iff] at hcheck
  obtain ⟨⟨hp, hadm⟩, hstep⟩ := hcheck
  obtain ⟨s, hs, hpass⟩ := (Option.any_eq_true _ _).mp hstep
  simp only [decide_eq_true_eq] at hpass
  have hr := (Machine.Reachable.init initial_createdWorld).runFrom hs₀
  have hnone : ∀ p ∈ s₀.admitted, p.hasSchedulingGate = false := by
    simp [hadm]
  exact ⟨s₀, s, hr, hp, hs, hpass, hnone, noGatedPod_of_listPods hr hp hs hpass hnone (by simp)
    (show (cluster operatorNamespace strandingConfig).runFrom s [] = some s from rfl)⟩

end MultiarchTuning
