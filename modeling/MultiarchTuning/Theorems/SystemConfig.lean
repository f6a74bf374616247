import MultiarchTuning.Image.SystemConfig
import MultiarchTuning.Image.Cache

/-!
# The paths of the system configuration, over every interleaving

The getters of `systemconfig.go`, run by any number of goroutines in any order, keep one invariant
(`SystemConfig.Inv`). The mutex counts the goroutines inside it. Each variable is empty or holds the value of its
getter. What each goroutine has read agrees with the variables. A goroutine about to write finds its variable empty,
so a value is written once. From the invariant:

* `systemConfig_race_free`: while a goroutine holds the lock for writing, no other goroutine holds the lock in any
  way, so no other goroutine reads or writes a variable at that time;
* `systemConfig_returns_lookupEnvOr`: every call returns `lookupEnvOr` of its getter's key and default;
* `systemConfig_writes_once`: a variable whose value is not empty is written once at most;
* `systemConfig_empty_value_slow_path`: a variable whose environment variable is set to the empty string stays empty,
  and every call of its getter takes the write lock;
* `systemConfig_deadlock_free`: while a call has not returned, some goroutine can take a step.
-/

namespace MultiarchTuning

namespace Image

open RWMutex

variable {env : String → Option String}

/-- What a goroutine has read of its variable at the place it has reached: the fast path found it set, and every
value about to be returned is the one its getter writes. -/
def Goroutine.Sound (env : String → Option String) (vars : SystemVar → String) (t : Goroutine) : Prop :=
  match t.pc with
  | .fastReturn => vars t.var ≠ ""
  | .fastUnlock r => r = t.var.value env ∧ r ≠ ""
  | .ret => vars t.var = t.var.value env
  | .unlock r | .done r => r = t.var.value env
  | _ => True

/-- The invariant of the goroutines in the getters. -/
structure SystemConfig.Inv (env : String → Option String) (s : SystemConfig) : Prop where
  agrees : Agrees s.rwMutex (s.goroutines.map (·.pc.hold))
  vars_eq : ∀ v, s.vars v = "" ∨ s.vars v = v.value env
  sound : ∀ (j : Nat) (t : Goroutine), s.goroutines[j]? = some t → t.Sound env s.vars
  write_empty : ∀ (j : Nat) (t : Goroutine), s.goroutines[j]? = some t → t.pc = .write → s.vars t.var = ""
  writes_le : ∀ v, v.value env ≠ "" → s.writes v ≤ 1 ∧ (s.vars v = "" ↔ s.writes v = 0)

/-! ## The step lemmas -/

theorem getElem?_set_eq_some {α : Type} {l : List α} {i j : Nat} {a u : α} (h : (l.set i a)[j]? = some u) :
    (j = i ∧ u = a) ∨ (j ≠ i ∧ l[j]? = some u) := by
  rw [List.getElem?_set] at h
  split at h
  · split at h
    · exact .inl ⟨by omega, (Option.some.inj h).symm⟩
    · cases h
  · exact .inr ⟨by omega, h⟩

theorem holds_getElem? {goroutines : List Goroutine} {i : Nat} {h : Hold}
    (hi : (goroutines.map (·.pc.hold))[i]? = some h) : ∃ u, goroutines[i]? = some u ∧ u.pc.hold = h := by
  rw [List.getElem?_map, Option.map_eq_some_iff] at hi
  exact hi

theorem getElem?_holds {goroutines : List Goroutine} {i : Nat} {t : Goroutine} (ht : goroutines[i]? = some t) :
    (goroutines.map (·.pc.hold))[i]? = some t.pc.hold := by
  rw [List.getElem?_map, ht]
  rfl

/-- The exclusion of the mutex, read on the goroutines: beside one at a write hold, every other holds nothing. -/
theorem nothing_of_write_hold {m : RWMutex} {goroutines : List Goroutine}
    (ha : Agrees m (goroutines.map (·.pc.hold))) {i j : Nat} {t u : Goroutine} (ht : goroutines[i]? = some t)
    (hw : t.pc.hold = .write) (hu : goroutines[j]? = some u) (hji : j ≠ i) : u.pc.hold = .nothing :=
  ha.nothing_of_write (hw ▸ getElem?_holds ht) (getElem?_holds hu) hji

section Step

variable {m m' : RWMutex} {vars vars' : SystemVar → String} {pc' : Pc}

/-- The write a step makes, in terms of the variable of the goroutine. -/
theorem Goroutine.vars_step {t : Goroutine} (h : t.var.getter.step env m vars t.pc = some (m', vars', pc')) :
    vars' = if t.pc = .write then Function.update vars t.var (t.var.value env) else vars := by
  have hv := Getter.vars_step h
  rwa [SystemVar.var_getter] at hv

/-- A goroutine reaches the write from the recheck, which found the variable empty. -/
theorem Goroutine.recheck_of_step_write {t : Goroutine}
    (h : t.var.getter.step env m vars t.pc = some (m', vars', .write)) :
    t.pc = .recheck ∧ vars t.var = "" ∧ vars' = vars := by
  obtain ⟨v, pc⟩ := t
  cases pc <;> simp only [Getter.step, Option.some.injEq, Option.map_eq_some_iff, Prod.mk.injEq, reduceCtorEq,
    and_false, exists_false] at h
  case check =>
    obtain ⟨-, -, h⟩ := h
    split at h <;> cases h
  case recheck =>
    obtain ⟨-, rfl, h⟩ := h
    split at h
    · exact ⟨rfl, by simpa using ‹vars v.getter.var = ""›, rfl⟩
    · cases h

/-- What goroutines have read stays sound while variables only go from empty to their value. -/
theorem Goroutine.Sound.grow {u : Goroutine} (hu : u.Sound env vars)
    (hgrow : ∀ w, vars' w = vars w ∨ vars w = "" ∧ vars' w = w.value env) : u.Sound env vars' := by
  obtain ⟨v, pc⟩ := u
  cases pc with
  | fastReturn =>
    show vars' v ≠ ""
    rcases hgrow v with h | ⟨h, -⟩
    · rw [h]
      exact hu
    · exact absurd h hu
  | ret =>
    show vars' v = v.value env
    rcases hgrow v with h | ⟨-, h⟩
    · rw [h]
      exact hu
    · exact h
  | _ => exact hu

/-- The goroutine that steps stays sound. -/
theorem Goroutine.sound_step {t : Goroutine} (hvars : ∀ v, vars v = "" ∨ vars v = v.value env)
    (ht : t.Sound env vars) (h : t.var.getter.step env m vars t.pc = some (m', vars', pc')) :
    Goroutine.Sound env vars' ⟨t.var, pc'⟩ := by
  obtain ⟨v, pc⟩ := t
  cases pc with
  | start | slowUnlock | lock | lockWait =>
    simp only [Getter.step, Option.map_eq_some_iff, Prod.mk.injEq] at h
    obtain ⟨-, -, -, -, rfl⟩ := h
    trivial
  | fastUnlock r =>
    simp only [Getter.step, Option.map_eq_some_iff, Prod.mk.injEq] at h
    obtain ⟨-, -, -, rfl, rfl⟩ := h
    exact ht.1
  | unlock r =>
    simp only [Getter.step, Option.map_eq_some_iff, Prod.mk.injEq] at h
    obtain ⟨-, -, -, rfl, rfl⟩ := h
    exact ht
  | check =>
    simp only [Getter.step, Option.some.injEq, Prod.mk.injEq, SystemVar.var_getter] at h
    obtain ⟨-, rfl, rfl⟩ := h
    split
    · assumption
    · trivial
  | fastReturn =>
    simp only [Getter.step, Option.some.injEq, Prod.mk.injEq, SystemVar.var_getter] at h
    obtain ⟨-, rfl, rfl⟩ := h
    exact ⟨(hvars v).resolve_left ht, ht⟩
  | recheck =>
    simp only [Getter.step, Option.some.injEq, Prod.mk.injEq, SystemVar.var_getter] at h
    obtain ⟨-, rfl, rfl⟩ := h
    split
    · trivial
    · exact (hvars v).resolve_left ‹_›
  | write =>
    simp only [Getter.step, Option.some.injEq, Prod.mk.injEq, SystemVar.var_getter] at h
    obtain ⟨-, rfl, rfl⟩ := h
    exact Function.update_self v _ vars
  | ret =>
    simp only [Getter.step, Option.some.injEq, Prod.mk.injEq, SystemVar.var_getter] at h
    obtain ⟨-, rfl, rfl⟩ := h
    exact ht
  | done => cases h

end Step

/-! ## The invariant -/

theorem SystemConfig.inv_init : SystemConfig.init.Inv env where
  agrees := agrees_unlocked_nil
  vars_eq _ := .inl rfl
  sound _ _ h := by cases h
  write_empty _ _ h := by cases h
  writes_le _ _ := ⟨Nat.zero_le 1, by simp [SystemConfig.init]⟩

/-- A call starts a goroutine that holds nothing and has read nothing. -/
theorem SystemConfig.Inv.call {s : SystemConfig} (hI : s.Inv env) (v : SystemVar) :
    SystemConfig.Inv env { s with goroutines := s.goroutines ++ [⟨v, .start⟩] } := by
  refine ⟨?_, hI.vars_eq, fun j u hu => ?_, fun j u hu hw => ?_, hI.writes_le⟩
  · rw [List.map_append]
    exact hI.agrees.append_nothing
  · rcases getElem?_append_singleton hu with hu | ⟨-, rfl⟩
    · exact hI.sound j u hu
    · trivial
  · rcases getElem?_append_singleton hu with hu | ⟨-, rfl⟩
    · exact hI.write_empty j u hu hw
    · cases hw

/-- A step of goroutine `i` keeps the invariant. -/
theorem SystemConfig.Inv.step {s : SystemConfig} (hI : s.Inv env) {i : Nat} {t : Goroutine} {m : RWMutex}
    {vars : SystemVar → String} {pc : Pc} (ht : s.goroutines[i]? = some t)
    (hstep : t.var.getter.step env s.rwMutex s.vars t.pc = some (m, vars, pc)) :
    SystemConfig.Inv env ⟨m, vars, s.goroutines.set i { t with pc := pc },
      if t.pc = .write then Function.update s.writes t.var (s.writes t.var + 1) else s.writes⟩ := by
  have hv := Goroutine.vars_step hstep
  have hgrow : ∀ w, vars w = s.vars w ∨ s.vars w = "" ∧ vars w = w.value env := by
    intro w
    by_cases htw : t.pc = .write
    · rw [if_pos htw] at hv
      by_cases hwt : w = t.var
      · subst hwt
        exact .inr ⟨hI.write_empty i t ht htw, by rw [hv, Function.update_self]⟩
      · exact .inl (by rw [hv, Function.update_of_ne hwt])
    · rw [if_neg htw] at hv
      exact .inl (by rw [hv])
  refine ⟨?_, fun w => ?_, fun j u hu => ?_, fun j u hu hw => ?_, fun w hw => ?_⟩ <;> dsimp only
  · rw [SystemConfig.holds_set]
    exact hI.agrees.moves (getElem?_holds ht) (Getter.moves_step hstep)
  · rcases hgrow w with h | ⟨-, h⟩
    · rw [h]
      exact hI.vars_eq w
    · exact .inr h
  · rcases getElem?_set_eq_some hu with ⟨rfl, rfl⟩ | ⟨-, hu⟩
    · exact Goroutine.sound_step hI.vars_eq (hI.sound j t ht) hstep
    · exact (hI.sound j u hu).grow hgrow
  · rcases getElem?_set_eq_some hu with ⟨rfl, rfl⟩ | ⟨hji, hu⟩
    · have hpc : pc = .write := hw
      rw [hpc] at hstep
      obtain ⟨-, hempty, rfl⟩ := Goroutine.recheck_of_step_write hstep
      exact hempty
    · have htw : t.pc ≠ .write := by
        intro htw
        have hnothing := nothing_of_write_hold hI.agrees ht (by rw [htw]; rfl) hu hji
        simp [hw, Pc.hold] at hnothing
      rw [if_neg htw] at hv
      rw [hv]
      exact hI.write_empty j u hu hw
  · obtain ⟨hle, hiff⟩ := hI.writes_le w hw
    by_cases htw : t.pc = .write
    · rw [if_pos htw] at hv ⊢
      by_cases hwt : w = t.var
      · subst hwt
        have hzero := hiff.mp (hI.write_empty i t ht htw)
        rw [hv, Function.update_self, Function.update_self]
        exact ⟨by omega, by simp [hw, hzero]⟩
      · rw [hv, Function.update_of_ne hwt, Function.update_of_ne hwt]
        exact ⟨hle, hiff⟩
    · rw [if_neg htw] at hv ⊢
      rw [hv]
      exact ⟨hle, hiff⟩

theorem SystemConfig.inv_reachable (env : String → Option String) :
    (systemConfig env).Invariant (SystemConfig.Inv env) := by
  refine Machine.invariant_of_inductive (fun s hs => hs ▸ SystemConfig.inv_init) ?_
  intro s e s' _ hI h
  cases e with
  | call v =>
    cases h
    exact hI.call v
  | step i =>
    obtain ⟨t, m, vars, pc, ht, hstep, rfl⟩ := SystemConfig.step_step_eq_some.mp h
    exact hI.step ht hstep

/-! ## What every interleaving keeps -/

/-- No data race: the mutex counts the goroutines in its read sections and has at most one writer, and while a
goroutine holds it for writing, no other goroutine holds it in any way, so none reads or writes a variable then. -/
theorem systemConfig_race_free (env : String → Option String) :
    (systemConfig env).Invariant fun s => Agrees s.rwMutex (s.goroutines.map (·.pc.hold)) ∧
      ∀ (i j : Nat) (t u : Goroutine), s.goroutines[i]? = some t → t.pc.hold = .write →
        s.goroutines[j]? = some u → j ≠ i →
        u.pc.hold = .nothing := by
  intro s hs
  have hI := SystemConfig.inv_reachable env s hs
  exact ⟨hI.agrees, fun i j t u ht hw hu hji => nothing_of_write_hold hI.agrees ht hw hu hji⟩

/-- Every call returns `lookupEnvOr` of its getter's environment variable and default, whoever wrote the variable,
and each variable is empty or holds that value. -/
theorem systemConfig_returns_lookupEnvOr (env : String → Option String) :
    (systemConfig env).Invariant fun s =>
      (∀ v, s.vars v = "" ∨ s.vars v = lookupEnvOr env v.getter.key v.getter.defaultValue) ∧
      ∀ (j : Nat) (t : Goroutine) (r : String), s.goroutines[j]? = some t → t.pc = .done r →
        r = lookupEnvOr env t.var.getter.key t.var.getter.defaultValue := by
  intro s hs
  have hI := SystemConfig.inv_reachable env s hs
  refine ⟨hI.vars_eq, fun j t r ht hdone => ?_⟩
  have hsound := hI.sound j t ht
  obtain ⟨v, pc⟩ := t
  cases hdone
  exact hsound

/-- A variable whose getter writes a value that is not empty is written once at most, over every interleaving of any
number of calls, and it is set exactly when it was written. -/
theorem systemConfig_writes_once (env : String → Option String) (v : SystemVar) (hv : v.value env ≠ "") :
    (systemConfig env).Invariant fun s => s.writes v ≤ 1 ∧ (s.vars v = "" ↔ s.writes v = 0) :=
  fun s hs => (SystemConfig.inv_reachable env s hs).writes_le v hv

theorem systemConfig_writes_once_default :
    SystemVar.dockerCertsDir.value (fun _ => none) ≠ "" ∧
      (systemConfig (fun _ => none)).Invariant fun s =>
        s.writes .dockerCertsDir ≤ 1 ∧ (s.vars .dockerCertsDir = "" ↔ s.writes .dockerCertsDir = 0) :=
  ⟨by decide, systemConfig_writes_once (fun _ => none) .dockerCertsDir (by decide)⟩

/-- A variable whose environment variable is set to the empty string stays empty, and no call of its getter takes
the fast path: every call takes the write lock and looks the variable up again. -/
theorem systemConfig_empty_value_slow_path (env : String → Option String) (v : SystemVar) (hv : v.value env = "") :
    (systemConfig env).Invariant fun s => s.vars v = "" ∧
      ∀ (j : Nat) (t : Goroutine), s.goroutines[j]? = some t → t.var = v →
        t.pc ≠ .fastReturn ∧ ∀ r, t.pc ≠ .fastUnlock r := by
  intro s hs
  have hI := SystemConfig.inv_reachable env s hs
  have hempty : s.vars v = "" := (hI.vars_eq v).elim id fun h => h.trans hv
  refine ⟨hempty, fun j t ht htv => ⟨fun hpc => ?_, fun r hpc => ?_⟩⟩
  · have hsound := hI.sound j t ht
    obtain ⟨w, pc⟩ := t
    cases htv
    cases hpc
    exact hsound hempty
  · have hsound := hI.sound j t ht
    obtain ⟨w, pc⟩ := t
    cases htv
    cases hpc
    exact hsound.2 (hsound.1.trans hv)

theorem systemConfig_empty_value_slow_path_docker :
    SystemVar.dockerCertsDir.value (fun k => if k = "DOCKER_CERTS_DIR" then some "" else none) = "" ∧
      (systemConfig fun k => if k = "DOCKER_CERTS_DIR" then some "" else none).Invariant fun s =>
        s.vars .dockerCertsDir = "" ∧
        ∀ (j : Nat) (t : Goroutine), s.goroutines[j]? = some t → t.var = .dockerCertsDir →
          t.pc ≠ .fastReturn ∧ ∀ r, t.pc ≠ .fastUnlock r :=
  ⟨by decide, systemConfig_empty_value_slow_path _ .dockerCertsDir (by decide)⟩

/-- No deadlock: while a call has not returned, some goroutine can take a step. -/
theorem systemConfig_deadlock_free (env : String → Option String) (s : SystemConfig)
    (hs : (systemConfig env).Reachable s) (j : Nat) (t : Goroutine) (ht : s.goroutines[j]? = some t)
    (hnd : ∀ r, t.pc ≠ .done r) : ∃ i s', (systemConfig env).step s (.step i) = some s' := by
  have ha := (SystemConfig.inv_reachable env s hs).agrees
  suffices hsome : ∃ (i : Nat) (u : Goroutine), s.goroutines[i]? = some u ∧
      (u.var.getter.step env s.rwMutex s.vars u.pc).isSome by
    obtain ⟨i, u, hu, hsome⟩ := hsome
    rw [← SystemConfig.step_step_isSome hu] at hsome
    exact ⟨i, Option.isSome_iff_exists.mp hsome⟩
  cases hw : s.rwMutex.writer with
  | held =>
    obtain ⟨i, hi⟩ := ha.exists_write hw
    obtain ⟨u, hu, hhold⟩ := holds_getElem? hi
    exact ⟨i, u, hu, Getter.step_isSome_of_write hhold hw⟩
  | pending =>
    by_cases hr : s.rwMutex.readers = 0
    · obtain ⟨i, hi⟩ := ha.exists_pending hw
      obtain ⟨u, hu, hhold⟩ := holds_getElem? hi
      exact ⟨i, u, hu, Getter.step_isSome_of_pending hhold hw hr⟩
    · obtain ⟨i, hi⟩ := ha.exists_read hr
      obtain ⟨u, hu, hhold⟩ := holds_getElem? hi
      exact ⟨i, u, hu, Getter.step_isSome_of_read hhold hr⟩
  | free =>
    by_cases hr : s.rwMutex.readers = 0
    · have hnothing := ha.nothing_of_unlocked hw hr (getElem?_holds ht)
      exact ⟨j, t, ht, Getter.step_isSome_of_nothing hnothing hnd hw⟩
    · obtain ⟨i, hi⟩ := ha.exists_read hr
      obtain ⟨u, hu, hhold⟩ := holds_getElem? hi
      exact ⟨i, u, hu, Getter.step_isSome_of_read hhold hr⟩

theorem systemConfig_deadlock_free_call :
    (systemConfig (fun _ => none)).Reachable
        ⟨RWMutex.unlocked, fun _ => "", [⟨.dockerCertsDir, .start⟩], fun _ => 0⟩ ∧
      ∃ i s', (systemConfig (fun _ => none)).step
        ⟨RWMutex.unlocked, fun _ => "", [⟨.dockerCertsDir, .start⟩], fun _ => 0⟩ (.step i) = some s' := by
  have hs : (systemConfig (fun _ => none)).Reachable
      ⟨RWMutex.unlocked, fun _ => "", [⟨.dockerCertsDir, .start⟩], fun _ => 0⟩ :=
    .step (.init rfl) (rfl : (systemConfig (fun _ => none)).step SystemConfig.init (.call .dockerCertsDir) =
      some ⟨RWMutex.unlocked, fun _ => "", [⟨.dockerCertsDir, .start⟩], fun _ => 0⟩)
  exact ⟨hs, systemConfig_deadlock_free _ _ hs 0 _ rfl nofun⟩

end Image

end MultiarchTuning
