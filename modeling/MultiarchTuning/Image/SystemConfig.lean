import MultiarchTuning.Protocol.Machine
import MultiarchTuning.Protocol.RWMutex

/-!
# The paths of the system configuration

`systemconfig.go` keeps four paths in package variables that start empty. Each getter fills its variable the first
time it runs: with the getter's environment variable when it is set, and with a default otherwise (`lookupEnvOr`). The
four getters share one `sync.RWMutex` and one body. A check under the read lock returns the value once it is set.
Otherwise the getter gives up the read lock, takes the write lock, checks again, and writes the value only when the
variable is still empty.

Any number of goroutines run the getters at once. The model is the machine of their interleavings: a call starts a
goroutine, and a step of a goroutine is its next access to the mutex or to its variable (`Getter.step`). Besides the
mutex and the variables, the state counts how often each variable was written, which the code does not.
-/

namespace MultiarchTuning

namespace Image

open RWMutex

/-- `lookupEnvOr`: the environment variable `key` when it is set, even to the empty string, and `defaultValue`
otherwise. -/
def lookupEnvOr (env : String → Option String) (key defaultValue : String) : String :=
  match env key with
  | some value => value
  | none => defaultValue

/-- The package variables of `systemconfig.go`. -/
inductive SystemVar where
  | dockerCertsDir
  | registriesCertsDir
  | registriesConfPath
  | policyConfPath
  deriving DecidableEq, Repr

/-- What a getter of `systemconfig.go` reads: its variable, its environment variable and its default. -/
structure Getter where
  var : SystemVar
  key : String
  defaultValue : String
  deriving DecidableEq, Repr

/-- `DockerCertsDir`. -/
def dockerCertsDir : Getter := ⟨.dockerCertsDir, "DOCKER_CERTS_DIR", "/etc/docker/certs.d"⟩

/-- `RegistryCertsDir`. -/
def registryCertsDir : Getter := ⟨.registriesCertsDir, "REGISTRIES_CERTS_DIR", "/etc/containers/registries.d"⟩

/-- `RegistriesConfPath`. -/
def registriesConfPath : Getter := ⟨.registriesConfPath, "REGISTRIES_CONF_PATH", "/etc/containers/registries.conf"⟩

/-- `PolicyConfPath`. -/
def policyConfPath : Getter := ⟨.policyConfPath, "POLICY_CONF_PATH", "/etc/containers/policy.json"⟩

/-- The getter of each variable. -/
def SystemVar.getter : SystemVar → Getter
  | .dockerCertsDir => MultiarchTuning.Image.dockerCertsDir
  | .registriesCertsDir => registryCertsDir
  | .registriesConfPath => MultiarchTuning.Image.registriesConfPath
  | .policyConfPath => MultiarchTuning.Image.policyConfPath

@[simp] theorem SystemVar.var_getter (v : SystemVar) : v.getter.var = v := by
  cases v <;> rfl

/-- The value the getter of `v` writes. -/
def SystemVar.value (env : String → Option String) (v : SystemVar) : String :=
  lookupEnvOr env v.getter.key v.getter.defaultValue

/-- Where a goroutine is in a getter: each constructor names the next access it makes, to the mutex or to the
variable. -/
inductive Pc where
  /-- `rwMutex.RLock()`. -/
  | start
  /-- `if v != ""` under the read lock. -/
  | check
  /-- `return v` under the read lock. -/
  | fastReturn
  /-- The deferred `rwMutex.RUnlock()` after `return r`. -/
  | fastUnlock (r : String)
  /-- `rwMutex.RUnlock()` after the variable was found empty. -/
  | slowUnlock
  /-- `rwMutex.Lock()`: the writer announces itself. -/
  | lock
  /-- `rwMutex.Lock()`: the writer waits for the readers to leave. -/
  | lockWait
  /-- `if v == ""` under the lock. -/
  | recheck
  /-- `v = lookupEnvOr(key, defaultValue)`. -/
  | write
  /-- `return v` under the lock. -/
  | ret
  /-- The deferred `rwMutex.Unlock()` after `return r`. -/
  | unlock (r : String)
  /-- The getter has returned `r`. -/
  | done (r : String)
  deriving DecidableEq, Repr

/-- How a goroutine at `pc` holds the mutex. -/
def Pc.hold : Pc → Hold
  | .check | .fastReturn | .fastUnlock _ | .slowUnlock => .read
  | .lockWait => .pending
  | .recheck | .write | .ret | .unlock _ => .write
  | .start | .lock | .done _ => .nothing

/-- One step of a goroutine in the getter `g` at `pc`, on the mutex `m` and the variables `vars`: the mutex and the
variables after it, and where the goroutine goes; `none` while it waits, and once it has returned. -/
def Getter.step (g : Getter) (env : String → Option String) (m : RWMutex) (vars : SystemVar → String) :
    Pc → Option (RWMutex × (SystemVar → String) × Pc)
  | .start => (rLock m).map fun m => (m, vars, .check)
  | .check => some (m, vars, if vars g.var ≠ "" then .fastReturn else .slowUnlock)
  | .fastReturn => some (m, vars, .fastUnlock (vars g.var))
  | .fastUnlock r => (rUnlock m).map fun m => (m, vars, .done r)
  | .slowUnlock => (rUnlock m).map fun m => (m, vars, .lock)
  | .lock => (announce m).map fun m => (m, vars, .lockWait)
  | .lockWait => (acquire m).map fun m => (m, vars, .recheck)
  | .recheck => some (m, vars, if vars g.var = "" then .write else .ret)
  | .write => some (m, Function.update vars g.var (lookupEnvOr env g.key g.defaultValue), .ret)
  | .ret => some (m, vars, .unlock (vars g.var))
  | .unlock r => (RWMutex.unlock m).map fun m => (m, vars, .done r)
  | .done _ => none

/-- A goroutine in the getter of `var`. -/
structure Goroutine where
  var : SystemVar
  pc : Pc
  deriving DecidableEq, Repr

/-- The package state of `systemconfig.go` and the goroutines in its getters; `writes` counts the writes of each
variable. -/
structure SystemConfig where
  rwMutex : RWMutex
  vars : SystemVar → String
  goroutines : List Goroutine
  writes : SystemVar → Nat

/-- A goroutine calls the getter of a variable, or goroutine `i` takes its next step. -/
inductive SystemEvent where
  | call (v : SystemVar)
  | step (i : Nat)
  deriving DecidableEq, Repr

/-- The zero values of the package variables, before any call. -/
def SystemConfig.init : SystemConfig := ⟨RWMutex.unlocked, fun _ => "", [], fun _ => 0⟩

/-- The step of the system on the environment `env`. -/
def SystemConfig.step (env : String → Option String) (s : SystemConfig) : SystemEvent → Option SystemConfig
  | .call v => some { s with goroutines := s.goroutines ++ [⟨v, .start⟩] }
  | .step i => s.goroutines[i]?.bind fun t =>
    (t.var.getter.step env s.rwMutex s.vars t.pc).map fun r =>
      { rwMutex := r.1, vars := r.2.1, goroutines := s.goroutines.set i { t with pc := r.2.2 },
        writes := if t.pc = .write then Function.update s.writes t.var (s.writes t.var + 1) else s.writes }

/-- The goroutines that run the getters of `systemconfig.go`, interleaved. -/
def systemConfig (env : String → Option String) : Machine SystemConfig SystemEvent where
  init s := s = SystemConfig.init
  step := SystemConfig.step env

/-! ## One step of a goroutine -/

section Step

variable {g : Getter} {env : String → Option String} {m m' : RWMutex} {vars vars' : SystemVar → String}
  {pc pc' : Pc}

/-- A goroutine's step moves its hold by one operation of the mutex at most. -/
theorem Getter.moves_step (h : g.step env m vars pc = some (m', vars', pc')) : Moves pc.hold pc'.hold m m' := by
  cases pc with
  | check | fastReturn | recheck | write | ret =>
    simp only [Getter.step, Option.some.injEq, Prod.mk.injEq] at h
    obtain ⟨rfl, -, rfl⟩ := h
    first
    | exact .stay
    | split <;> exact .stay
  | start | fastUnlock | slowUnlock | lock | lockWait | unlock =>
    simp only [Getter.step, Option.map_eq_some_iff, Prod.mk.injEq] at h
    obtain ⟨m'', hm, rfl, -, rfl⟩ := h
    first
    | exact .rLock hm
    | exact .rUnlock hm
    | exact .announce hm
    | exact .acquire hm
    | exact .unlock hm
  | done => cases h

/-- Only the write changes a variable, and it writes `lookupEnvOr` of the getter. -/
theorem Getter.vars_step (h : g.step env m vars pc = some (m', vars', pc')) :
    vars' = if pc = .write then Function.update vars g.var (lookupEnvOr env g.key g.defaultValue) else vars := by
  cases pc <;> simp only [Getter.step, Option.some.injEq, Option.map_eq_some_iff, Prod.mk.injEq, reduceCtorEq,
    ↓reduceIte] at h ⊢ <;> grind

/-- A goroutine that holds the mutex for reading can always step: its read-unlock finds a reader. -/
theorem Getter.step_isSome_of_read (hpc : pc.hold = .read) (hr : m.readers ≠ 0) :
    (g.step env m vars pc).isSome := by
  cases pc <;> simp_all [Pc.hold, Getter.step, rUnlock]

/-- A goroutine that holds the mutex for writing can always step: its unlock finds the writer. -/
theorem Getter.step_isSome_of_write (hpc : pc.hold = .write) (hw : m.writer = .held) :
    (g.step env m vars pc).isSome := by
  cases pc <;> simp_all [Pc.hold, Getter.step, RWMutex.unlock]

/-- The waiting writer can step once the readers have left. -/
theorem Getter.step_isSome_of_pending (hpc : pc.hold = .pending) (hw : m.writer = .pending) (hr : m.readers = 0) :
    (g.step env m vars pc).isSome := by
  cases pc <;> simp_all [Pc.hold, Getter.step, acquire]

/-- A goroutine that holds nothing and has not returned can step while no writer waits or holds the mutex. -/
theorem Getter.step_isSome_of_nothing (hpc : pc.hold = .nothing) (hnd : ∀ r, pc ≠ .done r)
    (hw : m.writer = .free) : (g.step env m vars pc).isSome := by
  cases pc <;> simp_all [Pc.hold, Getter.step, rLock, announce]

end Step

/-! ## One step of the system -/

section SystemStep

variable {env : String → Option String} {s s' : SystemConfig}

/-- The step of goroutine `i`: the step of its getter, written back. -/
theorem SystemConfig.step_step_eq_some {i : Nat} :
    s.step env (.step i) = some s' ↔ ∃ t m vars pc, s.goroutines[i]? = some t ∧
      t.var.getter.step env s.rwMutex s.vars t.pc = some (m, vars, pc) ∧
      s' = ⟨m, vars, s.goroutines.set i { t with pc := pc },
        if t.pc = .write then Function.update s.writes t.var (s.writes t.var + 1) else s.writes⟩ := by
  simp only [SystemConfig.step, Option.bind_eq_some_iff, Option.map_eq_some_iff]
  constructor
  · rintro ⟨t, ht, ⟨m, vars, pc⟩, hstep, rfl⟩
    exact ⟨t, m, vars, pc, ht, hstep, rfl⟩
  · rintro ⟨t, m, vars, pc, ht, hstep, rfl⟩
    exact ⟨t, ht, (m, vars, pc), hstep, rfl⟩

/-- The holds of the goroutines after goroutine `i` moved. -/
theorem SystemConfig.holds_set (goroutines : List Goroutine) (i : Nat) (t : Goroutine) (pc : Pc) :
    (goroutines.set i { t with pc := pc }).map (·.pc.hold) = (goroutines.map (·.pc.hold)).set i pc.hold := by
  rw [List.map_set]

/-- Goroutine `i` can step exactly when its getter can. -/
theorem SystemConfig.step_step_isSome {i : Nat} {t : Goroutine} (ht : s.goroutines[i]? = some t) :
    (s.step env (.step i)).isSome = (t.var.getter.step env s.rwMutex s.vars t.pc).isSome := by
  simp only [SystemConfig.step, ht, Option.bind_some, Option.isSome_map]

end SystemStep

end Image

end MultiarchTuning
