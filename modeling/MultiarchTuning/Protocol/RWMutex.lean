import Mathlib.Data.List.Duplicate

/-!
# A readers–writer mutex and the goroutines that hold it

The state of a `sync.RWMutex` as its operations see it: how many readers hold it, and whether a writer waits for them
to leave or holds it. `Lock` takes two steps, as in the Go runtime: a writer first announces itself, which keeps new
readers out, and then takes the mutex once the readers have left. An operation that has to wait is not enabled
(`none`); neither is an unlock of a mutex that is not held, which Go makes a fatal error.

Goroutines hold the mutex in the ways `Hold` names. `Agrees` says that the mutex counts them: its readers are the
goroutines that hold it for reading, and its writer, waiting or holding, is one goroutine. Each step of a goroutine
moves its own hold by at most one operation (`Moves`) and keeps the agreement (`Agrees.moves`). Exclusion follows from
the agreement (`Agrees.nothing_of_write`), and so does which goroutine can take the next step.
-/

/-- What a writer does with a readers–writer mutex. -/
inductive WriterState where
  | free
  /-- A writer waits in `Lock` for the readers to leave; no new reader enters. -/
  | pending
  | held
  deriving DecidableEq, Repr

/-- A readers–writer mutex: its readers, and its writer. -/
structure RWMutex where
  readers : Nat
  writer : WriterState
  deriving DecidableEq, Repr

namespace RWMutex

/-- The zero value of a mutex. -/
def unlocked : RWMutex := ⟨0, .free⟩

/-- `RLock`: waits while a writer waits or holds the mutex. -/
def rLock (m : RWMutex) : Option RWMutex :=
  if m.writer = .free then some { m with readers := m.readers + 1 } else none

/-- `RUnlock`: a fatal error when no reader holds the mutex. -/
def rUnlock (m : RWMutex) : Option RWMutex :=
  if m.readers = 0 then none else some { m with readers := m.readers - 1 }

/-- The first step of `Lock`: a writer announces itself once no other writer waits or holds the mutex. -/
def announce (m : RWMutex) : Option RWMutex :=
  if m.writer = .free then some { m with writer := .pending } else none

/-- The second step of `Lock`: the waiting writer takes the mutex once the readers have left. -/
def acquire (m : RWMutex) : Option RWMutex :=
  if m.writer = .pending ∧ m.readers = 0 then some { m with writer := .held } else none

/-- `Unlock`: a fatal error when no writer holds the mutex. -/
def unlock (m : RWMutex) : Option RWMutex :=
  if m.writer = .held then some { m with writer := .free } else none

variable {m m' : RWMutex}

theorem rLock_eq_some : rLock m = some m' ↔ m.writer = .free ∧ m' = { m with readers := m.readers + 1 } := by
  unfold rLock
  split <;> simp_all [eq_comm]

theorem rUnlock_eq_some : rUnlock m = some m' ↔ m.readers ≠ 0 ∧ m' = { m with readers := m.readers - 1 } := by
  unfold rUnlock
  split <;> simp_all [eq_comm]

theorem announce_eq_some : announce m = some m' ↔ m.writer = .free ∧ m' = { m with writer := .pending } := by
  unfold announce
  split <;> simp_all [eq_comm]

theorem acquire_eq_some :
    acquire m = some m' ↔ m.writer = .pending ∧ m.readers = 0 ∧ m' = { m with writer := .held } := by
  unfold acquire
  split <;> simp_all [eq_comm]

theorem unlock_eq_some : unlock m = some m' ↔ m.writer = .held ∧ m' = { m with writer := .free } := by
  unfold unlock
  split <;> simp_all [eq_comm]

/-- How a goroutine holds the mutex. -/
inductive Hold where
  | nothing
  | read
  /-- Inside `Lock`, announced and waiting for the readers. -/
  | pending
  | write
  deriving DecidableEq, Repr

/-- One step of a goroutine: its hold and the mutex as they were, or one operation of the mutex. -/
inductive Moves : Hold → Hold → RWMutex → RWMutex → Prop
  | stay {h : Hold} {m : RWMutex} : Moves h h m m
  | rLock {m m' : RWMutex} : rLock m = some m' → Moves .nothing .read m m'
  | rUnlock {m m' : RWMutex} : rUnlock m = some m' → Moves .read .nothing m m'
  | announce {m m' : RWMutex} : announce m = some m' → Moves .nothing .pending m m'
  | acquire {m m' : RWMutex} : acquire m = some m' → Moves .pending .write m m'
  | unlock {m m' : RWMutex} : unlock m = some m' → Moves .write .nothing m m'

/-- The mutex counts the goroutines that hold it: its readers are theirs, and its writer is one of them. -/
structure Agrees (m : RWMutex) (hs : List Hold) : Prop where
  readers_eq : m.readers = hs.count .read
  count_pending : hs.count .pending = if m.writer = .pending then 1 else 0
  count_write : hs.count .write = if m.writer = .held then 1 else 0
  readers_of_held : m.writer = .held → m.readers = 0

variable {hs : List Hold} {i j : Nat} {h h' : Hold}

theorem agrees_unlocked_nil : Agrees unlocked [] := ⟨rfl, rfl, rfl, fun _ => rfl⟩

/-- A goroutine that starts holds nothing. -/
theorem Agrees.append_nothing (ha : Agrees m hs) : Agrees m (hs ++ [.nothing]) := by
  obtain ⟨hr, hp, hw, hh⟩ := ha
  exact ⟨by simpa using hr, by simpa using hp, by simpa using hw, hh⟩

/-- The counts after one goroutine changed its hold, without subtraction. -/
theorem count_set_add (hi : hs[i]? = some h) (h' b : Hold) :
    (hs.set i h').count b + (if h = b then 1 else 0) = hs.count b + (if h' = b then 1 else 0) := by
  obtain ⟨hlt, rfl⟩ := List.getElem?_eq_some_iff.mp hi
  rw [List.count_set hlt]
  by_cases hb : hs[i] = b
  · have hpos : 0 < hs.count b := List.count_pos_iff.mpr (hb ▸ List.getElem_mem hlt)
    by_cases hb' : h' = b <;> simp [hb, hb'] <;> omega
  · by_cases hb' : h' = b <;> simp [hb, hb']

/-- Setting a goroutine's hold to the one it has leaves the holds as they are. -/
theorem set_of_getElem? (hi : hs[i]? = some h) : hs.set i h = hs := by
  obtain ⟨hlt, rfl⟩ := List.getElem?_eq_some_iff.mp hi
  exact List.set_getElem_self hlt

/-- Every operation of a goroutine keeps the agreement. -/
theorem Agrees.moves (ha : Agrees m hs) (hi : hs[i]? = some h) (hm : Moves h h' m m') :
    Agrees m' (hs.set i h') := by
  have hr := count_set_add hi h' .read
  have hp := count_set_add hi h' .pending
  have hw := count_set_add hi h' .write
  obtain ⟨hreaders, hpending, hwrite, hheld⟩ := ha
  cases hm with
  | stay =>
    rw [set_of_getElem? hi]
    exact ⟨hreaders, hpending, hwrite, hheld⟩
  | rLock hl =>
    obtain ⟨hfree, rfl⟩ := rLock_eq_some.mp hl
    simp only [reduceCtorEq, ↓reduceIte, hfree] at hr hp hw hpending hwrite
    refine ⟨?_, ?_, ?_, fun h => ?_⟩ <;> simp only [hfree, reduceCtorEq, ↓reduceIte] at * <;> omega
  | rUnlock hl =>
    obtain ⟨hpos, rfl⟩ := rUnlock_eq_some.mp hl
    simp only [reduceCtorEq, ↓reduceIte] at hr hp hw
    refine ⟨?_, ?_, ?_, fun h => by have := hheld h; dsimp only at h ⊢; omega⟩ <;> simp only at * <;> omega
  | announce hl =>
    obtain ⟨hfree, rfl⟩ := announce_eq_some.mp hl
    simp only [reduceCtorEq, ↓reduceIte, hfree] at hr hp hw hpending hwrite
    refine ⟨?_, ?_, ?_, nofun⟩ <;> simp only [reduceCtorEq, ↓reduceIte] <;> omega
  | acquire hl =>
    obtain ⟨hpend, hzero, rfl⟩ := acquire_eq_some.mp hl
    simp only [reduceCtorEq, ↓reduceIte, hpend] at hr hp hw hpending hwrite
    refine ⟨?_, ?_, ?_, fun _ => hzero⟩ <;> simp only [reduceCtorEq, ↓reduceIte] <;> omega
  | unlock hl =>
    obtain ⟨hheld', rfl⟩ := unlock_eq_some.mp hl
    simp only [reduceCtorEq, ↓reduceIte, hheld'] at hr hp hw hpending hwrite
    refine ⟨?_, ?_, ?_, nofun⟩ <;> simp only [reduceCtorEq, ↓reduceIte] <;> omega

/-! ## What the agreement gives -/

theorem count_pos_of_getElem? (hi : hs[i]? = some h) : 0 < hs.count h :=
  List.count_pos_iff.mpr (List.mem_iff_getElem?.mpr ⟨i, hi⟩)

/-- Two goroutines that hold the mutex the same way count twice. -/
theorem two_le_count (hi : hs[i]? = some h) (hj : hs[j]? = some h) (hij : i ≠ j) : 2 ≤ hs.count h := by
  have hne : (if h = .nothing then Hold.read else .nothing) ≠ h := by cases h <;> simp
  have hc := count_set_add hi (if h = .nothing then Hold.read else .nothing) h
  have hj' : (hs.set i (if h = .nothing then Hold.read else .nothing))[j]? = some h := by
    rw [List.getElem?_set_ne hij, hj]
  have hpos := count_pos_of_getElem? hj'
  simp only [if_true, hne, if_false] at hc
  omega

theorem Agrees.readers_pos (ha : Agrees m hs) (hi : hs[i]? = some .read) : m.readers ≠ 0 := by
  have := count_pos_of_getElem? hi
  rw [ha.readers_eq]
  omega

theorem Agrees.writer_of_write (ha : Agrees m hs) (hi : hs[i]? = some .write) : m.writer = .held := by
  have hpos := count_pos_of_getElem? hi
  have hc := ha.count_write
  split at hc
  · assumption
  · omega

theorem Agrees.writer_of_pending (ha : Agrees m hs) (hi : hs[i]? = some .pending) : m.writer = .pending := by
  have hpos := count_pos_of_getElem? hi
  have hc := ha.count_pending
  split at hc
  · assumption
  · omega

/-- While a goroutine holds the mutex for writing, no other goroutine holds it, for reading or writing, or waits to
write. -/
theorem Agrees.nothing_of_write (ha : Agrees m hs) (hi : hs[i]? = some .write) (hj : hs[j]? = some h) (hji : j ≠ i) :
    h = .nothing := by
  have hheld := ha.writer_of_write hi
  cases h with
  | nothing => rfl
  | read => exact absurd (ha.readers_of_held hheld) (ha.readers_pos hj)
  | pending => exact absurd (ha.writer_of_pending hj) (by rw [hheld]; decide)
  | write =>
    have h2 := two_le_count hi hj (Ne.symm hji)
    have hc := ha.count_write
    rw [if_pos hheld] at hc
    omega

/-- A mutex no one holds and no writer waits for is held by no goroutine. -/
theorem Agrees.nothing_of_unlocked (ha : Agrees m hs) (hfree : m.writer = .free) (hzero : m.readers = 0)
    (hi : hs[i]? = some h) : h = .nothing := by
  cases h with
  | nothing => rfl
  | read => exact absurd hzero (ha.readers_pos hi)
  | pending => exact absurd (ha.writer_of_pending hi) (by rw [hfree]; decide)
  | write => exact absurd (ha.writer_of_write hi) (by rw [hfree]; decide)

theorem Agrees.exists_write (ha : Agrees m hs) (hheld : m.writer = .held) : ∃ i : Nat, hs[i]? = some Hold.write := by
  have hc := ha.count_write
  rw [if_pos hheld] at hc
  exact List.mem_iff_getElem?.mp (List.count_pos_iff.mp (show 0 < hs.count Hold.write by omega))

theorem Agrees.exists_pending (ha : Agrees m hs) (hpend : m.writer = .pending) : ∃ i : Nat, hs[i]? = some Hold.pending := by
  have hc := ha.count_pending
  rw [if_pos hpend] at hc
  exact List.mem_iff_getElem?.mp (List.count_pos_iff.mp (show 0 < hs.count Hold.pending by omega))

theorem Agrees.exists_read (ha : Agrees m hs) (hpos : m.readers ≠ 0) : ∃ i : Nat, hs[i]? = some Hold.read := by
  have hc := ha.readers_eq
  exact List.mem_iff_getElem?.mp (List.count_pos_iff.mp (show 0 < hs.count Hold.read by omega))

end RWMutex
