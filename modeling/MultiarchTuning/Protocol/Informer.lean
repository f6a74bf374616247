import Mathlib.Data.List.Chain

/-!
# The notifications of a shared informer

A shared informer tells its handlers how the objects it watches change: an object is added, an object is updated from
an old to a new version (a resync hands an unchanged object over as an update to itself), or an object is deleted.
When the informer missed the deletion and learns of it on a relist, the deleted object comes as a tombstone that holds
its key and the last state the informer knew.

`watch prev states` is what the handlers receive while one object goes through `states` from `prev`. Handlers that
take what they should store after a history to what they should store after one more state follow that along every
watch (`foldl_watch_spec`); when what they store is a view of the object's state, they follow the object
(`foldl_watch`). Handlers that ignore the notifications about other objects see only those about theirs
(`foldl_filter_of_ignored`).
-/

namespace Informer

variable {α : Type}

/-- What a delete notification carries. -/
inductive Deleted (α : Type) where
  | final (obj : α)
  /-- `DeletedFinalStateUnknown`: the deletion was missed; the key and the last state the informer knew. -/
  | unknown (key : String) (obj : α)

/-- A notification of the informer. -/
inductive Notification (α : Type) where
  | add (obj : α)
  | update (old new : α)
  | delete (obj : Deleted α)

/-- What the informer delivers as one object goes from `prev` to `next`. -/
def changes : Option α → Option α → List (Notification α)
  | none, none => []
  | none, some x => [.add x]
  | some x, some y => [.update x y]
  | some x, none => [.delete (.final x)]

/-- The notifications while one object goes through `states` from `prev`. -/
def watch : Option α → List (Option α) → List (Notification α)
  | _, [] => []
  | prev, next :: states => changes prev next ++ watch next states

/-- Two consecutive states of an object that carry one resource version are the same object, as the API server
guarantees: each write changes the resource version. -/
def ResourceVersioned (rv : α → String) (p n : Option α) : Prop :=
  ∀ x y, p = some x → n = some y → rv x = rv y → x = y

/-- A creation or a deletion is allowed whatever the resource versions. -/
@[simp] theorem resourceVersioned_none_left (rv : α → String) (n : Option α) : ResourceVersioned rv none n := by
  intro x y hx
  cases hx

@[simp] theorem resourceVersioned_none_right (rv : α → String) (p : Option α) : ResourceVersioned rv p none := by
  intro x y _ hy
  cases hy

/-- The notification is about the object of key `k`. -/
def Notification.concerns (key : α → String) (k : String) : Notification α → Bool
  | .add x => key x == k
  | .update _ y => key y == k
  | .delete (.final x) | .delete (.unknown _ x) => key x == k

theorem watch_append_singleton (prev : Option α) (states : List (Option α)) (next : Option α) :
    watch prev (states ++ [next]) = watch prev states ++ changes (states.getLast?.getD prev) next := by
  induction states generalizing prev with
  | nil => simp [watch]
  | cons st states ih =>
    rw [List.cons_append, watch, watch, ih, List.append_assoc]
    cases states <;> rfl

/-- A history in which the object never existed ends without it. -/
theorem getLast?_getD_none_of_all_isNone {states : List (Option α)} (h : states.all (·.isNone)) :
    states.getLast?.getD none = none := by
  cases hl : states.getLast? with
  | none => rfl
  | some st =>
    have hst := List.all_eq_true.mp h st (List.mem_of_getLast? hl)
    simpa using hst

/-- A history that ends with the object ends with its last state. -/
theorem getLast?_of_getLast?_getD_none {states : List (Option α)} {x : α} (h : states.getLast?.getD none = some x) :
    states.getLast? = some (some x) := by
  cases hl : states.getLast? with
  | none =>
    rw [hl] at h
    cases h
  | some st =>
    rw [hl] at h
    rw [show st = some x from h]

variable {σ : Type} (handle : σ → Notification α → σ)

/-- Handlers that take the store expected after each history of the object to the one expected after one more state
follow that expectation along every watch whose consecutive states `P` allows. The induction is on the states from
the end, so that each step is the changes of one last state. -/
theorem foldl_watch_spec (spec : List (Option α) → σ) {P : Option α → Option α → Prop} (prev : Option α)
    (hstep : ∀ states n, List.IsChain P (prev :: states) → P (states.getLast?.getD prev) n →
      (changes (states.getLast?.getD prev) n).foldl handle (spec states) = spec (states ++ [n])) :
    ∀ states : List (Option α), List.IsChain P (prev :: states) →
      (watch prev states).foldl handle (spec []) = spec states := by
  intro states
  induction states using List.reverseRecOn with
  | nil => intro _; rfl
  | append_singleton states n ih =>
    intro hchain
    rw [← List.cons_append, List.isChain_append] at hchain
    obtain ⟨hchain, -, hlast⟩ := hchain
    have hP : P (states.getLast?.getD prev) n := hlast _ (by rw [List.getLast?_cons]; rfl) n rfl
    rw [watch_append_singleton, List.foldl_append, ih hchain, hstep states n hchain hP]

/-- Handlers that take the view of each old state to the view of the new one, for the changes that `P` allows, follow
the object along every watch whose consecutive states `P` allows. -/
theorem foldl_watch (view : Option α → σ) {P : Option α → Option α → Prop}
    (hstep : ∀ p n, P p n → (changes p n).foldl handle (view p) = view n) :
    ∀ (prev : Option α) (states : List (Option α)), List.IsChain P (prev :: states) →
      (watch prev states).foldl handle (view prev) = view (states.getLast?.getD prev) := by
  intro prev
  refine foldl_watch_spec handle (fun states => view (states.getLast?.getD prev)) prev ?_
  intro states n _ hP
  rw [hstep _ n hP, List.getLast?_append, List.getLast?_singleton]
  rfl

/-- Handlers that ignore the notifications `P` rejects see only the others. -/
theorem foldl_filter_of_ignored (P : Notification α → Bool) (hignore : ∀ s e, P e = false → handle s e = s) :
    ∀ (evs : List (Notification α)) (s : σ), evs.foldl handle s = (evs.filter P).foldl handle s := by
  intro evs
  induction evs with
  | nil => intro s; rfl
  | cons e evs ih =>
    intro s
    cases hP : P e with
    | false => rw [List.foldl_cons, hignore s e hP, List.filter_cons_of_neg (by simp [hP]), ih]
    | true => rw [List.foldl_cons, List.filter_cons_of_pos hP, List.foldl_cons, ih]

end Informer
