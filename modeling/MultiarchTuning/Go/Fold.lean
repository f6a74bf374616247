import Mathlib.Order.Lattice
import MultiarchTuning.Go.Runtime

/-!
# A loop that meets what it reads, with nil for "nothing read yet"

A common Go loop ranges over the keys of a map, reads a value for each key (returning at the first error), and keeps the
meet of what it read in a variable that starts nil:

    var acc T
    for k := range m {
        cur, err := f(k)
        if err != nil { return nil, err }
        if acc == nil { acc = cur } else { acc = acc.Intersection(cur) }
    }

`meetStep` is one pass of its body, over any meet-semilattice, and the loop is `List.foldlM (meetStep f) none l` over
the enumeration `l` of the keys the runtime picks. The loop returns an error exactly when `f` fails on some key
(`foldlM_meetStep_error_iff`); otherwise nil for no key, and the meet of everything read for at least one
(`foldlM_meetStep_none_eq`). Both depend only on which keys are enumerated, not on their order or repetition
(`foldlM_meetStep_congr_mem`), which is what makes the loop well defined over a Go map, whose iteration order is
unspecified.
-/

namespace Go

variable {α β ε : Type}

/-- One pass of the loop body: read `f a`, return on an error, and meet the value into the accumulator, a nil
accumulator taking the value as it is. -/
def meetStep [SemilatticeInf β] (f : α → Except ε β) (acc : Option β) (a : α) : Except ε (Option β) :=
  match f a with
  | .error e => .error e
  | .ok b => .ok (some (match acc with
    | none => b
    | some c => c ⊓ b))

section MeetStep

variable [SemilatticeInf β] (f : α → Except ε β)

@[simp] theorem foldlM_meetStep_nil (acc : Option β) : ([] : List α).foldlM (meetStep f) acc = .ok acc := rfl

theorem foldlM_meetStep_cons_ok {a : α} {l : List α} {b : β} (acc : Option β) (h : f a = .ok b) :
    (a :: l).foldlM (meetStep f) acc = l.foldlM (meetStep f) (some (acc.elim b (· ⊓ b))) := by
  cases acc <;> simp [meetStep, h, Option.elim]

theorem foldlM_meetStep_cons_error {a : α} {l : List α} {e : ε} (acc : Option β) (h : f a = .error e) :
    (a :: l).foldlM (meetStep f) acc = .error e := by
  simp [meetStep, h]

/-- The loop fails exactly when `f` fails on one of the keys it visits. -/
theorem foldlM_meetStep_error_iff (l : List α) (acc : Option β) :
    (∃ e, l.foldlM (meetStep f) acc = .error e) ↔ ∃ a ∈ l, ∃ e, f a = .error e := by
  induction l generalizing acc with
  | nil =>
    constructor
    · rintro ⟨e, he⟩
      cases he
    · rintro ⟨a, ha, -⟩
      cases ha
  | cons a l ih =>
    cases ha : f a with
    | error e =>
      exact ⟨fun _ => ⟨a, List.mem_cons_self, e, ha⟩, fun _ => ⟨e, foldlM_meetStep_cons_error f acc ha⟩⟩
    | ok b =>
      rw [foldlM_meetStep_cons_ok f acc ha, ih]
      constructor
      · rintro ⟨x, hx, e, he⟩
        exact ⟨x, List.mem_cons_of_mem a hx, e, he⟩
      · rintro ⟨x, hx, e, he⟩
        rcases List.mem_cons.mp hx with rfl | hx
        · rw [ha] at he
          cases he
        · exact ⟨x, hx, e, he⟩

/-- The loop returns a value exactly when `f` returns a value on every key it visits. -/
theorem foldlM_meetStep_ok_iff (l : List α) (acc : Option β) :
    (∃ r, l.foldlM (meetStep f) acc = .ok r) ↔ ∀ a ∈ l, ∃ b, f a = .ok b := by
  have herr := foldlM_meetStep_error_iff f l acc
  constructor
  · rintro ⟨r, hr⟩ a ha
    cases hfa : f a with
    | ok b => exact ⟨b, rfl⟩
    | error e =>
      obtain ⟨e', he'⟩ := herr.mpr ⟨a, ha, e, hfa⟩
      rw [hr] at he'
      cases he'
  · intro hall
    cases hr : l.foldlM (meetStep f) acc with
    | ok r => exact ⟨r, rfl⟩
    | error e =>
      obtain ⟨a, ha, e', he'⟩ := herr.mp ⟨e, hr⟩
      obtain ⟨b, hb⟩ := hall a ha
      rw [hb] at he'
      cases he'

/-- Started from a value `c`, the loop returns a value below which lie exactly the lower bounds of `c` and of everything
`f` returned. -/
theorem foldlM_meetStep_some_eq {l : List α} {c : β} {r : Option β} (h : l.foldlM (meetStep f) (some c) = .ok r) :
    ∃ m, r = some m ∧ ∀ d, d ≤ m ↔ d ≤ c ∧ ∀ a ∈ l, ∀ b, f a = .ok b → d ≤ b := by
  induction l generalizing c with
  | nil =>
    simp only [foldlM_meetStep_nil, Except.ok.injEq] at h
    exact ⟨c, h.symm, fun d => by simp⟩
  | cons a l ih =>
    cases ha : f a with
    | error e => rw [foldlM_meetStep_cons_error f _ ha] at h; cases h
    | ok b =>
      rw [foldlM_meetStep_cons_ok f _ ha] at h
      obtain ⟨m, rfl, hm⟩ := ih h
      refine ⟨m, rfl, fun d => ?_⟩
      simp only [Option.elim, hm, le_inf_iff, List.mem_cons, forall_eq_or_imp, ha, Except.ok.injEq]
      constructor
      · rintro ⟨⟨hc, hb⟩, hl⟩
        exact ⟨hc, fun b' hb' => hb' ▸ hb, hl⟩
      · rintro ⟨hc, hb, hl⟩
        exact ⟨⟨hc, hb b rfl⟩, hl⟩

/-- Started from nil, the loop returns nil for no key, and for at least one key the meet of everything `f` returned:
the value below which lie exactly the common lower bounds. -/
theorem foldlM_meetStep_none_eq {l : List α} {r : Option β} (h : l.foldlM (meetStep f) none = .ok r) :
    (l = [] ∧ r = none) ∨ (l ≠ [] ∧ ∃ m, r = some m ∧ ∀ d, d ≤ m ↔ ∀ a ∈ l, ∀ b, f a = .ok b → d ≤ b) := by
  cases l with
  | nil =>
    simp only [foldlM_meetStep_nil, Except.ok.injEq] at h
    exact Or.inl ⟨rfl, h.symm⟩
  | cons a l =>
    cases ha : f a with
    | error e => rw [foldlM_meetStep_cons_error f _ ha] at h; cases h
    | ok b =>
      rw [foldlM_meetStep_cons_ok f _ ha] at h
      obtain ⟨m, rfl, hm⟩ := foldlM_meetStep_some_eq f h
      refine Or.inr ⟨List.cons_ne_nil a l, m, rfl, fun d => ?_⟩
      simp only [Option.elim, hm, List.mem_cons, forall_eq_or_imp, ha, Except.ok.injEq]
      exact ⟨fun ⟨hb, hl⟩ => ⟨fun b' hb' => hb' ▸ hb, hl⟩, fun ⟨hb, hl⟩ => ⟨hb b rfl, hl⟩⟩

/-- The loop returns nil exactly when there is no key. -/
theorem toOption_foldlM_meetStep_eq_some_none_iff (l : List α) :
    (l.foldlM (meetStep f) none).toOption = some none ↔ l = [] := by
  constructor
  · intro h
    cases hr : l.foldlM (meetStep f) none with
    | error e =>
      rw [hr] at h
      cases h
    | ok r =>
      rw [hr] at h
      simp only [Except.toOption, Option.some.injEq] at h
      subst h
      rcases foldlM_meetStep_none_eq f hr with ⟨hl, -⟩ | ⟨-, m, hm, -⟩
      · exact hl
      · cases hm
  · rintro rfl
    rfl

/-- What the loop returns, read as an option: a value exactly when there is a key and `f` returns on every key, and
then the meet of everything `f` returned. -/
theorem toOption_foldlM_meetStep_eq_some_iff (l : List α) (m : β) :
    (l.foldlM (meetStep f) none).toOption = some (some m) ↔
      l ≠ [] ∧ (∀ a ∈ l, ∃ b, f a = .ok b) ∧ ∀ d, d ≤ m ↔ ∀ a ∈ l, ∀ b, f a = .ok b → d ≤ b := by
  constructor
  · intro h
    cases hr : l.foldlM (meetStep f) none with
    | error e =>
      rw [hr] at h
      cases h
    | ok r =>
      rw [hr] at h
      have hall := (foldlM_meetStep_ok_iff f l none).mp ⟨r, hr⟩
      rcases foldlM_meetStep_none_eq f hr with ⟨-, rfl⟩ | ⟨hl, m', rfl, hm⟩
      · cases h
      · simp only [Except.toOption, Option.some.injEq] at h
        subst h
        exact ⟨hl, hall, hm⟩
  · rintro ⟨hl, hall, hm⟩
    obtain ⟨r, hr⟩ := (foldlM_meetStep_ok_iff f l none).mpr hall
    rw [hr]
    rcases foldlM_meetStep_none_eq f hr with ⟨hl0, -⟩ | ⟨-, m', rfl, hm'⟩
    · exact absurd hl0 hl
    · have hle : m' ≤ m := (hm m').mpr ((hm' m').mp le_rfl)
      have hge : m ≤ m' := (hm' m).mpr ((hm m).mp le_rfl)
      rw [le_antisymm hle hge]
      rfl

/-- The loop depends only on which keys it visits, not on their order or repetition: over two enumerations of the same
keys it fails on both or returns the same value on both. -/
theorem foldlM_meetStep_congr_mem {l l' : List α} (hl : ∀ a, a ∈ l ↔ a ∈ l') :
    (l.foldlM (meetStep f) none).toOption = (l'.foldlM (meetStep f) none).toOption := by
  have hnil : l = [] ↔ l' = [] := by
    simp only [List.eq_nil_iff_forall_not_mem, hl]
  apply Option.ext
  intro m
  show _ = some m ↔ _ = some m
  cases m with
  | none => rw [toOption_foldlM_meetStep_eq_some_none_iff, toOption_foldlM_meetStep_eq_some_none_iff, hnil]
  | some m =>
    rw [toOption_foldlM_meetStep_eq_some_iff, toOption_foldlM_meetStep_eq_some_iff, ne_eq, ne_eq, hnil]
    simp only [hl]

/-- A key whose value lies above every common lower bound of the other keys' values changes nothing. -/
theorem foldlM_meetStep_absorb {l l' : List α} {t : α} {T : β} (hl : ∀ a, a ∈ l ↔ a = t ∨ a ∈ l') (hne : l' ≠ [])
    (ht : f t = .ok T) (hT : ∀ d, (∀ a ∈ l', ∀ b, f a = .ok b → d ≤ b) → d ≤ T) :
    (l.foldlM (meetStep f) none).toOption = (l'.foldlM (meetStep f) none).toOption := by
  have hlb : ∀ d, (∀ a ∈ l, ∀ b, f a = .ok b → d ≤ b) ↔ ∀ a ∈ l', ∀ b, f a = .ok b → d ≤ b := by
    intro d
    constructor
    · intro h a ha b hb
      exact h a ((hl a).mpr (.inr ha)) b hb
    · intro h a ha b hb
      rcases (hl a).mp ha with rfl | ha'
      · rw [ht, Except.ok.injEq] at hb
        subst hb
        exact hT d h
      · exact h a ha' b hb
  have hall : (∀ a ∈ l, ∃ b, f a = .ok b) ↔ ∀ a ∈ l', ∃ b, f a = .ok b := by
    constructor
    · intro h a ha
      exact h a ((hl a).mpr (.inr ha))
    · intro h a ha
      rcases (hl a).mp ha with rfl | ha'
      · exact ⟨T, ht⟩
      · exact h a ha'
  have hnil : l ≠ [] := List.ne_nil_of_mem ((hl t).mpr (.inl rfl))
  apply Option.ext
  intro m
  show _ = some m ↔ _ = some m
  cases m with
  | none => rw [toOption_foldlM_meetStep_eq_some_none_iff, toOption_foldlM_meetStep_eq_some_none_iff]; simp [hnil, hne]
  | some m =>
    rw [toOption_foldlM_meetStep_eq_some_iff, toOption_foldlM_meetStep_eq_some_iff, hall]
    simp only [hlb, hnil, hne, ne_eq, not_false_eq_true, true_and]

end MeetStep

end Go
