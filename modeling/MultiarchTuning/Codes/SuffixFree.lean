import Mathlib.Data.Set.Defs
import Mathlib.Tactic.Common

/-!
# Suffix-free sets of words, and bracket depth

A set of words is suffix-free when no word of it is a proper suffix of another. Then a word of the set written after
an arbitrary prefix can be split off again: `u₁ ++ v₁ = u₂ ++ v₂` with `v₁` and `v₂` in the set gives `u₁ = u₂` and
`v₁ = v₂` (`SuffixFree.append_inj`). No decoder is needed for that, only that no word of the set starts where another
one ends.

Words whose brackets close only at their end form such a set. Over a letter `o` that opens and a letter `c` that
closes, the depth of a word is the number of its `o` less the number of its `c`. A word is balanced when its depth is
zero and no prefix of it has negative depth, and primitive when it is nonempty, of depth zero, and every nonempty proper
prefix of it has positive depth. Balanced words are closed under concatenation, and wrapping one in `o` and `c` gives a
primitive word (`Balanced.wrap`). Primitive words are suffix-free (`suffixFree_primitive`): one that ends another
leaves in front a prefix of depth zero, which must be empty.
-/

namespace Codes

variable {α : Type}

/-- No word of `L` is a proper suffix of another. -/
def SuffixFree (L : Set (List α)) : Prop := ∀ u ∈ L, ∀ v ∈ L, ∀ x, u = x ++ v → x = []

/-- Behind any prefix, a word of a suffix-free set determines the prefix and itself. -/
theorem SuffixFree.append_inj {L : Set (List α)} (h : SuffixFree L) {u₁ u₂ v₁ v₂ : List α} (h₁ : v₁ ∈ L)
    (h₂ : v₂ ∈ L) (heq : u₁ ++ v₁ = u₂ ++ v₂) : u₁ = u₂ ∧ v₁ = v₂ := by
  rcases List.append_eq_append_iff.mp heq with ⟨x, rfl, hv⟩ | ⟨x, rfl, hv⟩
  · have hx : x = [] := h v₁ h₁ v₂ h₂ x hv
    subst hx
    simp [hv]
  · have hx : x = [] := h v₂ h₂ v₁ h₁ x hv
    subst hx
    simp [hv]

/-- A letter in no word and not in the separator is not in the words joined by it. -/
theorem not_mem_intercalate {x : α} {sep : List α} (hsep : x ∉ sep) :
    ∀ {ws : List (List α)}, (∀ w ∈ ws, x ∉ w) → x ∉ sep.intercalate ws
  | [], _ => List.not_mem_nil
  | [w], h => by
    rw [List.intercalate_singleton]
    exact h w List.mem_cons_self
  | w :: w' :: ws, h => by
    rw [List.intercalate_cons_cons, List.mem_append, List.mem_append]
    rintro ((hw | hs) | hr)
    · exact h w List.mem_cons_self hw
    · exact hsep hs
    · exact not_mem_intercalate hsep (fun v hv => h v (List.mem_cons_of_mem w hv)) hr

section Depth

variable [DecidableEq α] (o c : α)

/-- The number of `o` less the number of `c`. -/
def depth (w : List α) : Int := w.count o - w.count c

/-- Depth zero, and no prefix of negative depth. -/
def Balanced (w : List α) : Prop := depth o c w = 0 ∧ ∀ y z, w = y ++ z → 0 ≤ depth o c y

/-- Nonempty, of depth zero, and every nonempty proper prefix of positive depth. -/
def Primitive (w : List α) : Prop :=
  w ≠ [] ∧ depth o c w = 0 ∧ ∀ y z, w = y ++ z → y ≠ [] → z ≠ [] → 0 < depth o c y

variable {o c}

@[simp] theorem depth_nil : depth o c [] = 0 := by simp [depth]

@[simp] theorem depth_append (u v : List α) : depth o c (u ++ v) = depth o c u + depth o c v := by
  simp only [depth, List.count_append]
  omega

theorem depth_cons (a : α) (w : List α) : depth o c (a :: w) = depth o c [a] + depth o c w := by
  rw [← depth_append]
  rfl

theorem balanced_nil : Balanced o c [] := by
  refine ⟨depth_nil, fun y z h => ?_⟩
  simp [(List.append_eq_nil_iff.mp h.symm).1]

theorem Balanced.append {u v : List α} (hu : Balanced o c u) (hv : Balanced o c v) : Balanced o c (u ++ v) := by
  refine ⟨by rw [depth_append, hu.1, hv.1]; rfl, fun y z h => ?_⟩
  rcases List.append_eq_append_iff.mp h with ⟨a, rfl, hva⟩ | ⟨b, hub, -⟩
  · have ha := hv.2 a z hva
    rw [depth_append, hu.1]
    omega
  · exact hu.2 y b hub

/-- Balanced words joined by a balanced separator are balanced. -/
theorem balanced_intercalate {sep : List α} (hsep : Balanced o c sep) :
    ∀ {ws : List (List α)}, (∀ w ∈ ws, Balanced o c w) → Balanced o c (sep.intercalate ws)
  | [], _ => balanced_nil
  | [w], h => by
    rw [List.intercalate_singleton]
    exact h w List.mem_cons_self
  | w :: w' :: ws, h => by
    rw [List.intercalate_cons_cons]
    exact ((h w List.mem_cons_self).append hsep).append
      (balanced_intercalate hsep fun v hv => h v (List.mem_cons_of_mem w hv))

/-- Balance read off the prefixes `take k`, which makes it decidable. -/
theorem balanced_iff_take {w : List α} :
    Balanced o c w ↔ depth o c w = 0 ∧ ∀ k ≤ w.length, 0 ≤ depth o c (w.take k) := by
  constructor
  · rintro ⟨h0, hpre⟩
    exact ⟨h0, fun k _ => hpre (w.take k) (w.drop k) (List.take_append_drop k w).symm⟩
  · rintro ⟨h0, htake⟩
    refine ⟨h0, fun y z h => ?_⟩
    have hy : w.take y.length = y := by rw [h, List.take_left]
    have hlen : y.length ≤ w.length := by rw [h, List.length_append]; omega
    exact hy ▸ htake y.length hlen

instance (w : List α) : Decidable (Balanced o c w) := decidable_of_iff _ balanced_iff_take.symm

/-- A balanced word between the brackets is primitive. -/
theorem Balanced.wrap (hoc : o ≠ c) {m : List α} (hm : Balanced o c m) : Primitive o c (o :: m ++ [c]) := by
  have ho : depth o c [o] = 1 := by simp [depth, hoc]
  have hc : depth o c [c] = -1 := by simp [depth, Ne.symm hoc]
  refine ⟨by simp, by rw [List.cons_append, depth_cons, depth_append, hm.1, ho, hc]; rfl, fun y z h hy hz => ?_⟩
  obtain ⟨y', rfl⟩ : ∃ y', y = o :: y' := by
    rcases y with _ | ⟨a, y'⟩
    · exact absurd rfl hy
    · rw [List.cons_append, List.cons_append, List.cons.injEq] at h
      exact ⟨y', by rw [h.1]⟩
  rw [List.cons_append, List.cons_append, List.cons.injEq] at h
  rw [depth_cons, ho]
  rcases List.append_eq_append_iff.mp h.2 with ⟨a, rfl, hca⟩ | ⟨b, hmb, -⟩
  · rw [depth_append, hm.1]
    rcases List.singleton_eq_append_iff.mp hca with ⟨rfl, -⟩ | ⟨-, rfl⟩
    · simp
    · exact absurd rfl hz
  · have := hm.2 y' b hmb
    omega

theorem Primitive.balanced {w : List α} (hw : Primitive o c w) : Balanced o c w := by
  refine ⟨hw.2.1, fun y z h => ?_⟩
  by_cases hy : y = []
  · simp [hy]
  by_cases hz : z = []
  · rw [hz, List.append_nil] at h
    simp [← h, hw.2.1]
  · exact Int.le_of_lt (hw.2.2 y z h hy hz)

/-- Primitive words are suffix-free. -/
theorem suffixFree_primitive : SuffixFree {w : List α | Primitive o c w} := by
  intro u hu v hv x hx
  have hd : depth o c x = 0 := by
    have h := congrArg (depth o c) hx
    rw [depth_append, hu.2.1, hv.2.1] at h
    omega
  by_contra hne
  have hpos := hu.2.2 x v hx hne hv.1
  omega

end Depth

end Codes
