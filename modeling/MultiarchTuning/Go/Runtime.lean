import Mathlib.Data.List.Basic
import Mathlib.Data.List.AList
import Mathlib.Algebra.Group.Int.Defs

/-!
# What the model uses of Go's runtime and standard library

A Go function either returns or panics. A panic is a value of `Go.Panic`, and a function that can panic returns in
`Except Go.Panic`: `Go.deref` reads through a pointer that may be nil (an `Option`), `Go.index` indexes a slice,
`Go.assign` writes an entry of a map that may be nil (an `Option` of an `AList`). An
`error` a function returns is an ordinary value, kept apart from panics.

`strconv.ParseInt` in base 10 and `fmt.Sprintf("%d", ·)` on an `int64` are `Go.parseInt` and `Go.formatInt`, after
the documentation of package `strconv`: an optional sign, then a non-empty run of decimal digits, and a value that fits a
signed integer of the bit size; anything else is an error (`none`; the callers here test `err != nil` only). The round
trip `parseInt_formatInt` is what a counter kept in a string needs.
-/

namespace Go

/-- A run-time panic. -/
inductive Panic where
  /-- A nil pointer was dereferenced. -/
  | nilDereference
  /-- A slice of `length` elements was indexed at `index`. -/
  | indexOutOfRange (index length : Nat)
  /-- An entry of a nil map was assigned. -/
  | assignmentToNilMap
  deriving DecidableEq, Repr

/-- `*p`, or a field access through `p`: a nil pointer panics. -/
def deref {α : Type} : Option α → Except Panic α
  | some a => .ok a
  | none => .error .nilDereference

/-- `xs[i]`: an index past the end panics. -/
def index {α : Type} (xs : List α) (i : Nat) : Except Panic α :=
  match xs[i]? with
  | some a => .ok a
  | none => .error (.indexOutOfRange i xs.length)

/-- `m[k] = v`: a nil map panics. -/
def assign {κ : Type} {β : κ → Type} [DecidableEq κ] (m : Option (AList β)) (k : κ) (v : β k) :
    Except Panic (AList β) :=
  match m with
  | some m => .ok (m.insert k v)
  | none => .error .assignmentToNilMap

@[simp] theorem deref_some {α : Type} (a : α) : deref (some a) = .ok a := rfl

@[simp] theorem deref_none {α : Type} : deref (none : Option α) = .error .nilDereference := rfl

@[simp] theorem assign_some {κ : Type} {β : κ → Type} [DecidableEq κ] (m : AList β) (k : κ) (v : β k) :
    assign (some m) k v = .ok (m.insert k v) := rfl

/-- A `bind` in `Except` that returned a value ran its first part to a value. -/
theorem bind_eq_ok {ε α β : Type} {x : Except ε α} {f : α → Except ε β} {b : β} (h : (x >>= f) = .ok b) :
    ∃ a, x = .ok a ∧ f a = .ok b := by
  cases x with
  | error e => cases h
  | ok a => exact ⟨a, rfl, h⟩

@[simp] theorem pure_eq_ok {ε α : Type} (a : α) : (pure a : Except ε α) = .ok a := rfl

@[simp] theorem ok_bind {ε α β : Type} (a : α) (f : α → Except ε β) : (Except.ok a >>= f) = f a := rfl

@[simp] theorem error_bind {ε α β : Type} (e : ε) (f : α → Except ε β) : (Except.error e >>= f) = .error e := rfl

theorem toOption_map {ε α β : Type} (f : α → β) (x : Except ε α) : (f <$> x).toOption = x.toOption.map f := by
  cases x <;> rfl

theorem exists_map_eq_error {ε α β : Type} (f : α → β) (x : Except ε α) :
    (∃ e, f <$> x = .error e) ↔ ∃ e, x = .error e := by
  cases x with
  | error e => exact ⟨fun _ => ⟨e, rfl⟩, fun _ => ⟨e, rfl⟩⟩
  | ok a =>
    constructor
    · rintro ⟨_, h⟩
      cases h
    · rintro ⟨_, h⟩
      cases h

/-! ## `strconv.ParseInt` and `%d` -/

/-- The leading sign `strconv.ParseInt` picks off: `true` for `-`. -/
def splitSign : List Char → Bool × List Char
  | '+' :: t => (false, t)
  | '-' :: t => (true, t)
  | t => (false, t)

/-- `strconv.ParseUint` in base 10, up to the range check: a non-empty run of decimal digits (no underscore, which only
base 0 allows). -/
def decimalDigits? (cs : List Char) : Option Nat :=
  if cs ≠ [] ∧ cs.all Char.isDigit then some (Nat.ofDigitChars 10 cs 0) else none

/-- Whether `n` fits a signed integer of `bitSize` bits (`1 ≤ bitSize ≤ 64`). -/
def fitsInt (bitSize : Nat) (n : Int) : Bool :=
  decide (-2 ^ (bitSize - 1) ≤ n ∧ n < 2 ^ (bitSize - 1))

/-- `strconv.ParseInt(s, 10, bitSize)`: `some` the value, or `none` for a syntax error (empty, no digits, a character
that is not a decimal digit) or a range error (the value does not fit `bitSize` bits). -/
def parseInt (s : String) (bitSize : Nat) : Option Int :=
  let (neg, rest) := splitSign s.toList
  match decimalDigits? rest with
  | none => none
  | some u =>
    let n : Int := if neg then -u else u
    if fitsInt bitSize n then some n else none

theorem splitSign_fst_of_head {cs : List Char} (h : cs.head? ≠ some '-') : (splitSign cs).1 = false := by
  unfold splitSign
  split
  · rfl
  · exact absurd rfl h
  · rfl

/-- A string that does not start with a minus sign parses to no negative value. -/
theorem parseInt_nonneg {s : String} {bitSize : Nat} {n : Int} (h : s.toList.head? ≠ some '-')
    (hp : parseInt s bitSize = some n) : 0 ≤ n := by
  have hneg := splitSign_fst_of_head h
  unfold parseInt at hp
  rcases hs : splitSign s.toList with ⟨neg, rest⟩
  rw [hs] at hneg hp
  simp only at hneg
  subst hneg
  simp only [Bool.false_eq_true, if_false] at hp
  split at hp
  · cases hp
  · rename_i u _
    by_cases hf : fitsInt bitSize (u : Int) = true
    · rw [if_pos hf, Option.some.injEq] at hp
      omega
    · rw [if_neg hf] at hp
      cases hp

/-- `fmt.Sprintf("%d", n)` for an `int64`: a minus sign for a negative value, then the decimal digits. -/
def formatInt (n : Int) : String :=
  if n < 0 then "-" ++ n.natAbs.repr else n.natAbs.repr

theorem splitSign_of_all_isDigit {cs : List Char} (h : cs.all Char.isDigit = true) : splitSign cs = (false, cs) := by
  match cs, h with
  | [], _ => rfl
  | c :: t, h =>
    have hc : c.isDigit = true := by simp_all
    have hp : c ≠ '+' := by rintro rfl; exact absurd hc (by decide)
    have hm : c ≠ '-' := by rintro rfl; exact absurd hc (by decide)
    simp [splitSign, hp, hm]

theorem decimalDigits?_toDigits (m : Nat) : decimalDigits? (Nat.toDigits 10 m) = some m := by
  have hall : (Nat.toDigits 10 m).all Char.isDigit = true := by
    rw [List.all_eq_true]
    intro c hc
    exact Nat.isDigit_of_mem_toDigits (by decide) (by decide) hc
  simp [decimalDigits?, Nat.toDigits_ne_nil, hall]

/-- What `ParseInt` returns fits the bit size. -/
theorem fitsInt_of_parseInt {s : String} {bitSize : Nat} {n : Int} (h : parseInt s bitSize = some n) :
    fitsInt bitSize n = true := by
  simp only [parseInt] at h
  split at h
  · cases h
  · rename_i u _
    by_cases hf : fitsInt bitSize (if (splitSign s.toList).1 then -(u : Int) else u) = true
    · rw [if_pos hf] at h
      cases h
      exact hf
    · rw [if_neg hf] at h
      cases h

/-- Parsing what `%d` printed gives the number back when it fits the bit size, and a range error when it does not. -/
theorem parseInt_formatInt (n : Int) (bitSize : Nat) :
    parseInt (formatInt n) bitSize = if fitsInt bitSize n then some n else none := by
  have hall : ∀ m : Nat, (Nat.toDigits 10 m).all Char.isDigit = true := fun m => by
    rw [List.all_eq_true]
    intro c hc
    exact Nat.isDigit_of_mem_toDigits (by decide) (by decide) hc
  by_cases hn : n < 0
  · have hs : (formatInt n).toList = '-' :: Nat.toDigits 10 n.natAbs := by
      simp [formatInt, hn, Nat.toList_repr]
    have hv : -(n.natAbs : Int) = n := by omega
    simp only [parseInt, hs, splitSign, decimalDigits?_toDigits, if_true, hv]
  · have hs : (formatInt n).toList = Nat.toDigits 10 n.natAbs := by
      simp [formatInt, hn, Nat.toList_repr]
    have hv : (n.natAbs : Int) = n := by omega
    simp only [parseInt, hs, splitSign_of_all_isDigit (hall _), decimalDigits?_toDigits, Bool.false_eq_true,
      if_false, hv]

example : parseInt "-12" 32 = some (-12) := by decide
example : parseInt "2147483648" 32 = none := by decide

/-! ## `strings.HasPrefix`, `path.Clean` and `path.Join` -/

/-- `strings.HasPrefix(s, pre)`. -/
def hasPrefix (s pre : String) : Bool := pre.toList.isPrefixOf s.toList

/-- The slash-separated elements of a path, as character lists. -/
def splitElements : List Char → List (List Char)
  | [] => [[]]
  | '/' :: rest => [] :: splitElements rest
  | c :: rest =>
    match splitElements rest with
    | e :: es => (c :: e) :: es
    | [] => [[c]]

/-- The elements `path.Clean` keeps, over the elements of a path, with the kept ones before them (innermost first):
empty and `.` elements go, a `..` goes with the element before it, and a `..` that begins a rooted path goes. -/
def cleanElements (rooted : Bool) : List (List Char) → List (List Char) → List (List Char)
  | kept, [] => kept.reverse
  | kept, [] :: rest => cleanElements rooted kept rest
  | kept, ['.'] :: rest => cleanElements rooted kept rest
  | kept, ['.', '.'] :: rest =>
    match kept with
    | ['.', '.'] :: _ => cleanElements rooted (['.', '.'] :: kept) rest
    | _ :: kept' => cleanElements rooted kept' rest
    | [] => if rooted then cleanElements rooted [] rest else cleanElements rooted [['.', '.']] rest
  | kept, e :: rest => cleanElements rooted (e :: kept) rest

/-- `path.Clean`, after its documentation: the shortest path name equal to `p` by purely lexical processing, `.` when
that is empty. -/
def clean (p : String) : String :=
  let cs := p.toList
  let rooted := cs.head? == some '/'
  let body := List.intercalate ['/'] (cleanElements rooted [] (splitElements cs))
  if rooted then String.ofList ('/' :: body) else if body = [] then "." else String.ofList body

/-- `path.Join(a, b)`: the non-empty elements joined by a slash, then cleaned; empty when both are. -/
def join (a b : String) : String :=
  if a = "" then (if b = "" then "" else clean b)
  else if b = "" then clean a else clean (a ++ "/" ++ b)

example : join "multiarch.openshift.io" "x/../single-arch" = "multiarch.openshift.io/single-arch" := by decide

end Go
