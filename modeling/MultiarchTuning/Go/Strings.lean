import Mathlib.Data.List.Basic
import Mathlib.Algebra.Group.Nat.Defs

/-!
# Go strings as bytes

A Go `string` is a sequence of bytes that need not be UTF-8: `url.Parse` decodes a percent-escape into any byte, and
`filepath.Match` steps through a name byte by byte. So the code of `pkg/image` that handles registry names and
credentials is modelled over `List UInt8`, and a Lean string enters as its UTF-8 encoding (`Go.utf8`, the conversion
`[]byte(s)`), which determines it (`utf8_injective`).

The functions of package `strings` here search for one byte, which is how Go implements them for the ASCII
separators the callers pass; `Go.Utf8.decodeRune` is `utf8.DecodeRuneInString`.
-/

namespace Go

/-- `[]byte(s)` for a Lean string: its UTF-8 encoding. -/
def utf8 (s : String) : List UInt8 := s.toList.flatMap String.utf8EncodeChar

theorem utf8_injective : Function.Injective utf8 := by
  intro s t h
  have hb : s.toList.utf8Encode = t.toList.utf8Encode := by
    simp only [List.utf8Encode]
    exact congrArg List.toByteArray h
  rw [String.utf8Encode_toList, String.utf8Encode_toList] at hb
  exact String.toByteArray_inj.mp hb

namespace Strings

/-- `strings.HasPrefix(s, prefix)`. -/
def hasPrefix (s pre : List UInt8) : Bool := pre.isPrefixOf s

/-- `strings.HasSuffix(s, suffix)`. -/
def hasSuffix (s suf : List UInt8) : Bool := suf.isSuffixOf s

/-- `strings.TrimPrefix(s, prefix)`. -/
def trimPrefix (s pre : List UInt8) : List UInt8 := if pre.isPrefixOf s then s.drop pre.length else s

/-- `strings.IndexByte(s, c)`, with `none` for -1. -/
def indexByte : List UInt8 → UInt8 → Option Nat
  | [], _ => none
  | b :: s, c => if b = c then some 0 else (indexByte s c).map (· + 1)

/-- `strings.LastIndexByte(s, c)`, with `none` for -1. -/
def lastIndexByte : List UInt8 → UInt8 → Option Nat
  | [], _ => none
  | b :: s, c =>
    match lastIndexByte s c with
    | some i => some (i + 1)
    | none => if b = c then some 0 else none

/-- `strings.Index(s, substr)`, with `none` for -1. -/
def index : List UInt8 → List UInt8 → Option Nat
  | [], sub => if sub = [] then some 0 else none
  | b :: s, sub => if sub.isPrefixOf (b :: s) then some 0 else (index s sub).map (· + 1)

/-- `strings.Cut(s, sep)` for a one-byte separator: before and after its first occurrence, and whether there is one. -/
def cut (s : List UInt8) (sep : UInt8) : List UInt8 × List UInt8 × Bool :=
  match indexByte s sep with
  | some i => (s.take i, s.drop (i + 1), true)
  | none => (s, [], false)

/-- `strings.Split(s, sep)` for a one-byte separator: the pieces between its occurrences, one more than there are. -/
def split : List UInt8 → UInt8 → List (List UInt8)
  | [], _ => [[]]
  | b :: s, sep =>
    if b = sep then [] :: split s sep
    else
      match split s sep with
      | e :: es => (b :: e) :: es
      | [] => [[b]]

/-- `strings.ContainsAny(s, chars)` for ASCII `chars`. -/
def containsAny (s : List UInt8) (chars : String) : Bool := s.any (· ∈ utf8 chars)

/-- `strings.ToLower(s)` on ASCII bytes. -/
def toLower (s : List UInt8) : List UInt8 :=
  s.map fun c => if 'A'.toUInt8 ≤ c ∧ c ≤ 'Z'.toUInt8 then c + 32 else c

example : split (utf8 "abc.example.io") '.'.toUInt8 = [utf8 "abc", utf8 "example", utf8 "io"] := by decide
example : split [] '.'.toUInt8 = [[]] := by decide

/-- `unicode.IsSpace(r)`: the Latin-1 spaces, and above them the other runes of Unicode's `White_Space`. -/
def isSpace (c : Char) : Bool :=
  let r := c.toNat
  if r ≤ 0xFF then r = 0x09 || r = 0x0A || r = 0x0B || r = 0x0C || r = 0x0D || r = 0x20 || r = 0x85 || r = 0xA0
  else r = 0x1680 || (0x2000 ≤ r && r ≤ 0x200A) || r = 0x2028 || r = 0x2029 || r = 0x202F || r = 0x205F || r = 0x3000

/-- `strings.TrimSpace(s)` on a string of valid UTF-8, as a Lean string is: the leading and trailing runes
`unicode.IsSpace` accepts are cut. -/
def trimSpace (s : String) : String := String.ofList ((s.toList.dropWhile isSpace).reverse.dropWhile isSpace).reverse

/-- `unicode.ToUpper(r)` for a rune below U+0100, which is all `string(b)` of a byte can give: the ASCII and Latin-1
lower-case letters are upper-cased (`µ` to `Μ`, `ÿ` to `Ÿ`), and `ß` and every other rune stay. -/
def toUpperLatin1 (r : Nat) : Nat :=
  if 0x61 ≤ r ∧ r ≤ 0x7a then r - 0x20
  else if r = 0xb5 then 0x39c
  else if 0xe0 ≤ r ∧ r ≤ 0xfe ∧ r ≠ 0xf7 then r - 0x20
  else if r = 0xff then 0x178
  else r

end Strings

namespace Utf8

/-- `utf8.RuneError`, U+FFFD. -/
def runeError : Nat := 0xFFFD

/-- A byte within `[lo, hi]`. -/
def inRange (lo hi : UInt8) (b : UInt8) : Bool := lo ≤ b && b ≤ hi

/-- What the tables `first` and `acceptRanges` say of a byte that is not ASCII: the width of the rune it starts and the
range of the byte after it, or nothing when it starts no rune. -/
def first (b : UInt8) : Option (Nat × UInt8 × UInt8) :=
  if b < 0xC2 then none
  else if b < 0xE0 then some (2, 0x80, 0xBF)
  else if b = 0xE0 then some (3, 0xA0, 0xBF)
  else if b = 0xED then some (3, 0x80, 0x9F)
  else if b < 0xF0 then some (3, 0x80, 0xBF)
  else if b = 0xF0 then some (4, 0x90, 0xBF)
  else if b < 0xF4 then some (4, 0x80, 0xBF)
  else if b = 0xF4 then some (4, 0x80, 0x8F)
  else none

/-- `s` starts with `n` continuation bytes, the first in `[lo, hi]` and the others in `[0x80, 0xBF]`. -/
def continuation (lo hi : UInt8) : Nat → List UInt8 → Bool
  | 0, _ => true
  | _ + 1, [] => false
  | n + 1, b :: s => inRange lo hi b && continuation 0x80 0xBF n s

/-- `utf8.DecodeRuneInString(s)`: the first rune of `s` and its width in bytes; `RuneError` of width 1 on a byte that
starts no valid encoding (an overlong one, a surrogate, one past U+10FFFF or one cut short), and of width 0 on the empty
string. -/
def decodeRune : List UInt8 → Nat × Nat
  | [] => (runeError, 0)
  | b :: s =>
    if b < 0x80 then (b.toNat, 1)
    else
      match first b with
      | none => (runeError, 1)
      | some (size, lo, hi) =>
        if continuation lo hi (size - 1) s then
          ((s.take (size - 1)).foldl (fun r x => r * 64 + x.toNat % 64) (b.toNat % 2 ^ (7 - size)), size)
        else (runeError, 1)

/-- The bytes `continuation` accepts are at least 0x80. -/
theorem le_of_continuation {lo hi : UInt8} {n : Nat} {s : List UInt8} (hlo : 0x80 ≤ lo)
    (h : continuation lo hi n s = true) : ∀ x ∈ s.take n, 0x80 ≤ x := by
  induction n generalizing lo hi s with
  | zero => simp
  | succ n ih =>
    rcases s with _ | ⟨b, s⟩
    · cases h
    · simp only [continuation, inRange, Bool.and_eq_true, decide_eq_true_eq] at h
      intro x hx
      rw [List.take_succ_cons, List.mem_cons] at hx
      rcases hx with rfl | hx
      · exact UInt8.le_trans hlo h.1.1
      · exact ih (UInt8.le_refl _) h.2 x hx

theorem le_of_first_toUInt8 : ∀ n < 256, (first n.toUInt8).all (fun p => 0x80 ≤ p.2.1) = true := by
  decide +kernel

/-- After a first byte that is not ASCII, the bytes of a rune `decodeRune` accepts are continuation bytes. -/
theorem decodeRune_continuation {b : UInt8} {s : List UInt8} (hb : 0x80 ≤ b) (h : decodeRune (b :: s) ≠ (runeError, 1)) :
    ∀ x ∈ s.take ((decodeRune (b :: s)).2 - 1), 0x80 ≤ x := by
  have hb' : ¬b < 0x80 := UInt8.not_lt.mpr hb
  simp only [decodeRune, hb', if_false] at h ⊢
  rcases hf : first b with _ | ⟨size, lo, hi⟩
  · rw [hf] at h
    exact absurd rfl h
  · rw [hf] at h
    dsimp only at h ⊢
    have hlo : 0x80 ≤ lo := by
      have h256 := le_of_first_toUInt8 b.toNat (UInt8.toNat_lt b)
      rw [show b.toNat.toUInt8 = b from UInt8.ofNat_toNat, hf] at h256
      simpa using h256
    by_cases hc : continuation lo hi (size - 1) s = true
    · rw [if_pos hc]
      exact le_of_continuation hlo hc
    · rw [if_neg hc] at h
      exact absurd rfl h

example : decodeRune (utf8 "é") = (0xE9, 2) := by decide
example : decodeRune [0xE2, 0x80, 0xA8] = (0x2028, 3) := by decide
example : decodeRune [0xED, 0xA0, 0x80] = (runeError, 1) := by decide

end Utf8

end Go
