import MultiarchTuning.Go.Strings
import MultiarchTuning.Codes.SuffixFree

/-!
# The string encoding of `encoding/json`, and a lexer for its output

`json.Marshal` writes a Go string as `appendString` does with HTML escaping on, the default of `Marshal`: between
quotes, each ASCII byte outside `htmlSafeSet` escaped (`\"`, `\\`, the short escapes of `\b`, `\f`, `\n`, `\r` and
`\t`, and `\u00XX` for the other control bytes and for `<`, `>` and `&`), a byte that starts no valid UTF-8 encoding as
`\ufffd`, the runes U+2028 and U+2029 as `\u2028` and `\u2029`, and every other rune as its bytes.

JSON text is read here the way a lexer reads it, in one of three states: outside strings, inside a string, or just
after a backslash inside one (`Lex`). The skeleton of a text is what the lexer reads outside strings, the quote that
opens each string included. An encoded string leaves the lexer outside, where it started, and adds only its opening
quote to the skeleton (`run_appendString`, `skeleton_appendString`): every quote and backslash of the string is escaped,
and the bytes copied from a multi-byte rune are continuation bytes, of at least 0x80 (`decodeRune_continuation`).

The skeleton is what makes a text recognisable behind an arbitrary prefix. If the skeletons of a set of texts are
primitive over the braces, and each text, read from inside a string, puts into the skeleton a byte that no skeleton
read from outside holds, then no text of the set ends another (`suffixFree_of_skeleton`).
-/

namespace Go

open Utf8

namespace Json

/-- `hex`, in lower case. -/
def hex (n : UInt8) : UInt8 := if n < 10 then '0'.toUInt8 + n else 'a'.toUInt8 + (n - 10)

/-- `htmlSafeSet[b]` for an ASCII byte: printable, and not `"`, `\`, `<`, `>` or `&`. -/
def htmlSafe (b : UInt8) : Bool := 0x20 ≤ b && !(b ∈ utf8 "\"\\<>&")

/-- What `appendString` writes for an ASCII byte. -/
def escapeByte (b : UInt8) : List UInt8 :=
  if htmlSafe b then [b]
  else if b = '\\'.toUInt8 || b = '"'.toUInt8 then ['\\'.toUInt8, b]
  else if b = 0x08 then utf8 "\\b"
  else if b = 0x0C then utf8 "\\f"
  else if b = '\n'.toUInt8 then utf8 "\\n"
  else if b = '\r'.toUInt8 then utf8 "\\r"
  else if b = '\t'.toUInt8 then utf8 "\\t"
  else utf8 "\\u00" ++ [hex (b / 16), hex (b % 16)]

/-- The loop of `appendString` over the bytes of a string. `pending` bytes of the rune read last are still to be copied,
or skipped when `copy` is false, after `\u2028` or `\u2029` was written for the rune. -/
def stringBytes : Nat → Bool → List UInt8 → List UInt8
  | _, _, [] => []
  | pending + 1, copy, b :: s => (if copy then [b] else []) ++ stringBytes pending copy s
  | 0, _, b :: s =>
    if b < 0x80 then escapeByte b ++ stringBytes 0 true s
    else if decodeRune (b :: s) = (runeError, 1) then utf8 "\\ufffd" ++ stringBytes 0 true s
    else if (decodeRune (b :: s)).1 = 0x2028 || (decodeRune (b :: s)).1 = 0x2029 then
      utf8 "\\u202" ++ [hex ((decodeRune (b :: s)).1 % 16).toUInt8] ++
        stringBytes ((decodeRune (b :: s)).2 - 1) false s
    else b :: stringBytes ((decodeRune (b :: s)).2 - 1) true s

/-- `appendString(nil, s, true)`: the string `s` encoded, in quotes. -/
def appendString (s : List UInt8) : List UInt8 := '"'.toUInt8 :: stringBytes 0 true s ++ ['"'.toUInt8]

example : appendString (utf8 "a\"<é") = utf8 "\"a\\\"\\u003cé\"" := by decide +kernel
example : appendString [0xFF, 0xE2, 0x80, 0xA8] = utf8 "\"\\ufffd\\u2028\"" := by decide +kernel

/-! ## A lexer for JSON text -/

/-- Where a JSON lexer is: outside strings, inside one, or just after a backslash inside one. -/
inductive Lex where
  | out
  | str
  | esc
  deriving DecidableEq, Repr

namespace Lex

def step : Lex → UInt8 → Lex
  | .out, b => if b = '"'.toUInt8 then .str else .out
  | .str, b => if b = '"'.toUInt8 then .out else if b = '\\'.toUInt8 then .esc else .str
  | .esc, _ => .str

/-- The state after reading `s`. -/
def run (q : Lex) (s : List UInt8) : Lex := s.foldl step q

/-- The bytes read outside strings, the quote that opens each string included. -/
def skeleton : Lex → List UInt8 → List UInt8
  | _, [] => []
  | q, b :: s => (if q = .out then [b] else []) ++ (q.step b).skeleton s

@[simp] theorem run_cons (q : Lex) (b : UInt8) (s : List UInt8) : q.run (b :: s) = (q.step b).run s := rfl

@[simp] theorem run_append (q : Lex) (u v : List UInt8) : q.run (u ++ v) = (q.run u).run v := List.foldl_append

theorem skeleton_cons (q : Lex) (b : UInt8) (s : List UInt8) :
    q.skeleton (b :: s) = (if q = .out then [b] else []) ++ (q.step b).skeleton s := rfl

theorem skeleton_append (q : Lex) (u v : List UInt8) : q.skeleton (u ++ v) = q.skeleton u ++ (q.run u).skeleton v := by
  induction u generalizing q with
  | nil => rfl
  | cons b u ih => rw [List.cons_append, skeleton_cons, skeleton_cons, ih, run_cons, List.append_assoc]

/-- Outside strings, the first byte read is in the skeleton. -/
theorem skeleton_out_cons (b : UInt8) (s : List UInt8) : out.skeleton (b :: s) = b :: (out.step b).skeleton s := rfl

end Lex

open Go.Json.Lex

/-- Bytes that the lexer reads inside a string, and after which it is still inside: nothing in them ends it. -/
def InString (w : List UInt8) : Prop := str.run w = .str ∧ str.skeleton w = []

instance (w : List UInt8) : Decidable (InString w) :=
  inferInstanceAs (Decidable (str.run w = .str ∧ str.skeleton w = []))

theorem inString_nil : InString [] := ⟨rfl, rfl⟩

theorem InString.append {u v : List UInt8} (hu : InString u) (hv : InString v) : InString (u ++ v) := by
  refine ⟨by rw [run_append, hu.1, hv.1], ?_⟩
  rw [skeleton_append, hu.2, hu.1, hv.2]
  rfl

/-- A byte that is no quote and no backslash. -/
theorem inString_plain {b : UInt8} (hq : b ≠ '"'.toUInt8) (hb : b ≠ '\\'.toUInt8) : InString [b] := by
  have hs : str.step b = .str := by simp [step, hq, hb]
  exact ⟨by rw [run_cons, hs]; rfl, by rw [skeleton_cons, hs]; rfl⟩

theorem inString_of_ge {b : UInt8} (hb : 0x80 ≤ b) : InString [b] := by
  apply inString_plain
  · intro h
    rw [h] at hb
    exact absurd hb (by decide)
  · intro h
    rw [h] at hb
    exact absurd hb (by decide)

theorem hex_ne_toUInt8 : ∀ k < 16, hex k.toUInt8 ≠ '"'.toUInt8 ∧ hex k.toUInt8 ≠ '\\'.toUInt8 := by
  decide

theorem inString_escapeByte_toUInt8 : ∀ n < 256, InString (escapeByte n.toUInt8) := by
  decide +kernel

theorem inString_escapeByte (b : UInt8) : InString (escapeByte b) := by
  have h := inString_escapeByte_toUInt8 b.toNat (UInt8.toNat_lt b)
  rwa [show b.toNat.toUInt8 = b from UInt8.ofNat_toNat] at h

/-- The loop of `appendString` writes bytes that keep the lexer inside the string, provided the bytes still to copy
are continuation bytes. -/
theorem inString_stringBytes :
    ∀ (s : List UInt8) (pending : Nat) (copy : Bool), (copy = true → ∀ x ∈ s.take pending, 0x80 ≤ x) →
      InString (stringBytes pending copy s) := by
  intro s
  induction s with
  | nil => intro _ _ _; exact inString_nil
  | cons b s ih =>
    intro pending copy hcont
    cases pending with
    | succ pending =>
      -- a byte of the rune read last: copied only when it is a continuation byte
      have hrest : copy = true → ∀ x ∈ s.take pending, 0x80 ≤ x :=
        fun hc x hx => hcont hc x (by rw [List.take_succ_cons]; exact List.mem_cons_of_mem b hx)
      rw [stringBytes]
      cases copy with
      | false => exact ih pending false hrest
      | true =>
        exact (inString_of_ge (hcont rfl b (by simp))).append (ih pending true hrest)
    | zero =>
      rw [stringBytes]
      split_ifs with hascii herr hsep
      · exact (inString_escapeByte b).append (ih 0 true (by simp))
      · exact InString.append (by decide) (ih 0 true (by simp))
      · have hd := hex_ne_toUInt8 ((decodeRune (b :: s)).1 % 16) (Nat.mod_lt _ (by decide))
        refine (InString.append ?_ (inString_plain hd.1 hd.2)).append (ih _ false (by simp))
        decide
      · have hb : 0x80 ≤ b := UInt8.not_lt.mp hascii
        exact (inString_of_ge hb).append (ih _ true fun _ => decodeRune_continuation hb herr)

theorem run_appendString (s : List UInt8) : out.run (appendString s) = .out := by
  have h := inString_stringBytes s 0 true (by simp)
  simp only [appendString, run_cons, run_append]
  rw [show out.step '"'.toUInt8 = .str by decide, h.1]
  rfl

theorem skeleton_appendString (s : List UInt8) : out.skeleton (appendString s) = ['"'.toUInt8] := by
  have h := inString_stringBytes s 0 true (by simp)
  rw [appendString, List.cons_append, skeleton_out_cons, show out.step '"'.toUInt8 = .str by decide, skeleton_append,
    h.2, h.1]
  rfl

/-! ## Text read from outside strings back to outside -/

/-- The lexer reads `w` from outside strings back to outside, with the skeleton `s`. -/
def Reads (w s : List UInt8) : Prop := out.run w = .out ∧ out.skeleton w = s

instance (w s : List UInt8) : Decidable (Reads w s) :=
  inferInstanceAs (Decidable (out.run w = .out ∧ out.skeleton w = s))

theorem Reads.append {u v s t : List UInt8} (hu : Reads u s) (hv : Reads v t) : Reads (u ++ v) (s ++ t) :=
  ⟨by rw [run_append, hu.1, hv.1], by rw [skeleton_append, hu.2, hu.1, hv.2]⟩

theorem reads_appendString (s : List UInt8) : Reads (appendString s) ['"'.toUInt8] :=
  ⟨run_appendString s, skeleton_appendString s⟩

/-- Texts of one skeleton joined by a separator: the skeletons are joined by the separator's. -/
theorem Reads.intercalate {sep t s : List UInt8} (hsep : Reads sep t) :
    ∀ {ws : List (List UInt8)}, (∀ w ∈ ws, Reads w s) →
      Reads (sep.intercalate ws) (t.intercalate (List.replicate ws.length s))
  | [], _ => ⟨rfl, rfl⟩
  | [w], h => by
    rw [List.intercalate_singleton, List.length_singleton, List.replicate_one, List.intercalate_singleton]
    exact h w List.mem_cons_self
  | w :: w' :: ws, h => by
    have ih := Reads.intercalate hsep fun v (hv : v ∈ w' :: ws) => h v (List.mem_cons_of_mem w hv)
    rw [List.length_cons, List.replicate_succ] at ih
    rw [List.intercalate_cons_cons, List.length_cons, List.replicate_succ, List.length_cons, List.replicate_succ,
      List.intercalate_cons_cons]
    exact ((h w List.mem_cons_self).append hsep).append ih

/-- `{`. -/
def openBrace : UInt8 := 0x7B

/-- `}`. -/
def closeBrace : UInt8 := 0x7D

/-- Texts whose skeletons are primitive over the braces and never hold the byte `b₀`, and each of which, read from
inside a string, puts `b₀` into the skeleton: no such text ends another, whatever state the lexer is in where it starts
(`Codes.suffixFree_primitive` where it starts outside strings). -/
theorem suffixFree_of_skeleton (b₀ : UInt8) (W : Set (List UInt8))
    (hprim : ∀ w ∈ W, Codes.Primitive openBrace closeBrace (out.skeleton w))
    (hout : ∀ w ∈ W, b₀ ∉ out.skeleton w) (hin : ∀ w ∈ W, ∀ q, q ≠ Lex.out → b₀ ∈ q.skeleton w) :
    Codes.SuffixFree W := by
  intro u hu v hv x hx
  have hsk : out.skeleton u = out.skeleton x ++ (out.run x).skeleton v := by rw [hx, skeleton_append]
  by_cases hq : out.run x = .out
  · rw [hq] at hsk
    have hx' : out.skeleton x = [] := Codes.suffixFree_primitive _ (hprim u hu) _ (hprim v hv) _ hsk
    rcases x with _ | ⟨b, x⟩
    · rfl
    · rw [skeleton_out_cons] at hx'
      exact absurd hx' (List.cons_ne_nil _ _)
  · exact absurd (by rw [hsk]; exact List.mem_append_right _ (hin v hv _ hq)) (hout u hu)

end Json

end Go
