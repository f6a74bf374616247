import MultiarchTuning.Go.Strings

/-!
# `filepath.Match`

`filepath.Match(pattern, name)` on Unix, after the source of package `path/filepath`. The pattern is split into
chunks, each a run of single-character operators (literal bytes, `?`, classes `[...]` and escapes `\c`) after an
optional run of stars (`scanChunk`). A chunk matches at the start of the name (`matchChunk`); after a star it may also
match after skipping bytes of the name, but never a `/`. The matching is byte by byte, except that `?` and a class
read one rune (`Go.Utf8.decodeRune`). A malformed pattern is `ErrBadPattern`, also when the name fails to match
before the malformed part is reached: the rest of the pattern is checked then.

The loops over chunks and over class ranges take fuel, their pattern's length: each round consumes at least a byte.
-/

namespace Go

namespace Filepath

open Utf8

/-- `filepath.ErrBadPattern`. -/
inductive BadPattern where
  | errBadPattern
  deriving DecidableEq, Repr

/-- `filepath.Separator` on Unix. -/
def separator : UInt8 := '/'.toUInt8

/-- The scan of `scanChunk` after the stars: up to a star outside a class; a backslash takes the byte after it. -/
def scanChunkBody (inrange : Bool) : List UInt8 → List UInt8 × List UInt8
  | [] => ([], [])
  | c :: rest =>
    if c = '\\'.toUInt8 then
      match rest with
      | d :: rest' =>
        let (chunk, rest'') := scanChunkBody inrange rest'
        (c :: d :: chunk, rest'')
      | [] => ([c], [])
    else if c = '['.toUInt8 then
      let (chunk, rest') := scanChunkBody true rest
      (c :: chunk, rest')
    else if c = ']'.toUInt8 then
      let (chunk, rest') := scanChunkBody false rest
      (c :: chunk, rest')
    else if c = '*'.toUInt8 && !inrange then ([], c :: rest)
    else
      let (chunk, rest') := scanChunkBody inrange rest
      (c :: chunk, rest')

/-- `scanChunk(pattern)`: whether stars come first, the next chunk, and the rest of the pattern. -/
def scanChunk (pattern : List UInt8) : Bool × List UInt8 × List UInt8 :=
  let (chunk, rest) := scanChunkBody false (pattern.dropWhile (· = '*'.toUInt8))
  (pattern.head? = some '*'.toUInt8, chunk, rest)

/-- `getEsc(chunk)`: the rune of a class bound, escaped or not, and the rest of the chunk, which may not be empty. -/
def getEsc (chunk : List UInt8) : Except BadPattern (Nat × List UInt8) :=
  match chunk with
  | [] => .error .errBadPattern
  | c :: rest =>
    if c = '-'.toUInt8 || c = ']'.toUInt8 then .error .errBadPattern
    else
      let chunk := if c = '\\'.toUInt8 then rest else c :: rest
      if chunk = [] then .error .errBadPattern
      else
        let (r, n) := decodeRune chunk
        if (r = runeError && n = 1) || chunk.drop n = [] then .error .errBadPattern
        else .ok (r, chunk.drop n)

/-- The ranges of a class, up to its closing bracket: whether the rune `r` falls in one (or `hit`, already), and the
rest of the chunk. The fuel is the chunk's length. -/
def matchRanges (r : Nat) : Nat → List UInt8 → Nat → Bool → Except BadPattern (Bool × List UInt8)
  | 0, _, _, _ => .error .errBadPattern
  | fuel + 1, chunk, nrange, hit =>
    if chunk.head? = some ']'.toUInt8 && nrange > 0 then .ok (hit, chunk.drop 1)
    else do
      let (lo, chunk) ← getEsc chunk
      let (hi, chunk) ← if chunk.head? = some '-'.toUInt8 then getEsc (chunk.drop 1) else pure (lo, chunk)
      matchRanges r fuel chunk (nrange + 1) (hit || (lo ≤ r && r ≤ hi))

/-- The loop of `matchChunk` over the chunk, with the rest of the name and whether the match has failed, after
which the chunk is still checked but the name no longer read. The fuel is the chunk's length. -/
def matchChunkFrom : Nat → List UInt8 → List UInt8 → Bool → Except BadPattern (Option (List UInt8))
  | _, [], s, failed => .ok (if failed then none else some s)
  | 0, _ :: _, _, _ => .error .errBadPattern
  | fuel + 1, c :: chunk, s, failed =>
    let failed := failed || s = []
    if c = '['.toUInt8 then
      let (r, s) := if failed then (0, s) else ((decodeRune s).1, s.drop (decodeRune s).2)
      let (negated, chunk) := if chunk.head? = some '^'.toUInt8 then (true, chunk.drop 1) else (false, chunk)
      match matchRanges r (chunk.length + 1) chunk 0 false with
      | .error e => .error e
      | .ok (hit, chunk) => matchChunkFrom fuel chunk s (failed || hit == negated)
    else if c = '?'.toUInt8 then
      if failed then matchChunkFrom fuel chunk s failed
      else matchChunkFrom fuel chunk (s.drop (decodeRune s).2) (s.head? = some separator)
    else if c = '\\'.toUInt8 then
      match chunk with
      | [] => .error .errBadPattern
      | d :: chunk =>
        if failed then matchChunkFrom fuel chunk s failed else matchChunkFrom fuel chunk (s.drop 1) (s.head? ≠ some d)
    else if failed then matchChunkFrom fuel chunk s failed
    else matchChunkFrom fuel chunk (s.drop 1) (s.head? ≠ some c)

/-- `matchChunk(chunk, s)`: the rest of `s` after the chunk matched at its start, or `none`. -/
def matchChunk (chunk s : List UInt8) : Except BadPattern (Option (List UInt8)) :=
  matchChunkFrom (chunk.length + 1) chunk s false

/-- The check `Match` makes of the rest of the pattern before it returns false. The fuel is the pattern's length. -/
def checkRest : Nat → List UInt8 → Except BadPattern Unit
  | 0, _ => .ok ()
  | fuel + 1, pattern =>
    if pattern = [] then .ok ()
    else
      match matchChunk (scanChunk pattern).2.1 [] with
      | .error e => .error e
      | .ok _ => checkRest fuel (scanChunk pattern).2.2

/-- The loop after a star: the chunk matched after skipping bytes of the name other than `/`, the first time it does
(and, for the last chunk, exhausts the name). -/
def skipMatch (chunk : List UInt8) (last : Bool) : List UInt8 → Except BadPattern (Option (List UInt8))
  | [] => .ok none
  | c :: rest =>
    if c = separator then .ok none
    else
      match matchChunk chunk rest with
      | .ok (some t) => if last && t ≠ [] then skipMatch chunk last rest else .ok (some t)
      | .ok none => skipMatch chunk last rest
      | .error e => .error e

/-- The loop of `Match` over the chunks of the pattern. The fuel is the pattern's length. -/
def matchFrom : Nat → List UInt8 → List UInt8 → Except BadPattern Bool
  | 0, _, _ => .error .errBadPattern
  | fuel + 1, pattern, name =>
    if pattern = [] then .ok (name = [])
    else
      let (star, chunk, pattern) := scanChunk pattern
      if star && chunk = [] then .ok (!name.contains separator)
      else
        -- no match at the start, or the last chunk left bytes of the name: skip after a star, else fail
        let skipped : Except BadPattern (Option (List UInt8)) :=
          if star then skipMatch chunk (pattern = []) name else .ok none
        match matchChunk chunk name with
        | .error e => .error e
        | .ok (some t) =>
          if t = [] || pattern ≠ [] then matchFrom fuel pattern t
          else
            match skipped with
            | .error e => .error e
            | .ok (some t) => matchFrom fuel pattern t
            | .ok none => (checkRest (pattern.length + 1) pattern).map fun _ => false
        | .ok none =>
          match skipped with
          | .error e => .error e
          | .ok (some t) => matchFrom fuel pattern t
          | .ok none => (checkRest (pattern.length + 1) pattern).map fun _ => false

/-- `filepath.Match(pattern, name)`. -/
def «match» (pattern name : List UInt8) : Except BadPattern Bool := matchFrom (pattern.length + 1) pattern name

example : «match» (utf8 "*") (utf8 "abc") = .ok true := by decide +kernel
example : «match» (utf8 "ab*") (utf8 "abc") = .ok true := by decide +kernel
example : «match» (utf8 "a[b-c]") (utf8 "ac") = .ok true := by decide +kernel
example : «match» (utf8 "a?") (utf8 "a/") = .ok false := by decide +kernel
example : «match» (utf8 "x*[") (utf8 "abc") = .error .errBadPattern := by decide +kernel

end Filepath

end Go
