import MultiarchTuning.Go.Url
import MultiarchTuning.Go.Match
import MultiarchTuning.Go.Json
import Mathlib.Data.List.AList
import Mathlib.Data.List.Sort

/-!
# Pull-secret credentials

`pkg/image/auth.go` and the globbing helpers of `helpers_glob.go`, which `marshaledImagePullSecrets` of
`pkg/image/inspector.go` composes: the credentials of every pull secret of a pod are stored into one `authCfg`, the
registry globs among its keys are expanded for the image being inspected, and the result is marshalled into the auth
file handed to the registry client. The same bytes are what the cache of `cache.go` hashes.

A map of the code is an `AList` keyed by the registry's bytes. Go ranges over a map in an order of its own choosing.
`addAuths` ranges over a map it does not change, where the order makes no difference, but `expandGlobs` adds to the
map it ranges over, and takes the order as a parameter (`IsRangeOrder`). The decoding of
`json.Unmarshal` is a parameter too (`unmarshal`): what it reads is the secrets' text. `json.Marshal` of an `authCfg` is
modelled exactly, as the string encoding of `Go.Json` with the keys in sorted order.
-/

namespace MultiarchTuning

namespace Image

open Go Go.Strings

/-- `authData`. -/
structure AuthData where
  auth : List UInt8
  deriving DecidableEq, Repr

/-- A `map[string]authData`. -/
abbrev Auths := AList fun _ : List UInt8 => AuthData

/-- `authCfg`. The code makes its map before it stores into it, so the map is never nil. -/
structure AuthCfg where
  auths : Auths

namespace AuthCfg

/-- `ac.addAuth(registry, auth)`. -/
def addAuth (ac : AuthCfg) (registry : List UInt8) (auth : AuthData) : AuthCfg := ⟨ac.auths.insert registry auth⟩

/-- `ac.addAuths(registryAuths)`, ranging over the entries in the order the map holds them. -/
def addAuths (ac : AuthCfg) (registryAuths : Auths) : AuthCfg :=
  registryAuths.entries.foldl (fun ac e => ac.addAuth e.1 e.2) ac

/-- `ac.unmarshallAuthsDataAndStore(authsBytes)`, with `unmarshal` the decoding of `json.Unmarshal`: nothing is stored
when it fails. -/
def unmarshallAuthsDataAndStore (unmarshal : List UInt8 → Except String Auths) (ac : AuthCfg)
    (authsBytes : List UInt8) : Except String AuthCfg :=
  match unmarshal authsBytes with
  | .error e => .error e
  | .ok auths => .ok (ac.addAuths auths)

/-- The order `json.Marshal` writes the keys of a map in: as strings, byte by byte. -/
def keyLE (a b : Sigma fun _ : List UInt8 => AuthData) : Prop := a.1 ≤ b.1

instance : DecidableRel keyLE := fun a b => inferInstanceAs (Decidable (a.1 ≤ b.1))

/-- What `json.Marshal` writes for one entry of the map: the key, and the `authData` as an object. -/
def marshalEntry (e : Sigma fun _ : List UInt8 => AuthData) : List UInt8 :=
  Json.appendString e.1 ++ utf8 ":\x7b\"auth\":" ++ Json.appendString e.2.auth ++ utf8 "\x7d"

/-- `ac.marshallAuths()`, that is `json.Marshal(ac)`, which cannot fail on an `authCfg`: every value is a string. -/
def marshallAuths (ac : AuthCfg) : List UInt8 :=
  utf8 "\x7b\"auths\":\x7b" ++ List.intercalate (utf8 ",") ((ac.auths.entries.insertionSort keyLE).map marshalEntry) ++
    utf8 "\x7d\x7d"

end AuthCfg

/-! ## The globbing helpers -/

/-- The errors `URLsMatchStr` passes on: of `url.Parse`, or `filepath.ErrBadPattern`. -/
inductive MatchError where
  | parse (e : Url.Error)
  | badPattern
  deriving DecidableEq, Repr

/-- `ParseSchemelessURL(schemelessURL)`: `url.Parse` of the URL with `https://` in front, and the scheme then
cleared. -/
def parseSchemelessURL (schemelessURL : List UInt8) : Except Url.Error Url.URL :=
  (Url.parse (utf8 "https://" ++ schemelessURL)).map fun parsed => { parsed with scheme := [] }

/-- `SplitURL(url)`: the host's parts between dots, and the port, which is empty where `net.SplitHostPort` fails. -/
def splitURL (url : Url.URL) : List (List UInt8) × List UInt8 :=
  let (host, port) :=
    match Net.splitHostPort url.host with
    | .ok hp => hp
    | .error _ => (url.host, [])
  (split host '.'.toUInt8, port)

/-- The loop of `URLsMatch` over the host parts: each part of the glob matches the target's part of its index under
`filepath.Match`. -/
def partsMatch : List (List UInt8) → List (List UInt8) → Except Filepath.BadPattern Bool
  | globURLPart :: globURLParts, targetURLPart :: targetURLParts =>
    match Filepath.«match» globURLPart targetURLPart with
    | .error e => .error e
    | .ok false => .ok false
    | .ok true => partsMatch globURLParts targetURLParts
  | _, _ => .ok true

/-- `URLsMatch(globURL, targetURL)`: the same port, as many host parts, the glob's path a prefix of the target's, and
every host part matched. -/
def urlsMatch (globURL targetURL : Url.URL) : Except Filepath.BadPattern Bool :=
  let (globURLParts, globPort) := splitURL globURL
  let (targetURLParts, targetPort) := splitURL targetURL
  if globPort ≠ targetPort then .ok false
  else if globURLParts.length ≠ targetURLParts.length then .ok false
  else if !Strings.hasPrefix targetURL.path globURL.path then .ok false
  else partsMatch globURLParts targetURLParts

/-- `URLsMatchStr(glob, target)`. -/
def urlsMatchStr (glob target : List UInt8) : Except MatchError Bool := do
  let globURL ← (parseSchemelessURL glob).mapError .parse
  let targetURL ← (parseSchemelessURL target).mapError .parse
  (urlsMatch globURL targetURL).mapError fun _ => .badPattern

/-- `matchAndExpandGlob(registryGlob, imageReference)`: for a glob that matches the image, the glob with the image's
host in place of its own. -/
def matchAndExpandGlob (registryGlob imageReference : List UInt8) : List UInt8 × Bool :=
  if !containsAny registryGlob "*?]" then ([], false)
  else
    let imageReference := trimPrefix imageReference (utf8 "//")
    match urlsMatchStr registryGlob imageReference with
    | .ok true =>
      match parseSchemelessURL imageReference, parseSchemelessURL registryGlob with
      | .ok irURL, .ok regURL => (trimPrefix (Url.URL.string { regURL with host := irURL.host }) (utf8 "//"), true)
      | _, _ => ([], false)
    | _ => ([], false)

example : matchAndExpandGlob (utf8 "*.example.io") (utf8 "//abc.example.io/app") = (utf8 "abc.example.io", true) := by
  decide +kernel
example : matchAndExpandGlob (utf8 "*.example.io") (utf8 "//example.io/app") = ([], false) := by
  decide +kernel

/-! ## Expanding the globs -/

namespace AuthCfg

/-- One round of the loop of `ac.expandGlobs(imageReference)`, on the key `registry`: when the glob matches the image,
its expansion is added with the glob's credentials, unless the map has that key already. A key the map does not hold is
passed over. -/
def expandGlob (imageReference : List UInt8) (auths : Auths) (registry : List UInt8) : Auths :=
  match auths.lookup registry with
  | none => auths
  | some auth =>
    let (regURL, ok) := matchAndExpandGlob registry imageReference
    if ok && regURL.length > 0 && (auths.lookup regURL).isNone then auths.insert regURL auth else auths

/-- `ac.expandGlobs(imageReference)`, its loop visiting the keys in `order`. -/
def expandGlobs (ac : AuthCfg) (imageReference : List UInt8) (order : List (List UInt8)) : AuthCfg :=
  ⟨order.foldl (expandGlob imageReference) ac.auths⟩

end AuthCfg

/-- The orders in which Go's `range` may visit the keys of `auths` while the loop adds to it: no key twice, and every
key the map holds at the start. A key the loop adds may be visited after it is added, or not at all; a key listed
before it is added, or never added, is passed over. -/
def IsRangeOrder (auths : Auths) (order : List (List UInt8)) : Prop := order.Nodup ∧ ∀ k ∈ auths.keys, k ∈ order

instance (auths : Auths) (order : List (List UInt8)) : Decidable (IsRangeOrder auths order) :=
  inferInstanceAs (Decidable (order.Nodup ∧ ∀ k ∈ auths.keys, k ∈ order))

/-! ## Storing credentials -/

namespace AuthCfg

/-- A round on a key the map does not hold changes nothing. -/
theorem expandGlob_of_lookup_none {imageReference registry : List UInt8} {auths : Auths}
    (h : auths.lookup registry = none) : expandGlob imageReference auths registry = auths := by
  simp only [expandGlob, h]

/-- A round on a key the map holds: the expansion is added with that key's credentials when the glob matches and the
expansion is new. -/
theorem expandGlob_of_lookup {imageReference registry regURL : List UInt8} {auths : Auths} {auth : AuthData}
    {ok : Bool} (h : auths.lookup registry = some auth) (hm : matchAndExpandGlob registry imageReference = (regURL, ok)) :
    expandGlob imageReference auths registry =
      if ok && regURL.length > 0 && (auths.lookup regURL).isNone then auths.insert regURL auth else auths := by
  unfold expandGlob
  rw [h]
  dsimp only
  rw [hm]

end AuthCfg

/-- The loop of `marshaledImagePullSecrets` over the secrets, from an empty `authCfg`: a secret that does not decode
is skipped, and a later secret overwrites a registry an earlier one gave. -/
def storeSecrets (unmarshal : List UInt8 → Except String Auths) (secrets : List (List UInt8)) : AuthCfg :=
  secrets.foldl (fun ac secret =>
    match ac.unmarshallAuthsDataAndStore unmarshal secret with
    | .ok ac => ac
    | .error _ => ac) ⟨∅⟩

/-- `marshaledImagePullSecrets(imageReference, secrets)`, the loop of `expandGlobs` visiting the keys in `order`. It
cannot fail, as `marshallAuths` cannot. -/
def marshaledImagePullSecrets (unmarshal : List UInt8 → Except String Auths) (order : List (List UInt8))
    (imageReference : String) (secrets : List (List UInt8)) : List UInt8 :=
  ((storeSecrets unmarshal secrets).expandGlobs (utf8 imageReference) order).marshallAuths

/-! ## The text `marshallAuths` writes

Its skeleton (`Go.Json.Lex.skeleton`) is fixed by the number of entries: every key and value is a string, which adds
only its opening quote. That skeleton is a word of balanced braces that close only at its end, and has no letter;
read from inside a string, the text puts the letters of `auths` into the skeleton. So by `Json.suffixFree_of_skeleton`
no marshalled text ends another one, and a marshalled text after the bytes of an image reference determines both.
-/

namespace AuthCfg

open Go.Json Go.Json.Lex

/-- The skeleton of an entry: the key's quote, `:{"`, the field name's closing `":`, the value's quote, and `}`. -/
def entrySkeleton : List UInt8 := utf8 "\":\x7b\":\"\x7d"

/-- The skeleton of the text of a map of `n` entries. -/
def authsSkeleton (n : Nat) : List UInt8 :=
  utf8 "\x7b\":\x7b" ++ (utf8 ",").intercalate (List.replicate n entrySkeleton) ++ utf8 "\x7d\x7d"

theorem reads_marshalEntry (e : Sigma fun _ : List UInt8 => AuthData) : Reads (marshalEntry e) entrySkeleton := by
  have h := (((reads_appendString e.1).append (show Reads (utf8 ":\x7b\"auth\":") (utf8 ":\x7b\":") by decide)).append
    (reads_appendString e.2.auth)).append (show Reads (utf8 "\x7d") (utf8 "\x7d") by decide)
  have hsk : ['"'.toUInt8] ++ utf8 ":\x7b\":" ++ ['"'.toUInt8] ++ utf8 "\x7d" = entrySkeleton := by decide
  rw [hsk] at h
  exact h

theorem reads_marshallAuths (ac : AuthCfg) : Reads (marshallAuths ac) (authsSkeleton ac.auths.entries.length) := by
  have hentries : ∀ w ∈ (ac.auths.entries.insertionSort keyLE).map marshalEntry, Reads w entrySkeleton := by
    intro w hw
    obtain ⟨e, -, rfl⟩ := List.mem_map.mp hw
    exact reads_marshalEntry e
  have h := ((show Reads (utf8 "\x7b\"auths\":\x7b") (utf8 "\x7b\":\x7b") by decide).append
    ((show Reads (utf8 ",") (utf8 ",") by decide).intercalate hentries)).append
    (show Reads (utf8 "\x7d\x7d") (utf8 "\x7d\x7d") by decide)
  rw [List.length_map, List.length_insertionSort] at h
  exact h

theorem primitive_authsSkeleton (n : Nat) : Codes.Primitive openBrace closeBrace (authsSkeleton n) := by
  have hne : openBrace ≠ closeBrace := by decide
  have hM : Codes.Balanced openBrace closeBrace ((utf8 ",").intercalate (List.replicate n entrySkeleton)) :=
    Codes.balanced_intercalate (by decide) fun w hw => by
      rw [List.eq_of_mem_replicate hw]
      decide
  have hshape : authsSkeleton n = openBrace :: (utf8 "\":" ++
      (openBrace :: (utf8 ",").intercalate (List.replicate n entrySkeleton) ++ [closeBrace])) ++ [closeBrace] := by
    rw [authsSkeleton, show utf8 "\x7b\":\x7b" = openBrace :: (utf8 "\":" ++ [openBrace]) by decide,
      show utf8 "\x7d\x7d" = [closeBrace, closeBrace] by decide]
    simp
  rw [hshape]
  exact ((show Codes.Balanced openBrace closeBrace (utf8 "\":") by decide).append (hM.wrap hne).balanced).wrap hne

theorem not_mem_authsSkeleton (n : Nat) : 'a'.toUInt8 ∉ authsSkeleton n := by
  simp only [authsSkeleton, List.mem_append, not_or]
  refine ⟨⟨by decide, Codes.not_mem_intercalate (by decide) fun w hw => ?_⟩, by decide⟩
  rw [List.eq_of_mem_replicate hw]
  decide

/-- Read from inside a string, the text closes the string at the quote before `auths`, which it then reads outside. -/
theorem mem_skeleton_marshallAuths {q : Lex} (hq : q ≠ .out) (ac : AuthCfg) :
    'a'.toUInt8 ∈ q.skeleton (marshallAuths ac) := by
  rw [marshallAuths, List.append_assoc, skeleton_append]
  apply List.mem_append_left
  cases q with
  | out => exact absurd rfl hq
  | str => decide
  | esc => decide

theorem suffixFree_marshallAuths : Codes.SuffixFree (Set.range marshallAuths) := by
  apply suffixFree_of_skeleton 'a'.toUInt8
  · rintro _ ⟨ac, rfl⟩
    rw [(reads_marshallAuths ac).2]
    exact primitive_authsSkeleton _
  · rintro _ ⟨ac, rfl⟩
    rw [(reads_marshallAuths ac).2]
    exact not_mem_authsSkeleton _
  · rintro _ ⟨ac, rfl⟩ q hq
    exact mem_skeleton_marshallAuths hq ac

/-- The bytes of an image reference followed by a marshalled text, with no separator, determine both. -/
theorem utf8_append_marshallAuths_inj {r₁ r₂ : String} {a₁ a₂ : AuthCfg}
    (h : utf8 r₁ ++ marshallAuths a₁ = utf8 r₂ ++ marshallAuths a₂) :
    r₁ = r₂ ∧ marshallAuths a₁ = marshallAuths a₂ := by
  obtain ⟨hr, hm⟩ := suffixFree_marshallAuths.append_inj ⟨a₁, rfl⟩ ⟨a₂, rfl⟩ h
  exact ⟨utf8_injective hr, hm⟩

end AuthCfg

end Image

end MultiarchTuning
