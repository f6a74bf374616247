import MultiarchTuning.Go.Strings

/-!
# What the model uses of packages `net/url` and `net`

`url.Parse` after the source of package `net/url`: the fragment is cut off first, then the scheme, the query and the
authority, whose host and user information are percent-decoded and checked byte by byte (`unescape`), and last the
path. `URL.String` writes a URL back, escaping the host, the user information and the path again (`escape`); the raw
query is written as it was read. `net.SplitHostPort` splits a host from its port at the last colon, with the
brackets of an IPv6 literal.

Only which kind of error a function returns is modelled, not its text: the callers in `pkg/image` test `err != nil`.
The parse is the one `url.Parse` makes, not `url.ParseRequestURI`.
-/

namespace Go

open Strings

namespace Url

/-- `url.encoding`: the component `escape` and `unescape` work on. -/
inductive Encoding where
  | path
  | pathSegment
  | host
  | zone
  | userPassword
  | queryComponent
  | fragment
  deriving DecidableEq, Repr

/-- The errors of `url.Parse`, by kind. -/
inductive Error where
  | invalidControlCharacter
  | missingProtocolScheme
  | firstPathSegmentColon
  | escape
  | invalidHost
  | invalidPort
  | missingBracket
  | invalidUserinfo
  deriving DecidableEq, Repr

def isAlpha (c : UInt8) : Bool := ('a'.toUInt8 ≤ c && c ≤ 'z'.toUInt8) || ('A'.toUInt8 ≤ c && c ≤ 'Z'.toUInt8)

def isDigit (c : UInt8) : Bool := '0'.toUInt8 ≤ c && c ≤ '9'.toUInt8

/-- The apostrophe, `0x27`, which several byte classes of the package include. -/
def apostrophe : UInt8 := 0x27

/-- `shouldEscape(c, mode)`: whether `escape` writes `c` as `%XX` in the component `mode`. -/
def shouldEscape (c : UInt8) (mode : Encoding) : Bool :=
  if isAlpha c || isDigit c then false
  else if (mode == .host || mode == .zone) && (c ∈ utf8 "!$&()*+,;=:[]<>\"" || c == apostrophe) then false
  else if c ∈ utf8 "-_.~" then false
  else if c ∈ utf8 "$&+,/:;=?@" then
    match mode with
    | .path => c == '?'.toUInt8
    | .pathSegment => c ∈ utf8 "/;,?"
    | .userPassword => c ∈ utf8 "@/?:"
    | .queryComponent => true
    | .fragment => false
    | .host | .zone => true
  else if mode == .fragment && c ∈ utf8 "!()*" then false
  else true

def ishex (c : UInt8) : Bool :=
  isDigit c || ('a'.toUInt8 ≤ c && c ≤ 'f'.toUInt8) || ('A'.toUInt8 ≤ c && c ≤ 'F'.toUInt8)

def unhex (c : UInt8) : UInt8 :=
  if isDigit c then c - '0'.toUInt8
  else if 'a'.toUInt8 ≤ c && c ≤ 'f'.toUInt8 then c - 'a'.toUInt8 + 10
  else if 'A'.toUInt8 ≤ c && c ≤ 'F'.toUInt8 then c - 'A'.toUInt8 + 10
  else 0

/-- `%25`, the one escape of an ASCII byte a host may hold. -/
def isPercent25 (h1 h2 : UInt8) : Bool := h1 == '2'.toUInt8 && h2 == '5'.toUInt8

/-- The checking pass of `unescape`: each `%` is followed by two hex digits; in a host it escapes a byte of at least
0x80 or is `%25`, in a zone it escapes a space or a byte a host may hold, and the other ASCII bytes of a host or a
zone are those `shouldEscape` leaves alone. The result says whether a `+` decodes to a space. -/
def checkEscapes (mode : Encoding) : List UInt8 → Except Error Bool
  | [] => .ok false
  | c :: rest =>
    if c = '%'.toUInt8 then
      match rest with
      | h1 :: h2 :: rest' =>
        if !(ishex h1 && ishex h2) then .error .escape
        else if mode == .host && unhex h1 < 8 && !isPercent25 h1 h2 then .error .escape
        else if mode == .zone && !isPercent25 h1 h2 && unhex h1 * 16 + unhex h2 != ' '.toUInt8 &&
            shouldEscape (unhex h1 * 16 + unhex h2) .host then .error .escape
        else checkEscapes mode rest'
      | _ => .error .escape
    else if c = '+'.toUInt8 then (checkEscapes mode rest).map (· || mode == .queryComponent)
    else if (mode == .host || mode == .zone) && c < 0x80 && shouldEscape c mode then .error .invalidHost
    else checkEscapes mode rest

/-- The decoding pass of `unescape`, on a string the checking pass accepted. -/
def decodeEscapes (mode : Encoding) : List UInt8 → List UInt8
  | [] => []
  | c :: rest =>
    if c = '%'.toUInt8 then
      match rest with
      | h1 :: h2 :: rest' => (unhex h1 * 16 + unhex h2) :: decodeEscapes mode rest'
      -- a `%` without two bytes after it, which the checking pass rejects
      | _ => c :: rest
    else if c = '+'.toUInt8 then (if mode = .queryComponent then ' '.toUInt8 else c) :: decodeEscapes mode rest
    else c :: decodeEscapes mode rest

/-- `unescape(s, mode)`. -/
def unescape (s : List UInt8) (mode : Encoding) : Except Error (List UInt8) := do
  let hasPlus ← checkEscapes mode s
  if s.count '%'.toUInt8 = 0 && !hasPlus then pure s else pure (decodeEscapes mode s)

/-- The digit of `upperhex` for a nibble. -/
def upperhex (n : UInt8) : UInt8 := if n < 10 then '0'.toUInt8 + n else 'A'.toUInt8 + (n - 10)

/-- `escape(s, mode)`: a space of a query component as `+`, the bytes `shouldEscape` names as `%XX`. -/
def escape (s : List UInt8) (mode : Encoding) : List UInt8 :=
  s.flatMap fun c =>
    if c = ' '.toUInt8 && mode = .queryComponent then ['+'.toUInt8]
    else if shouldEscape c mode then ['%'.toUInt8, upperhex (c / 16), upperhex (c % 16)]
    else [c]

/-- `validEncoded(s, mode)`: the bytes of `s` are those a raw path or fragment may keep. -/
def validEncoded (s : List UInt8) (mode : Encoding) : Bool :=
  s.all fun c => c ∈ utf8 "!$&()*+,;=:@[]%" || c == apostrophe || !shouldEscape c mode

/-- `url.Userinfo`. -/
structure Userinfo where
  username : List UInt8
  password : List UInt8
  passwordSet : Bool
  deriving DecidableEq, Repr

/-- `url.URL`. Go's `Opaque` is `opaquePath`. -/
structure URL where
  scheme : List UInt8
  opaquePath : List UInt8
  user : Option Userinfo
  host : List UInt8
  path : List UInt8
  rawPath : List UInt8
  omitHost : Bool
  forceQuery : Bool
  rawQuery : List UInt8
  fragment : List UInt8
  rawFragment : List UInt8
  deriving DecidableEq, Repr, Inhabited

/-- `stringContainsCTLByte(s)`: a byte below a space, or DEL. -/
def stringContainsCTLByte (s : List UInt8) : Bool := s.any fun b => b < ' '.toUInt8 || b = 0x7F

/-- `getScheme(rawURL)`: the scheme before the first colon, when the bytes before it are a letter and then letters,
digits, `+`, `-` or `.`; no scheme otherwise, and an error for a colon in front. -/
def getScheme (rawURL : List UInt8) : Except Error (List UInt8 × List UInt8) :=
  go [] rawURL
where
  go (scheme : List UInt8) : List UInt8 → Except Error (List UInt8 × List UInt8)
    | [] => .ok ([], rawURL)
    | c :: rest =>
      if isAlpha c then go (scheme ++ [c]) rest
      else if isDigit c || c = '+'.toUInt8 || c = '-'.toUInt8 || c = '.'.toUInt8 then
        if scheme = [] then .ok ([], rawURL) else go (scheme ++ [c]) rest
      else if c = ':'.toUInt8 then
        if scheme = [] then .error .missingProtocolScheme else .ok (scheme, rest)
      else .ok ([], rawURL)

/-- `validOptionalPort(port)`: empty, or a colon and digits. -/
def validOptionalPort : List UInt8 → Bool
  | [] => true
  | c :: rest => c = ':'.toUInt8 && rest.all isDigit

/-- `validUserinfo(s)`: the bytes RFC 3986 allows in user information, and `%` and `@`. -/
def validUserinfo (s : List UInt8) : Bool :=
  s.all fun c => isAlpha c || isDigit c || c ∈ utf8 "-._:~!$&()*+,;=%@" || c == apostrophe

/-- `parseHost(host)`: an IPv6 literal in brackets, with an optional port and zone, or a host with an optional port;
then the host is unescaped. -/
def parseHost (host : List UInt8) : Except Error (List UInt8) :=
  if host.head? = some '['.toUInt8 then
    match lastIndexByte host ']'.toUInt8 with
    | none => .error .missingBracket
    | some i =>
      if !validOptionalPort (host.drop (i + 1)) then .error .invalidPort
      else
        match Strings.index (host.take i) (utf8 "%25") with
        | some zone => do
          let host1 ← unescape (host.take zone) .host
          let host2 ← unescape ((host.take i).drop zone) .zone
          let host3 ← unescape (host.drop i) .host
          pure (host1 ++ host2 ++ host3)
        | none => unescape host .host
  else
    match lastIndexByte host ':'.toUInt8 with
    | some i => if !validOptionalPort (host.drop i) then .error .invalidPort else unescape host .host
    | none => unescape host .host

/-- `parseAuthority(authority)`: the user information before the last `@`, if any, and the host after it. -/
def parseAuthority (authority : List UInt8) : Except Error (Option Userinfo × List UInt8) :=
  match lastIndexByte authority '@'.toUInt8 with
  | none => do
    let host ← parseHost authority
    pure (none, host)
  | some i => do
    let host ← parseHost (authority.drop (i + 1))
    let userinfo := authority.take i
    if !validUserinfo userinfo then throw .invalidUserinfo
    if !userinfo.contains ':'.toUInt8 then
      let username ← unescape userinfo .userPassword
      pure (some ⟨username, [], false⟩, host)
    else
      let (username, password, _) := cut userinfo ':'.toUInt8
      let username ← unescape username .userPassword
      let password ← unescape password .userPassword
      pure (some ⟨username, password, true⟩, host)

/-- `u.setPath(p)`: the decoded path, and the raw one when escaping the decoded path does not give it back. -/
def URL.setPath (u : URL) (p : List UInt8) : Except Error URL := do
  let path ← unescape p .path
  pure { u with path := path, rawPath := if p = escape path .path then [] else p }

/-- `u.setFragment(f)`. -/
def URL.setFragment (u : URL) (f : List UInt8) : Except Error URL := do
  let frag ← unescape f .fragment
  pure { u with fragment := frag, rawFragment := if f = escape frag .fragment then [] else f }

/-- `parse(rawURL, false)`: the part of `url.Parse` after the fragment is cut off. -/
def parseReference (rawURL : List UInt8) : Except Error URL := do
  if stringContainsCTLByte rawURL then throw .invalidControlCharacter
  if rawURL = utf8 "*" then return { (default : URL) with path := utf8 "*" }
  let (scheme, rest) ← getScheme rawURL
  let scheme := toLower scheme
  let (rest, forceQuery, rawQuery) :=
    if hasSuffix rest (utf8 "?") && rest.count '?'.toUInt8 = 1 then (rest.dropLast, true, [])
    else
      let (rest, rawQuery, _) := cut rest '?'.toUInt8
      (rest, false, rawQuery)
  let url : URL := { (default : URL) with scheme := scheme, forceQuery := forceQuery, rawQuery := rawQuery }
  if !Strings.hasPrefix rest (utf8 "/") then
    if scheme ≠ [] then return { url with opaquePath := rest }
    if (cut rest '/'.toUInt8).1.contains ':'.toUInt8 then throw .firstPathSegmentColon
  if (scheme ≠ [] || !Strings.hasPrefix rest (utf8 "///")) && Strings.hasPrefix rest (utf8 "//") then
    let authority := rest.drop 2
    let (authority, rest) :=
      match indexByte authority '/'.toUInt8 with
      | some i => (authority.take i, authority.drop i)
      | none => (authority, [])
    let (user, host) ← parseAuthority authority
    URL.setPath { url with user := user, host := host } rest
  else if scheme ≠ [] && Strings.hasPrefix rest (utf8 "/") then URL.setPath { url with omitHost := true } rest
  else URL.setPath url rest

/-- `url.Parse(rawURL)`. -/
def parse (rawURL : List UInt8) : Except Error URL := do
  let (u, frag, _) := cut rawURL '#'.toUInt8
  let url ← parseReference u
  if frag = [] then return url
  url.setFragment frag

/-- `ui.String()`. -/
def Userinfo.string (ui : Userinfo) : List UInt8 :=
  escape ui.username .userPassword ++ (if ui.passwordSet then ':'.toUInt8 :: escape ui.password .userPassword else [])

/-- `u.EscapedPath()`: the raw path when it is a valid encoding of the path, the path escaped otherwise. -/
def URL.escapedPath (u : URL) : List UInt8 :=
  let rawOk := u.rawPath ≠ [] && validEncoded u.rawPath .path &&
    match unescape u.rawPath .path with
    | .ok p => p = u.path
    | .error _ => false
  if rawOk then u.rawPath else if u.path = utf8 "*" then utf8 "*" else escape u.path .path

/-- `u.EscapedFragment()`. -/
def URL.escapedFragment (u : URL) : List UInt8 :=
  let rawOk := u.rawFragment ≠ [] && validEncoded u.rawFragment .fragment &&
    match unescape u.rawFragment .fragment with
    | .ok f => f = u.fragment
    | .error _ => false
  if rawOk then u.rawFragment else escape u.fragment .fragment

/-- `u.String()`. -/
def URL.string (u : URL) : List UInt8 :=
  let schemePart := if u.scheme ≠ [] then u.scheme ++ utf8 ":" else []
  let body : List UInt8 :=
    if u.opaquePath ≠ [] then u.opaquePath
    else
      let authority : List UInt8 :=
        if u.scheme ≠ [] || u.host ≠ [] || u.user.isSome then
          if u.omitHost && u.host = [] && u.user.isNone then []
          else
            (if u.host ≠ [] || u.path ≠ [] || u.user.isSome then utf8 "//" else []) ++
              (match u.user with
                | some ui => ui.string ++ utf8 "@"
                | none => []) ++
              (if u.host ≠ [] then escape u.host .host else [])
        else []
      let path := u.escapedPath
      let slash := if path ≠ [] && path.head? ≠ some '/'.toUInt8 && u.host ≠ [] then utf8 "/" else []
      let dot :=
        if schemePart ++ authority ++ slash = [] && (cut path '/'.toUInt8).1.contains ':'.toUInt8 then utf8 "./"
        else []
      authority ++ slash ++ dot ++ path
  let query := if u.forceQuery || u.rawQuery ≠ [] then '?'.toUInt8 :: u.rawQuery else []
  let fragment := if u.fragment ≠ [] then '#'.toUInt8 :: u.escapedFragment else []
  schemePart ++ body ++ query ++ fragment

example : (parse (utf8 "https://*.example.io")).map (·.string) = .ok (utf8 "https://*.example.io") := by
  decide +kernel
example : (parse (utf8 "https://u:p@[fe80::1%25en0]:80/a%20b?q#f")).map (·.string) =
    .ok (utf8 "https://u:p@[fe80::1%25en0]:80/a%20b?q#f") := by
  decide +kernel

end Url

namespace Net

/-- The errors of `net.SplitHostPort`, by kind. -/
inductive AddrError where
  | missingPort
  | tooManyColons
  | missingBracket
  | unexpectedOpenBracket
  | unexpectedCloseBracket
  deriving DecidableEq, Repr

/-- `net.SplitHostPort(hostport)`: the host before the last colon, without the brackets of an IPv6 literal, and the
port after it. -/
def splitHostPort (hostport : List UInt8) : Except AddrError (List UInt8 × List UInt8) :=
  match lastIndexByte hostport ':'.toUInt8 with
  | none => .error .missingPort
  | some i =>
    let hostAt : Except AddrError (List UInt8 × Nat × Nat) :=
      if hostport.head? = some '['.toUInt8 then
        match indexByte hostport ']'.toUInt8 with
        | none => .error .missingBracket
        | some e =>
          if e + 1 = hostport.length then .error .missingPort
          else if e + 1 = i then .ok ((hostport.take e).drop 1, 1, e + 1)
          else if hostport[e + 1]? = some ':'.toUInt8 then .error .tooManyColons
          else .error .missingPort
      else
        let host := hostport.take i
        if host.contains ':'.toUInt8 then .error .tooManyColons else .ok (host, 0, 0)
    match hostAt with
    | .error err => .error err
    | .ok (host, j, k) =>
      if (hostport.drop j).contains '['.toUInt8 then .error .unexpectedOpenBracket
      else if (hostport.drop k).contains ']'.toUInt8 then .error .unexpectedCloseBracket
      else .ok (host, hostport.drop (i + 1))

example : splitHostPort (utf8 "quay.io:443") = .ok (utf8 "quay.io", utf8 "443") := by decide
example : splitHostPort (utf8 "quay.io") = .error .missingPort := by decide

end Net

end Go
