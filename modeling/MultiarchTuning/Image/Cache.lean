import MultiarchTuning.Image.Auth
import MultiarchTuning.PodPlacement.Images
import MultiarchTuning.Protocol.Machine

/-!
# The inspection cache

`cacheProxy` of `pkg/image/cache.go` answers `GetCompatibleArchitecturesSet` from an expirable LRU keyed by
`computeFNV128Hash(imageReference, authJSON)`, the 128-bit FNV-1 hash of the image reference followed by the
marshalled pull secrets. It asks the registry inspector on a miss, or when `skipCache` is set, and stores the
inspector's answer unless `skipCache` is set or the inspector failed.

The LRU is the map it holds; that it loses entries, by expiry after six hours or by eviction beyond 256 entries, is an
event of the machine (`CacheEvent.drop`) that may come at any time. The hash is a parameter `hashFn` of the bytes it
is fed, which `computeFNV128Hash` instantiates with FNV-1 (`fnv128Hex`); the soundness of the cache needs only that it
is injective on the bytes the calls of a run feed it (`hashedPreimages`). The registry changes between calls, so each call carries the answers the
inspector gives at its time, and the order the range of `expandGlobs` takes in it.

The state of the machine holds, besides the cache, a log of the calls, which the code does not keep: what each call
was asked, what it answered, and what the inspector of its time answers its request.
-/

namespace MultiarchTuning

namespace Image

open Go

/-! ## `computeFNV128Hash` -/

/-- `offset128`, which Go splits into `offset128Higher` and `offset128Lower`. -/
def offset128 : Nat := 0x6c62272e07bb014262b821756295c58d

/-- `prime128`, 2^88 + 0x13b, which Go multiplies by as `prime128Shift` and `prime128Lower`. -/
def prime128 : Nat := 2 ^ 88 + 0x13b

/-- The state of `fnv.New128()` after the bytes `data` are written: FNV-1, each byte xored in after the
multiplication. -/
def fnv128 (data : List UInt8) : Nat :=
  data.foldl (fun s c => s * prime128 % 2 ^ 128 ^^^ c.toNat) offset128

/-- `Sum(nil)` of a 128-bit FNV hash: the 16 bytes of the state, most significant first. -/
def sum128 (s : Nat) : List UInt8 := (List.range 16).reverse.map fun i => (s / 256 ^ i % 256).toUInt8

/-- `hex.EncodeToString(src)`: two lower-case hex digits a byte. -/
def hexEncode (src : List UInt8) : List UInt8 := src.flatMap fun b => [Json.hex (b / 16), Json.hex (b % 16)]

/-- The hash of the bytes written to a `fnv.New128()`, encoded as `computeFNV128Hash` returns it. -/
def fnv128Hex (data : List UInt8) : List UInt8 := hexEncode (sum128 (fnv128 data))

/-- `computeFNV128Hash(imageReference, secrets)`: the reference, then the secrets, written to one hash. -/
def computeFNV128Hash (imageReference : String) (secrets : List UInt8) : List UInt8 :=
  fnv128Hex (utf8 imageReference ++ secrets)

example : computeFNV128Hash "a" [] = utf8 "d228cb69101a8caf78912b704e4a141e" := by decide +kernel

/-! ## `cacheProxy` -/

/-- `cacheProxy`, its LRU as the map it holds; the registry inspector is what each call is answered by. -/
structure CacheProxy (κ : Type) [DecidableEq κ] where
  imageRefsCache : AList fun _ : κ => Finset String

section Proxy

variable {κ : Type} [DecidableEq κ] (unmarshal : List UInt8 → Except String Auths) (hashFn : List UInt8 → κ)

/-- `c.imageRefsCache.Get(hash)` when `!skipCache`: the set a call is answered with from the cache. -/
def CacheProxy.hit (c : CacheProxy κ) (hash : κ) (skipCache : Bool) : Option (Finset String) :=
  match c.imageRefsCache.lookup hash with
  | some architectures => if !skipCache then some architectures else none
  | none => none

/-- `c.GetCompatibleArchitecturesSet(ctx, imageReference, skipCache, secrets)`, with the order of the range of
`expandGlobs` and the inspector's answers in this call: the answer, and the cache after the call.
`marshaledImagePullSecrets` cannot fail, and neither can the call before the lookup. -/
def CacheProxy.getCompatibleArchitecturesSet (c : CacheProxy κ) (imageReference : String) (skipCache : Bool)
    (secrets : List Bytes) (order : List (List UInt8)) (inspect : Inspector) :
    Except String (Finset String) × CacheProxy κ :=
  let authJSON := marshaledImagePullSecrets unmarshal order imageReference secrets
  let hash := hashFn (utf8 imageReference ++ authJSON)
  match c.hit hash skipCache with
  | some architectures => (.ok architectures, c)
  | none =>
    match inspect imageReference true secrets with
    | .error e => (.error e, c)
    | .ok architectures => (.ok architectures, if !skipCache then ⟨c.imageRefsCache.insert hash architectures⟩ else c)

/-- `newCacheProxy()`: an empty cache. -/
def newCacheProxy : CacheProxy κ := ⟨∅⟩

/-! ## The machine -/

/-- What the log records of a call: what it was asked, what the inspector answers that request at the time of the call
(whether or not the call asks it), and what the call answered. -/
structure Record where
  imageReference : String
  skipCache : Bool
  authJSON : List UInt8
  inspectorAnswer : Except String (Finset String)
  answer : Except String (Finset String)

/-- The bytes the call of a record fed the hash. -/
def Record.preimage (r : Record) : List UInt8 := utf8 r.imageReference ++ r.authJSON

variable (κ) in
/-- The cache, and the log of the calls so far, the last one last. -/
structure CacheState where
  proxy : CacheProxy κ
  log : List Record

variable (κ) in
/-- A call, with its order of `expandGlobs` and the inspector at its time; or the LRU losing the entry of a key. -/
inductive CacheEvent where
  | call (imageReference : String) (skipCache : Bool) (secrets : List Bytes) (order : List (List UInt8))
      (inspect : Inspector)
  | drop (hash : κ)

/-- One event. A call answers as `getCompatibleArchitecturesSet` does, and is logged. -/
def cacheStep (s : CacheState κ) : CacheEvent κ → CacheState κ
  | .call imageReference skipCache secrets order inspect =>
    let r := s.proxy.getCompatibleArchitecturesSet unmarshal hashFn imageReference skipCache secrets order inspect
    ⟨r.2, s.log ++ [⟨imageReference, skipCache, marshaledImagePullSecrets unmarshal order imageReference secrets,
      inspect imageReference true secrets, r.1⟩]⟩
  | .drop hash => ⟨⟨s.proxy.imageRefsCache.erase hash⟩, s.log⟩

/-- The cache from `newCacheProxy()` on, every event enabled. -/
def cacheMachine : Machine (CacheState κ) (CacheEvent κ) where
  init s := s = ⟨newCacheProxy, []⟩
  step s e := some (cacheStep unmarshal hashFn s e)

/-- The bytes a call feeds the hash; a drop feeds it none. -/
def CacheEvent.preimage : CacheEvent κ → Option (List UInt8)
  | .call imageReference _ secrets order _ =>
    some (utf8 imageReference ++ marshaledImagePullSecrets unmarshal order imageReference secrets)
  | .drop _ => none

/-- The bytes the calls of a run feed the hash. -/
def hashedPreimages (evs : List (CacheEvent κ)) : Set (List UInt8) :=
  {x | ∃ e ∈ evs, e.preimage unmarshal = some x}

/-! ## One call -/

section Call

variable {unmarshal hashFn}
variable {c : CacheProxy κ} {imageReference : String} {skipCache : Bool} {secrets : List Bytes}
  {order : List (List UInt8)} {inspect : Inspector}

theorem CacheProxy.hit_eq_some {hash : κ} {S : Finset String} (h : c.hit hash skipCache = some S) :
    skipCache = false ∧ c.imageRefsCache.lookup hash = some S := by
  unfold CacheProxy.hit at h
  split at h
  · rename_i architectures hl
    cases skipCache
    · simp only [Bool.not_false, if_true, Option.some.injEq] at h
      exact ⟨rfl, h ▸ hl⟩
    · simp at h
  · cases h

theorem CacheProxy.hit_skipCache (c : CacheProxy κ) (hash : κ) : c.hit hash true = none := by
  unfold CacheProxy.hit
  split <;> rfl

theorem getCompatibleArchitecturesSet_of_hit {S : Finset String}
    (h : c.hit (hashFn (utf8 imageReference ++ marshaledImagePullSecrets unmarshal order imageReference secrets))
      skipCache = some S) :
    c.getCompatibleArchitecturesSet unmarshal hashFn imageReference skipCache secrets order inspect = (.ok S, c) := by
  simp only [CacheProxy.getCompatibleArchitecturesSet, h]

/-- A call the cache does not answer is answered by the inspector. -/
theorem fst_getCompatibleArchitecturesSet_of_miss
    (h : c.hit (hashFn (utf8 imageReference ++ marshaledImagePullSecrets unmarshal order imageReference secrets))
      skipCache = none) :
    (c.getCompatibleArchitecturesSet unmarshal hashFn imageReference skipCache secrets order inspect).1 =
      inspect imageReference true secrets := by
  simp only [CacheProxy.getCompatibleArchitecturesSet, h]
  split <;> simp_all

/-- After a call the cache does not answer, it holds what it held, and what the inspector answered under the key of
the call, if the call does not skip the cache. -/
theorem lookup_getCompatibleArchitecturesSet_of_miss
    (h : c.hit (hashFn (utf8 imageReference ++ marshaledImagePullSecrets unmarshal order imageReference secrets))
      skipCache = none) {hash : κ} {S : Finset String}
    (hl : (c.getCompatibleArchitecturesSet unmarshal hashFn imageReference skipCache secrets order inspect).2.imageRefsCache.lookup
      hash = some S) :
    c.imageRefsCache.lookup hash = some S ∨
      (hash = hashFn (utf8 imageReference ++ marshaledImagePullSecrets unmarshal order imageReference secrets) ∧
        skipCache = false ∧ inspect imageReference true secrets = .ok S) := by
  simp only [CacheProxy.getCompatibleArchitecturesSet, h] at hl
  generalize hashFn (utf8 imageReference ++ marshaledImagePullSecrets unmarshal order imageReference secrets) = key
    at hl ⊢
  split at hl
  · exact Or.inl hl
  · rename_i architectures hi
    cases skipCache with
    | true => exact Or.inl hl
    | false =>
      by_cases hk : hash = key
      · subst hk
        simp only [Bool.not_false, if_true, AList.lookup_insert, Option.some.injEq] at hl
        exact Or.inr ⟨rfl, rfl, hl ▸ hi⟩
      · simp only [Bool.not_false, if_true, AList.lookup_insert_ne hk] at hl
        exact Or.inl hl

/-- A call that skips the cache is answered by the inspector, and leaves the cache as it was. -/
theorem getCompatibleArchitecturesSet_skipCache :
    c.getCompatibleArchitecturesSet unmarshal hashFn imageReference true secrets order inspect =
      (inspect imageReference true secrets, c) := by
  simp only [CacheProxy.getCompatibleArchitecturesSet, CacheProxy.hit_skipCache]
  split <;> simp_all

end Call

/-! ## The log -/

theorem getElem?_append_singleton {α : Type} {l : List α} {x r : α} {i : Nat} (h : (l ++ [x])[i]? = some r) :
    l[i]? = some r ∨ (i = l.length ∧ r = x) := by
  rcases Nat.lt_or_ge i l.length with hi | hi
  · left
    rwa [List.getElem?_append_left hi] at h
  · right
    rw [List.getElem?_append_right hi, List.getElem?_singleton] at h
    split_ifs at h
    exact ⟨by omega, (Option.some.inj h).symm⟩

theorem getElem?_append_of_getElem? {α : Type} {l m : List α} {j : Nat} {r : α} (h : l[j]? = some r) :
    (l ++ m)[j]? = some r := by
  rw [List.getElem?_append_left (List.getElem?_eq_some_iff.mp h).1, h]

/-! ## What holds along every run -/

/-- The call logged as `r` at `i` got a set that an earlier call, with the same image reference and the same marshalled
credentials and not skipping the cache, got from the inspector. -/
def AnsweredFromEarlier (log : List Record) (i : Nat) (r : Record) : Prop :=
  r.skipCache = false ∧ ∃ S, r.answer = .ok S ∧ ∃ j < i, ∃ r' : Record, log[j]? = some r' ∧ r'.skipCache = false ∧
    r'.answer = .ok S ∧ r'.inspectorAnswer = .ok S ∧ r'.imageReference = r.imageReference ∧ r'.authJSON = r.authJSON

theorem AnsweredFromEarlier.append {log : List Record} {i : Nat} {r : Record} (h : AnsweredFromEarlier log i r)
    (m : List Record) : AnsweredFromEarlier (log ++ m) i r := by
  obtain ⟨hskip, S, hS, j, hj, r', hr', hrest⟩ := h
  exact ⟨hskip, S, hS, j, hj, r', getElem?_append_of_getElem? hr', hrest⟩

/-- The invariant of the cache along a run whose calls feed the hash only bytes of `H`. Every entry was stored by a
logged call that did not skip the cache and got the set from the inspector, under that call's key; the logged
credentials are marshalled texts, and what the logged calls fed the hash is in `H`. Every call answered what the
inspector answers it, or a set an earlier call got from the inspector for the same request; a call that skips the cache
answered what the inspector answers it. -/
structure CacheInv (H : Set (List UInt8)) (s : CacheState κ) : Prop where
  entries : ∀ hash S, s.proxy.imageRefsCache.lookup hash = some S →
    ∃ r ∈ s.log, r.skipCache = false ∧ r.answer = .ok S ∧ r.inspectorAnswer = .ok S ∧ hashFn r.preimage = hash
  marshalled : ∀ r ∈ s.log, r.authJSON ∈ Set.range AuthCfg.marshallAuths
  hashed : ∀ r ∈ s.log, r.preimage ∈ H
  answered : ∀ (i : Nat) (r : Record), s.log[i]? = some r →
    r.answer = r.inspectorAnswer ∨ AnsweredFromEarlier s.log i r
  skipped : ∀ r ∈ s.log, r.skipCache = true → r.answer = r.inspectorAnswer

variable {unmarshal hashFn} {H : Set (List UInt8)}

theorem cacheInv_init : CacheInv hashFn H (⟨newCacheProxy, []⟩ : CacheState κ) where
  entries _ _ h := by simp [newCacheProxy] at h
  marshalled _ h := nomatch h
  hashed _ h := nomatch h
  answered _ _ h := by simp at h
  skipped _ h := nomatch h

theorem mem_range_marshaledImagePullSecrets (imageReference : String) (secrets : List Bytes)
    (order : List (List UInt8)) :
    marshaledImagePullSecrets unmarshal order imageReference secrets ∈ Set.range AuthCfg.marshallAuths :=
  ⟨_, rfl⟩

theorem CacheInv.drop {s : CacheState κ} (hI : CacheInv hashFn H s) (hash : κ) :
    CacheInv hashFn H (cacheStep unmarshal hashFn s (.drop hash)) where
  entries hash' S h := by
    have hne : hash' ≠ hash := by
      rintro rfl
      simp [cacheStep] at h
    simp only [cacheStep, AList.lookup_erase_ne hne] at h
    exact hI.entries hash' S h
  marshalled := hI.marshalled
  hashed := hI.hashed
  answered := hI.answered
  skipped := hI.skipped

/-- A step that appends the record `r` to the log keeps the invariant, provided the entries of the new cache are
logged and `r` is a record the invariant allows. -/
theorem CacheInv.append {s : CacheState κ} (hI : CacheInv hashFn H s) {p : CacheProxy κ} {r : Record}
    (hentries : ∀ hash S, p.imageRefsCache.lookup hash = some S → ∃ x ∈ s.log ++ [r], x.skipCache = false ∧
      x.answer = .ok S ∧ x.inspectorAnswer = .ok S ∧ hashFn x.preimage = hash)
    (hmarshalled : r.authJSON ∈ Set.range AuthCfg.marshallAuths) (hhashed : r.preimage ∈ H)
    (hanswered : r.answer = r.inspectorAnswer ∨ AnsweredFromEarlier s.log s.log.length r)
    (hskipped : r.skipCache = true → r.answer = r.inspectorAnswer) :
    CacheInv hashFn H ⟨p, s.log ++ [r]⟩ where
  entries := hentries
  marshalled := List.forall_mem_append.mpr ⟨hI.marshalled, List.forall_mem_singleton.mpr hmarshalled⟩
  hashed := List.forall_mem_append.mpr ⟨hI.hashed, List.forall_mem_singleton.mpr hhashed⟩
  answered i x hi := by
    rcases getElem?_append_singleton hi with hi | ⟨rfl, rfl⟩
    · exact (hI.answered i x hi).imp_right fun h => h.append _
    · exact hanswered.imp_right fun h => h.append _
  skipped := List.forall_mem_append.mpr ⟨hI.skipped, List.forall_mem_singleton.mpr hskipped⟩

/-- The entries of a cache that a call leaves as it was stay logged. -/
theorem CacheInv.entries_append {s : CacheState κ} (hI : CacheInv hashFn H s) (r : Record) :
    ∀ hash S, s.proxy.imageRefsCache.lookup hash = some S → ∃ x ∈ s.log ++ [r], x.skipCache = false ∧
      x.answer = .ok S ∧ x.inspectorAnswer = .ok S ∧ hashFn x.preimage = hash := by
  intro hash S h
  obtain ⟨x, hx, hrest⟩ := hI.entries hash S h
  exact ⟨x, List.mem_append_left _ hx, hrest⟩

section CallStep

variable {imageReference : String} {skipCache : Bool} {secrets : List Bytes} {order : List (List UInt8)}
  {inspect : Inspector}

/-- A call answered from the cache: by the entry of its key, which an earlier call with the same preimage of the hash
stored, and so with the same image and credentials. -/
theorem CacheInv.call_of_hit (hinj : Set.InjOn hashFn H) {s : CacheState κ} (hI : CacheInv hashFn H s)
    {S : Finset String} (hH : utf8 imageReference ++ marshaledImagePullSecrets unmarshal order imageReference secrets ∈ H)
    (h : s.proxy.hit (hashFn (utf8 imageReference ++ marshaledImagePullSecrets unmarshal order imageReference secrets))
      skipCache = some S) :
    CacheInv hashFn H (cacheStep unmarshal hashFn s (.call imageReference skipCache secrets order inspect)) := by
  obtain ⟨hskip, hl⟩ := CacheProxy.hit_eq_some h
  have hstep : cacheStep unmarshal hashFn s (.call imageReference skipCache secrets order inspect) =
      ⟨s.proxy, s.log ++ [⟨imageReference, skipCache, marshaledImagePullSecrets unmarshal order imageReference secrets,
        inspect imageReference true secrets, .ok S⟩]⟩ := by
    simp only [cacheStep, getCompatibleArchitecturesSet_of_hit h]
  rw [hstep]
  refine hI.append (hI.entries_append _) (mem_range_marshaledImagePullSecrets imageReference secrets order) hH
    (Or.inr ?_) (fun h' => absurd (hskip ▸ h') Bool.false_ne_true)
  obtain ⟨r', hr', hskip', hans', hins', hhash'⟩ := hI.entries _ S hl
  obtain ⟨a', ha'⟩ := hI.marshalled r' hr'
  have hpre : r'.preimage = utf8 imageReference ++ marshaledImagePullSecrets unmarshal order imageReference secrets :=
    hinj (hI.hashed r' hr') hH hhash'
  rw [Record.preimage, ← ha'] at hpre
  obtain ⟨hsame, hjson⟩ := AuthCfg.utf8_append_marshallAuths_inj hpre
  obtain ⟨j, hj⟩ := List.mem_iff_getElem?.mp hr'
  refine ⟨hskip, S, rfl, j, (List.getElem?_eq_some_iff.mp hj).1, r', hj, hskip', hans', hins', hsame, ?_⟩
  rw [← ha']
  exact hjson

/-- A call the cache does not answer: answered by the inspector, whose answer is stored under the call's key when it
is a set and the call does not skip the cache. -/
theorem CacheInv.call_of_miss {s : CacheState κ} (hI : CacheInv hashFn H s)
    (hH : utf8 imageReference ++ marshaledImagePullSecrets unmarshal order imageReference secrets ∈ H)
    (h : s.proxy.hit (hashFn (utf8 imageReference ++ marshaledImagePullSecrets unmarshal order imageReference secrets))
      skipCache = none) :
    CacheInv hashFn H (cacheStep unmarshal hashFn s (.call imageReference skipCache secrets order inspect)) := by
  have hstep : cacheStep unmarshal hashFn s (.call imageReference skipCache secrets order inspect) =
      ⟨(s.proxy.getCompatibleArchitecturesSet unmarshal hashFn imageReference skipCache secrets order inspect).2,
        s.log ++ [⟨imageReference, skipCache, marshaledImagePullSecrets unmarshal order imageReference secrets,
          inspect imageReference true secrets, inspect imageReference true secrets⟩]⟩ := by
    simp only [cacheStep, fst_getCompatibleArchitecturesSet_of_miss h]
  rw [hstep]
  refine hI.append (fun hash S hl => ?_) (mem_range_marshaledImagePullSecrets imageReference secrets order) hH
    (Or.inl rfl) (fun _ => rfl)
  rcases lookup_getCompatibleArchitecturesSet_of_miss h hl with hold | ⟨rfl, hskip, hins⟩
  · exact hI.entries_append _ hash S hold
  · exact ⟨_, List.mem_concat_self, hskip, hins, hins, rfl⟩

end CallStep

theorem CacheInv.step (hinj : Set.InjOn hashFn H) {s : CacheState κ} (hI : CacheInv hashFn H s) {e : CacheEvent κ}
    (hH : ∀ x, e.preimage unmarshal = some x → x ∈ H) : CacheInv hashFn H (cacheStep unmarshal hashFn s e) := by
  cases e with
  | call imageReference skipCache secrets order inspect =>
    have hx := hH _ rfl
    cases h : s.proxy.hit (hashFn (utf8 imageReference ++ marshaledImagePullSecrets unmarshal order imageReference
      secrets)) skipCache with
    | some S => exact hI.call_of_hit hinj hx h
    | none => exact hI.call_of_miss hx h
  | drop hash => exact hI.drop hash

/-- Along a run whose calls feed the hash only bytes on which it is injective, the invariant is kept. -/
theorem CacheInv.runFrom (hinj : Set.InjOn hashFn H) {evs : List (CacheEvent κ)}
    (hH : ∀ e ∈ evs, ∀ x, e.preimage unmarshal = some x → x ∈ H) {s s' : CacheState κ} (hI : CacheInv hashFn H s)
    (hr : (cacheMachine unmarshal hashFn).runFrom s evs = some s') : CacheInv hashFn H s' := by
  have hstep : ∀ t e t', (∀ x, e.preimage unmarshal = some x → x ∈ H) → CacheInv hashFn H t →
      (cacheMachine unmarshal hashFn).step t e = some t' → CacheInv hashFn H t' := by
    intro t e t' he ht hs
    rw [← Option.some.inj hs]
    exact ht.step hinj he
  exact Machine.runFrom_preserves hstep evs hH hI hr

/-- From the empty cache, along a run on whose preimages the hash is injective, the invariant holds at the end. -/
theorem cacheInv_runFrom_init {evs : List (CacheEvent κ)} (hinj : Set.InjOn hashFn (hashedPreimages unmarshal evs))
    {s : CacheState κ} (hr : (cacheMachine unmarshal hashFn).runFrom ⟨newCacheProxy, []⟩ evs = some s) :
    CacheInv hashFn (hashedPreimages unmarshal evs) s :=
  CacheInv.runFrom hinj (fun e he _ hx => ⟨e, he, hx⟩) cacheInv_init hr

end Proxy

end Image

end MultiarchTuning
