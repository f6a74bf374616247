import MultiarchTuning.Image.Cache

/-!
# The inspection cache answers only for the request it was filled by

Along every run of `cacheMachine` (calls with any image references, pull secrets, `skipCache` flags, orders of
`expandGlobs` and registry answers, and the LRU losing entries at any time), every call answers what the inspector of
its time answers its request, or a set that the inspector gave an earlier call with the same image reference and the
same marshalled credentials that did not skip the cache; a call with `skipCache` set answers what the inspector
answers it and leaves the cache as it was. The hash is assumed injective on the bytes the calls of the run feed it, as
FNV-128 is assumed to have no collision there. The core of the proof is that the image reference and the marshalled
credentials can be read back from their concatenation (`utf8_append_marshallAuths_inj`), although nothing separates
them.
-/

namespace MultiarchTuning

namespace Image

open Go

variable {κ : Type} [DecidableEq κ]

theorem cacheProxy_answers_for_same_request (unmarshal : List UInt8 → Except String Auths)
    (hashFn : List UInt8 → κ) :
    (∀ (evs : List (CacheEvent κ)) (s : CacheState κ),
      (cacheMachine unmarshal hashFn).runFrom ⟨newCacheProxy, []⟩ evs = some s →
      Set.InjOn hashFn (hashedPreimages unmarshal evs) →
      ∀ (i : Nat) (r : Record), s.log[i]? = some r →
        (r.skipCache = true → r.answer = r.inspectorAnswer) ∧
        (r.answer = r.inspectorAnswer ∨
          r.skipCache = false ∧ ∃ S, r.answer = .ok S ∧ ∃ j < i, ∃ r' : Record, s.log[j]? = some r' ∧
            r'.skipCache = false ∧ r'.answer = .ok S ∧ r'.inspectorAnswer = .ok S ∧
            r'.imageReference = r.imageReference ∧ r'.authJSON = r.authJSON)) ∧
    (∀ (c : CacheProxy κ) (imageReference : String) (secrets : List Bytes) (order : List (List UInt8))
      (inspect : Inspector),
      c.getCompatibleArchitecturesSet unmarshal hashFn imageReference true secrets order inspect =
        (inspect imageReference true secrets, c)) ∧
    ∀ (r₁ r₂ : String) (secrets₁ secrets₂ : List Bytes) (order₁ order₂ : List (List UInt8)),
      utf8 r₁ ++ marshaledImagePullSecrets unmarshal order₁ r₁ secrets₁ =
          utf8 r₂ ++ marshaledImagePullSecrets unmarshal order₂ r₂ secrets₂ →
        r₁ = r₂ ∧ marshaledImagePullSecrets unmarshal order₁ r₁ secrets₁ =
          marshaledImagePullSecrets unmarshal order₂ r₂ secrets₂ := by
  refine ⟨fun evs s hr hinj i r hi => ?_, fun _ _ _ _ _ => getCompatibleArchitecturesSet_skipCache,
    fun r₁ r₂ _ _ _ _ h => AuthCfg.utf8_append_marshallAuths_inj h⟩
  have hI := cacheInv_runFrom_init hinj hr
  exact ⟨hI.skipped r (List.mem_of_getElem? hi), hI.answered i r hi⟩

/-- An unmarshalling of pull secrets that reads none: the run below has no pull secrets to read. -/
def readsNoAuths : List UInt8 → Except String Auths := fun _ => .ok ∅

/-- Calls for the image `a`, then `b`, then `a` again, with no pull secrets and not skipping the cache; the registry
answers `amd64` to the first two and is down at the third. -/
def threeCalls : List (CacheEvent (List UInt8)) :=
  [.call "a" false [] [] (fun _ _ _ => .ok {"amd64"}), .call "b" false [] [] (fun _ _ _ => .ok {"amd64"}),
    .call "a" false [] [] (fun _ _ _ => .error "registry unavailable")]

/-- Under FNV-128, whose hashes of the two requests differ, the third call answers what the inspector answers it, or
what an earlier call for `a` with the same credentials got from the inspector. -/
theorem cacheProxy_answers_for_same_request_threeCalls :
    Set.InjOn fnv128Hex (hashedPreimages readsNoAuths threeCalls) ∧
      ∃ s, (cacheMachine readsNoAuths fnv128Hex).runFrom ⟨newCacheProxy, []⟩ threeCalls = some s ∧
        ∀ r, s.log[2]? = some r → r.answer = r.inspectorAnswer ∨
          ∃ j < 2, ∃ r' : Record, s.log[j]? = some r' ∧ r'.inspectorAnswer = r.answer ∧
            r'.imageReference = r.imageReference ∧ r'.authJSON = r.authJSON := by
  have hne : fnv128Hex (utf8 "a" ++ marshaledImagePullSecrets readsNoAuths [] "a" []) ≠
      fnv128Hex (utf8 "b" ++ marshaledImagePullSecrets readsNoAuths [] "b" []) := by decide +kernel
  have hmem : ∀ x ∈ hashedPreimages readsNoAuths threeCalls,
      x = utf8 "a" ++ marshaledImagePullSecrets readsNoAuths [] "a" [] ∨
        x = utf8 "b" ++ marshaledImagePullSecrets readsNoAuths [] "b" [] := by
    rintro x ⟨e, he, hx⟩
    simp only [threeCalls, List.mem_cons, List.mem_nil_iff, or_false] at he
    rcases he with rfl | rfl | rfl <;> simp only [CacheEvent.preimage, Option.some.injEq] at hx <;> simp [← hx]
  have hinj : Set.InjOn fnv128Hex (hashedPreimages readsNoAuths threeCalls) := by
    intro x hx y hy hxy
    rcases hmem x hx with rfl | rfl <;> rcases hmem y hy with rfl | rfl
    · rfl
    · exact absurd hxy hne
    · exact absurd hxy.symm hne
    · rfl
  refine ⟨hinj, _, rfl, fun r hr => ?_⟩
  rcases ((cacheProxy_answers_for_same_request readsNoAuths fnv128Hex).1 threeCalls _ rfl hinj 2 r hr).2 with
    h | ⟨-, S, hS, j, hj, r', hr', -, -, hins, href, hjson⟩
  · exact Or.inl h
  · exact Or.inr ⟨j, hj, r', hr', by rw [hins, hS], href, hjson⟩

end Image

end MultiarchTuning
