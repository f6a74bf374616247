import MultiarchTuning.Image.Expansion

/-!
# Glob expansion depends on the order of the range

`expandGlobs` adds the expansion of each matching glob to the map it ranges over, unless the map has that key already.
Two globs that match the image expand to the same key, its host, so the first of them that the range visits decides
the credentials stored for it. Go's range over a map visits the keys in an order it chooses anew each time, and both
orders of the two globs below are legal (`IsRangeOrder`): the credentials for `abc.example.io`, and with them the auth
file the inspector is given and the key of the cache, differ between two runs on the same pull secret and image.

What the loop computes (`AuthCfg.lookup_expandGlobs`) says where this comes from, and when the order does not matter:
when the globs that expand to one new key carry the same credentials, and no expansion is a glob that matches the
image again, every order of the range gives the same auth file (`marshaledImagePullSecrets_range_independent`).
The two globs here break the first condition.
-/

namespace MultiarchTuning

namespace Image

open Go AuthCfg

/-- `user1:pass1`, base64-encoded. -/
def credentials₁ : AuthData := ⟨utf8 "dXNlcjE6cGFzczE="⟩

/-- `user2:pass2`, base64-encoded. -/
def credentials₂ : AuthData := ⟨utf8 "dXNlcjI6cGFzczI="⟩

/-- Two globs of one pull secret that both match the host `abc.example.io`. -/
def overlappingGlobs : Auths :=
  ((∅ : Auths).insert (utf8 "abc.*.io") credentials₂).insert (utf8 "*.example.io") credentials₁

/-- The text of that pull secret. -/
def overlappingSecret : List UInt8 :=
  utf8 "\x7b\"*.example.io\":\x7b\"auth\":\"dXNlcjE6cGFzczE=\"\x7d,\"abc.*.io\":\x7b\"auth\":\"dXNlcjI6cGFzczI=\"\x7d\x7d"

/-- An image reference as `imagesNamesSet` writes it. -/
def overlapImage : String := "//abc.example.io/app:latest"

/-- The range visiting `*.example.io` first. -/
def exampleFirst : List (List UInt8) := [utf8 "*.example.io", utf8 "abc.*.io"]

/-- The range visiting `abc.*.io` first. -/
def abcFirst : List (List UInt8) := [utf8 "abc.*.io", utf8 "*.example.io"]

theorem expandGlobs_depends_on_range_order :
    IsRangeOrder overlappingGlobs exampleFirst ∧ IsRangeOrder overlappingGlobs abcFirst ∧
    (expandGlobs ⟨overlappingGlobs⟩ (utf8 overlapImage) exampleFirst).auths.lookup (utf8 "abc.example.io") =
      some credentials₁ ∧
    (expandGlobs ⟨overlappingGlobs⟩ (utf8 overlapImage) abcFirst).auths.lookup (utf8 "abc.example.io") =
      some credentials₂ ∧
    credentials₁ ≠ credentials₂ ∧
    ∀ unmarshal : List UInt8 → Except String Auths, unmarshal overlappingSecret = .ok overlappingGlobs →
      marshaledImagePullSecrets unmarshal exampleFirst overlapImage [overlappingSecret] ≠
        marshaledImagePullSecrets unmarshal abcFirst overlapImage [overlappingSecret] := by
  refine ⟨by decide, by decide, by decide +kernel, by decide +kernel, by decide, fun unmarshal h => ?_⟩
  have hstore : storeSecrets unmarshal [overlappingSecret] = (⟨∅⟩ : AuthCfg).addAuths overlappingGlobs := by
    simp only [storeSecrets, List.foldl_cons, List.foldl_nil, unmarshallAuthsDataAndStore, h]
  rw [marshaledImagePullSecrets, marshaledImagePullSecrets, hstore]
  decide +kernel

/-- A decoder that reads the pull secret as its two globs. -/
theorem expandGlobs_depends_on_range_order_decoded :
    (fun _ => .ok overlappingGlobs : List UInt8 → Except String Auths) overlappingSecret = .ok overlappingGlobs ∧
    marshaledImagePullSecrets (fun _ => .ok overlappingGlobs) exampleFirst overlapImage [overlappingSecret] ≠
      marshaledImagePullSecrets (fun _ => .ok overlappingGlobs) abcFirst overlapImage [overlappingSecret] :=
  ⟨rfl, expandGlobs_depends_on_range_order.2.2.2.2.2 _ rfl⟩

/-- The auth file does not depend on the order of the range when the globs that expand to one new key carry the same
credentials, and no expansion is a glob that matches the image again. -/
theorem marshaledImagePullSecrets_range_independent (unmarshal : List UInt8 → Except String Auths)
    (imageReference : String) (secrets : List (List UInt8))
    (hfin : ExpansionsFinal (storeSecrets unmarshal secrets).auths (utf8 imageReference))
    (hagree : ExpansionsAgree (storeSecrets unmarshal secrets).auths (utf8 imageReference))
    {order₁ order₂ : List (List UInt8)} (h₁ : IsRangeOrder (storeSecrets unmarshal secrets).auths order₁)
    (h₂ : IsRangeOrder (storeSecrets unmarshal secrets).auths order₂) :
    marshaledImagePullSecrets unmarshal order₁ imageReference secrets =
      marshaledImagePullSecrets unmarshal order₂ imageReference secrets :=
  marshallAuths_congr fun k => by
    rw [lookup_expandGlobs hfin, lookup_expandGlobs hfin]
    exact expanded_congr hagree h₁ h₂ k

/-- One glob: the range may visit its expansion after adding it, and the file is the same. -/
theorem marshaledImagePullSecrets_range_independent_one_glob :
    marshaledImagePullSecrets (fun _ => .ok ((∅ : Auths).insert (utf8 "*.example.io") ⟨utf8 "dXNlcjE6cGFzczE="⟩))
        [utf8 "*.example.io"] "//abc.example.io/app:latest" [[]] =
      marshaledImagePullSecrets (fun _ => .ok ((∅ : Auths).insert (utf8 "*.example.io") ⟨utf8 "dXNlcjE6cGFzczE="⟩))
        [utf8 "*.example.io", utf8 "abc.example.io"] "//abc.example.io/app:latest" [[]] :=
  marshaledImagePullSecrets_range_independent _ _ _ (by decide +kernel) (by decide +kernel) (by decide +kernel)
    (by decide +kernel)

end Image

end MultiarchTuning
