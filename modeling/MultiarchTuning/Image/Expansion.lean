import Mathlib
import MultiarchTuning.Image.Auth

/-!
# What `expandGlobs` computes

The loop of `expandGlobs` adds, for each glob of the map that matches the image, its expansion with the glob's
credentials, unless the map holds that key already. Whatever order the range takes, the outcome is `expanded`: the
map's own entries, and for a key it does not hold, the credentials of the first glob of the order that expands to it
(`lookup_expandGlobs`). This needs one property of the globs, `ExpansionsFinal`: an expansion is never itself a glob
that matches the image, so a key the loop added does nothing when the range visits it.

Two orders that visit every key of the map then give the same map exactly when the globs that expand to one new key
agree on the credentials (`ExpansionsAgree`, `expanded_congr`). The text `marshallAuths` writes depends only on what the
map holds (`marshallAuths_congr`), so under that condition the auth file does not depend on the range either. Both
conditions are decided on the keys of the map (`expansionsFinal_iff`, `expansionsAgree_iff`).
-/

namespace MultiarchTuning

namespace Image

namespace AuthCfg

variable {auths : Auths} {imageReference : List UInt8}

/-- The key `g` of `auths` is a glob that expands, for the image, to the nonempty key `k`. -/
def ExpandsTo (auths : Auths) (imageReference k g : List UInt8) : Bool :=
  (auths.lookup g).isSome && matchAndExpandGlob g imageReference == (k, true) && decide (k.length > 0)

/-- No expansion of a glob of `auths` is itself a glob that matches the image. -/
def ExpansionsFinal (auths : Auths) (imageReference : List UInt8) : Prop :=
  ∀ k g, ExpandsTo auths imageReference k g = true → (matchAndExpandGlob k imageReference).2 = false

/-- The globs of `auths` that expand to one key the map does not hold carry the same credentials. -/
def ExpansionsAgree (auths : Auths) (imageReference : List UInt8) : Prop :=
  ∀ k g₁ g₂, auths.lookup k = none → ExpandsTo auths imageReference k g₁ = true →
    ExpandsTo auths imageReference k g₂ = true → auths.lookup g₁ = auths.lookup g₂

/-- What the loop has stored under `k` after visiting `visited`: the map's own entry, or the credentials of the first
visited glob that expands to `k`. -/
def expanded (auths : Auths) (imageReference : List UInt8) (visited : List (List UInt8)) (k : List UInt8) :
    Option AuthData :=
  (auths.lookup k).or ((visited.find? (ExpandsTo auths imageReference k)).bind auths.lookup)

theorem expandsTo_iff {k g : List UInt8} :
    ExpandsTo auths imageReference k g = true ↔
      g ∈ auths ∧ matchAndExpandGlob g imageReference = (k, true) ∧ k.length > 0 := by
  simp [ExpandsTo, AList.lookup_isSome, and_assoc]

/-! ## The loop, one round at a time -/

/-- A found glob is a key of the map, so it has credentials. -/
theorem find?_expandsTo_of_bind_eq_none {k : List UInt8} {visited : List (List UInt8)}
    (h : (visited.find? (ExpandsTo auths imageReference k)).bind auths.lookup = none) :
    visited.find? (ExpandsTo auths imageReference k) = none := by
  rcases hf : visited.find? (ExpandsTo auths imageReference k) with _ | g
  · rfl
  · have hg := (expandsTo_iff.mp (List.find?_some hf)).1
    rw [hf, Option.bind_some] at h
    exact absurd (AList.lookup_isSome.mpr hg) (by rw [h]; exact Bool.false_ne_true)

theorem expanded_nil (k : List UInt8) : expanded auths imageReference [] k = auths.lookup k := by
  simp [expanded]

theorem expanded_append (visited : List (List UInt8)) (g k : List UInt8) :
    expanded auths imageReference (visited ++ [g]) k =
      (auths.lookup k).or (((visited.find? (ExpandsTo auths imageReference k)).or
        (if ExpandsTo auths imageReference k g then some g else none)).bind auths.lookup) := by
  rw [expanded, List.find?_append, List.find?_singleton]

/-- Visiting a glob that does not expand to `k` leaves what `k` gets. -/
theorem expanded_append_of_not_expandsTo {visited : List (List UInt8)} {g k : List UInt8}
    (h : ExpandsTo auths imageReference k g = false) :
    expanded auths imageReference (visited ++ [g]) k = expanded auths imageReference visited k := by
  rw [expanded_append, h, if_neg Bool.false_ne_true, Option.or_none]
  rfl

/-- Once `k` has credentials, visiting more globs leaves them. -/
theorem expanded_append_of_isSome {visited : List (List UInt8)} {g k : List UInt8}
    (h : (expanded auths imageReference visited k).isSome) :
    expanded auths imageReference (visited ++ [g]) k = expanded auths imageReference visited k := by
  rw [expanded_append]
  unfold expanded at h ⊢
  rcases hk : auths.lookup k with _ | v
  · rw [hk, Option.none_or] at h
    rw [Option.none_or, Option.none_or]
    rcases hf : visited.find? (ExpandsTo auths imageReference k) with _ | g₀
    · rw [hf, Option.bind_none] at h
      cases h
    · rfl
  · rfl

/-- The first glob to expand to a key the loop has not stored gives it its credentials. -/
theorem expanded_append_of_eq_none {visited : List (List UInt8)} {g k : List UInt8}
    (h : expanded auths imageReference visited k = none) (he : ExpandsTo auths imageReference k g = true) :
    expanded auths imageReference (visited ++ [g]) k = auths.lookup g := by
  obtain ⟨hk, hb⟩ := Option.or_eq_none_iff.mp h
  rw [expanded_append, hk, find?_expandsTo_of_bind_eq_none hb, he, if_pos rfl]
  rfl

/-- A key the loop added is no glob that matches the image, so its round leaves the map. -/
theorem expandGlob_of_added (hfin : ExpansionsFinal auths imageReference) {S : Auths}
    {visited : List (List UInt8)} (hS : ∀ k, S.lookup k = expanded auths imageReference visited k)
    {g : List UInt8} {v : AuthData} (hg : S.lookup g = some v) (hA : auths.lookup g = none) :
    expandGlob imageReference S g = S := by
  have hb : (visited.find? (ExpandsTo auths imageReference g)).bind auths.lookup = some v := by
    rw [← hg, hS g, expanded, hA, Option.none_or]
  obtain ⟨g₀, hf, -⟩ := Option.bind_eq_some_iff.mp hb
  have hno := hfin g g₀ (List.find?_some hf)
  rcases hm : matchAndExpandGlob g imageReference with ⟨regURL, ok⟩
  rw [hm] at hno
  rw [expandGlob_of_lookup hg hm, if_neg (by simp [show ok = false from hno])]

/-- The round of a glob of the map: its expansion gets the glob's credentials when it is new. -/
theorem lookup_expandGlob_of_glob {S : Auths} {visited : List (List UInt8)}
    (hS : ∀ k, S.lookup k = expanded auths imageReference visited k) {g : List UInt8} {v : AuthData}
    (hg : S.lookup g = some v) (hA : auths.lookup g = some v) (k : List UInt8) :
    (expandGlob imageReference S g).lookup k = expanded auths imageReference (visited ++ [g]) k := by
  have hgmem : g ∈ auths := AList.lookup_isSome.mp (by rw [hA]; rfl)
  rcases hm : matchAndExpandGlob g imageReference with ⟨regURL, ok⟩
  rw [expandGlob_of_lookup hg hm]
  split_ifs with hadd
  · simp only [Bool.and_eq_true, decide_eq_true_eq, Option.isNone_iff_eq_none] at hadd
    obtain ⟨⟨hok, hlen⟩, hnew⟩ := hadd
    by_cases hk : k = regURL
    · subst hk
      have he : ExpandsTo auths imageReference k g = true := expandsTo_iff.mpr ⟨hgmem, by rw [hm, hok], hlen⟩
      rw [AList.lookup_insert, expanded_append_of_eq_none ((hS k).symm.trans hnew) he, hA]
    · have hne : ExpandsTo auths imageReference k g = false := Bool.eq_false_iff.mpr fun he =>
        hk (Prod.mk.inj ((expandsTo_iff.mp he).2.1.symm.trans hm)).1
      rw [AList.lookup_insert_ne hk, hS k, expanded_append_of_not_expandsTo hne]
  · rw [hS k]
    by_cases he : ExpandsTo auths imageReference k g = true
    · obtain ⟨-, hm', hlen⟩ := expandsTo_iff.mp he
      obtain ⟨rfl, rfl⟩ := Prod.mk.inj (hm.symm.trans hm')
      have hsome : (S.lookup regURL).isSome := by
        by_contra hnone
        exact hadd (by simp [hlen, Option.not_isSome_iff_eq_none.mp hnone])
      rw [expanded_append_of_isSome (by rw [← hS]; exact hsome)]
    · rw [expanded_append_of_not_expandsTo (Bool.eq_false_iff.mpr he)]

/-- One round of the loop from a map that holds `expanded` of the keys visited so far. -/
theorem lookup_expandGlob_expanded (hfin : ExpansionsFinal auths imageReference) {S : Auths}
    {visited : List (List UInt8)} (hS : ∀ k, S.lookup k = expanded auths imageReference visited k)
    (g k : List UInt8) :
    (expandGlob imageReference S g).lookup k = expanded auths imageReference (visited ++ [g]) k := by
  rcases hg : S.lookup g with _ | v
  · have hA : auths.lookup g = none := (Option.or_eq_none_iff.mp ((hS g).symm.trans hg)).1
    rw [expandGlob_of_lookup_none hg, hS k, expanded_append_of_not_expandsTo (by simp [ExpandsTo, hA])]
  rcases hA : auths.lookup g with _ | w
  · rw [expandGlob_of_added hfin hS hg hA, hS k, expanded_append_of_not_expandsTo (by simp [ExpandsTo, hA])]
  have hvw : v = w := by
    have h := (hS g).symm.trans hg
    rw [expanded, hA, Option.some_or] at h
    exact (Option.some.inj h).symm
  subst hvw
  exact lookup_expandGlob_of_glob hS hg hA k

/-- The loop from a map that holds `expanded` of the keys visited so far: the rest of the order adds to them. -/
theorem lookup_foldl_expandGlob (hfin : ExpansionsFinal auths imageReference) :
    ∀ (rest visited : List (List UInt8)) (S : Auths), (∀ k, S.lookup k = expanded auths imageReference visited k) →
      ∀ k, (rest.foldl (expandGlob imageReference) S).lookup k = expanded auths imageReference (visited ++ rest) k
  | [], visited, S, hS => by
    rw [List.append_nil]
    exact hS
  | g :: rest, visited, S, hS => by
    intro k
    have h := lookup_foldl_expandGlob hfin rest (visited ++ [g]) _ (lookup_expandGlob_expanded hfin hS g) k
    rwa [List.append_assoc, List.singleton_append] at h

/-- `expandGlobs` computes `expanded`, whatever order its range takes. -/
theorem lookup_expandGlobs {ac : AuthCfg} (hfin : ExpansionsFinal ac.auths imageReference)
    (order : List (List UInt8)) (k : List UInt8) :
    (ac.expandGlobs imageReference order).auths.lookup k = expanded ac.auths imageReference order k :=
  lookup_foldl_expandGlob hfin order [] ac.auths (fun k => (expanded_nil k).symm) k

/-! ## Orders of the range -/

/-- An order of the range visits every glob of the map, so it finds one for every key a glob expands to. -/
theorem find?_expandsTo_isSome {order : List (List UInt8)} (h : IsRangeOrder auths order) {k g : List UInt8}
    (hg : ExpandsTo auths imageReference k g = true) : (order.find? (ExpandsTo auths imageReference k)).isSome := by
  have hmem : g ∈ order := h.2 g (AList.mem_keys.mp (expandsTo_iff.mp hg).1)
  rcases hf : order.find? (ExpandsTo auths imageReference k) with _ | g'
  · exact absurd hg (List.find?_eq_none.mp hf g hmem)
  · rfl

/-- Two orders of the range give every key the same credentials when the globs that expand to it agree. -/
theorem expanded_congr (hagree : ExpansionsAgree auths imageReference) {order₁ order₂ : List (List UInt8)}
    (h₁ : IsRangeOrder auths order₁) (h₂ : IsRangeOrder auths order₂) (k : List UInt8) :
    expanded auths imageReference order₁ k = expanded auths imageReference order₂ k := by
  unfold expanded
  rcases hk : auths.lookup k with _ | v
  · rw [Option.none_or, Option.none_or]
    rcases hf₁ : order₁.find? (ExpandsTo auths imageReference k) with _ | g₁ <;>
      rcases hf₂ : order₂.find? (ExpandsTo auths imageReference k) with _ | g₂
    · rfl
    · have := find?_expandsTo_isSome h₁ (List.find?_some hf₂)
      rw [hf₁] at this
      cases this
    · have := find?_expandsTo_isSome h₂ (List.find?_some hf₁)
      rw [hf₂] at this
      cases this
    · exact hagree k g₁ g₂ hk (List.find?_some hf₁) (List.find?_some hf₂)
  · rfl

/-! ## Deciding the conditions on the keys -/

theorem expansionsFinal_iff :
    ExpansionsFinal auths imageReference ↔
      ∀ g ∈ auths.keys, (matchAndExpandGlob g imageReference).2 = true →
        (matchAndExpandGlob g imageReference).1.length > 0 →
          (matchAndExpandGlob (matchAndExpandGlob g imageReference).1 imageReference).2 = false := by
  constructor
  · intro h g hg hok hlen
    exact h _ g (expandsTo_iff.mpr ⟨AList.mem_keys.mpr hg, by rw [← hok], hlen⟩)
  · intro h k g hkg
    obtain ⟨hg, hm, hlen⟩ := expandsTo_iff.mp hkg
    have := h g (AList.mem_keys.mp hg) (by rw [hm]) (by rw [hm]; exact hlen)
    rwa [hm] at this

instance : Decidable (ExpansionsFinal auths imageReference) := decidable_of_iff _ expansionsFinal_iff.symm

theorem expansionsAgree_iff :
    ExpansionsAgree auths imageReference ↔
      ∀ g₁ ∈ auths.keys, ∀ g₂ ∈ auths.keys,
        (matchAndExpandGlob g₁ imageReference).2 = true → (matchAndExpandGlob g₁ imageReference).1.length > 0 →
          auths.lookup (matchAndExpandGlob g₁ imageReference).1 = none →
            matchAndExpandGlob g₂ imageReference = matchAndExpandGlob g₁ imageReference →
              auths.lookup g₁ = auths.lookup g₂ := by
  constructor
  · intro h g₁ hg₁ g₂ hg₂ hok hlen hnew hsame
    refine h _ g₁ g₂ hnew (expandsTo_iff.mpr ⟨AList.mem_keys.mpr hg₁, by rw [← hok], hlen⟩)
      (expandsTo_iff.mpr ⟨AList.mem_keys.mpr hg₂, by rw [hsame, ← hok], hlen⟩)
  · intro h k g₁ g₂ hk h₁ h₂
    obtain ⟨hg₁, hm₁, hlen⟩ := expandsTo_iff.mp h₁
    obtain ⟨hg₂, hm₂, -⟩ := expandsTo_iff.mp h₂
    exact h g₁ (AList.mem_keys.mp hg₁) g₂ (AList.mem_keys.mp hg₂) (by rw [hm₁]) (by rw [hm₁]; exact hlen)
      (by rw [hm₁]; exact hk) (hm₂.trans hm₁.symm)

instance : Decidable (ExpansionsAgree auths imageReference) := decidable_of_iff _ expansionsAgree_iff.symm

/-! ## The marshalled text -/

instance : Std.Total keyLE := ⟨fun a b => List.le_total a.1 b.1⟩

instance : IsTrans (Sigma fun _ : List UInt8 => AuthData) keyLE := ⟨fun _ _ _ => List.le_trans⟩

/-- The text `marshallAuths` writes depends only on what the map holds, not on the order of its entries: sorting
entries of distinct keys leaves one order. -/
theorem marshallAuths_congr {a b : AuthCfg} (h : ∀ k, a.auths.lookup k = b.auths.lookup k) :
    a.marshallAuths = b.marshallAuths := by
  have hperm : a.auths.entries.Perm b.auths.entries :=
    List.lookup_ext a.auths.nodupKeys b.auths.nodupKeys fun k _ => by
      change _ ∈ a.auths.lookup k ↔ _ ∈ b.auths.lookup k
      rw [h k]
  have hsorted : a.auths.entries.insertionSort keyLE = b.auths.entries.insertionSort keyLE := by
    refine List.Perm.eq_of_pairwise ?_ (List.pairwise_insertionSort keyLE _) (List.pairwise_insertionSort keyLE _)
      ((List.perm_insertionSort keyLE _).trans (hperm.trans (List.perm_insertionSort keyLE _).symm))
    intro x y hx hy hxy hyx
    have hk : x.1 = y.1 := List.le_antisymm hxy hyx
    rw [List.mem_insertionSort] at hx hy
    have hxa : x.2 ∈ a.auths.lookup x.1 := AList.mem_lookup_iff.mpr hx
    have hyb : y.2 ∈ b.auths.lookup y.1 := AList.mem_lookup_iff.mpr hy
    rw [h, hk, hyb] at hxa
    exact Sigma.ext hk (heq_of_eq (Option.some.inj hxa).symm)
  rw [marshallAuths, marshallAuths, hsorted]

end AuthCfg

end Image

end MultiarchTuning
