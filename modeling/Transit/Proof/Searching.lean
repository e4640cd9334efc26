import Transit.Framework.Seen
import Transit.Server.SearchService

/-!
# Texts found in texts

`strstr` finds a text exactly where it is an infix of the other. The searches
keep the routes they have listed in a text, each between two `|`;
`routeKeyExists_fences` says when `route_key_exists` finds one there.
-/

namespace Transit

open Framework

theorem isSome_strstr_iff {text word : Str} : (strstr text word).isSome = true ↔ word <:+: text := by
  induction text with
  | nil =>
    unfold strstr
    by_cases h : word.isPrefixOf [] = true
    · rw [if_pos h]
      exact ⟨fun _ => (List.isPrefixOf_iff_prefix.mp h).isInfix, fun _ => rfl⟩
    · rw [if_neg h]
      refine ⟨fun hnone => absurd hnone Bool.false_ne_true, fun hpart => ?_⟩
      rw [List.infix_nil] at hpart
      exact absurd (by rw [hpart]; rfl) h
  | cons c text ih =>
    unfold strstr
    by_cases h : word.isPrefixOf (c :: text) = true
    · rw [if_pos h]
      exact ⟨fun _ => (List.isPrefixOf_iff_prefix.mp h).isInfix, fun _ => rfl⟩
    · rw [if_neg h, List.infix_cons_iff]
      dsimp only
      rw [ih, ← List.isPrefixOf_iff_prefix, or_iff_right h]

/-- `keyword_match` with a keyword that is not blank. -/
theorem keywordMatch_iff {keyword : Str} (h : strIsBlank keyword = false) {text : Str} :
    keywordMatch text keyword = true ↔ keyword <:+: text := by
  unfold keywordMatch
  rw [h, Bool.not_false, Bool.true_and, isSome_strstr_iff]

/-! ## Routes listed once -/

/-- How a key is found: as it is, or by its first 130 bytes where the needle is cut. -/
def keyFound (key k : Str) : Bool :=
  if key.length ≤ 129 then key == k else (key.take 130).isPrefixOf k

theorem keyFound_self (key : Str) : keyFound key key = true := by
  unfold keyFound
  by_cases hshort : key.length ≤ 129
  · rw [if_pos hshort, beq_self_eq_true]
  · rw [if_neg hshort, List.isPrefixOf_iff_prefix]
    exact List.take_prefix ..

theorem routeKeyExists_fences {keys : List Str} {key : Str} (hkeys : ∀ k ∈ keys, 124 ∉ k ∧ k ≠ [])
    (hfree : 124 ∉ key) (hne : key ≠ []) : routeKeyExists (fences 124 keys) key = keys.any (keyFound key) := by
  have hbuffer : maxRouteLen + 4 - 1 = 131 := rfl
  have hkeys1 : ∀ k ∈ keys, 124 ∉ k := fun k hk => (hkeys k hk).1
  have hkeys2 : ∀ k ∈ keys, k ≠ [] := fun k hk => (hkeys k hk).2
  unfold routeKeyExists
  rw [decide_eq_true hne, Bool.true_and, Bool.eq_iff_iff, isSome_strstr_iff, List.any_eq_true]
  by_cases hshort : key.length ≤ 129
  · have hneedle : snprintf (maxRouteLen + 4) ([124] ++ key ++ [124]) = fenced 124 key := by
      refine (snprintf_of_le ?_).trans (by simp [fenced])
      simp only [List.length_append, List.length_singleton]
      omega
    rw [hneedle, fenced_infix_iff hkeys1 hkeys2 hfree hne]
    constructor
    · exact fun hk => ⟨key, hk, keyFound_self key⟩
    · rintro ⟨k, hk, hfound⟩
      rw [keyFound, if_pos hshort, beq_iff_eq] at hfound
      exact hfound ▸ hk
  · have hneedle : snprintf (maxRouteLen + 4) ([124] ++ key ++ [124]) = 124 :: key.take 130 := by
      unfold snprintf
      rw [hbuffer, List.append_assoc, List.singleton_append, List.take_succ_cons,
        List.take_append_of_le_length (by omega)]
    have hcut : key.take 130 ≠ [] := List.ne_nil_of_length_pos (by rw [List.length_take]; omega)
    rw [hneedle, fence_infix_iff hkeys1 hkeys2 (fun hm => hfree (List.mem_of_mem_take hm)) hcut]
    simp only [keyFound, if_neg hshort, List.isPrefixOf_iff_prefix]

end Transit
