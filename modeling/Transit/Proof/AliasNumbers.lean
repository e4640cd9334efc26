import Transit.Proof.DecimalNumbers
import Transit.Server.SearchService

/-!
# The numbers by which stop ids are aliases

`stop_ids_alias_match` compares the digits behind `STOP_` with those behind the
first three of a node id, each as `strtol` reads it. Ids have room for more
digits than a `long`, at whose limit `strtol` stops.

* `stopIdsAliasMatch_iff`: ids match exactly by the numbers they end in, unless
  two different ones are both out of reach.
-/

namespace Transit

/-- The digits of an alias `STOP_<digits>`. -/
def aliasDigits (aliasId : Str) : Option Str :=
  if (utf8 "STOP_").isPrefixOf aliasId && !(aliasId.drop 5).isEmpty && (aliasId.drop 5).all isdigit then
    some (aliasId.drop 5)
  else none

/-- The digits of a node id behind its first three. -/
def tailDigits (nodeId : Str) : Option Str :=
  if nodeId.length > 3 && nodeId.all isdigit then some (nodeId.drop 3) else none

/-- Ids match exactly when they have the two forms and their numbers are equal. -/
def MatchesByNumber (aliasId nodeId : Str) : Prop :=
  stopIdsAliasMatch aliasId nodeId = true ↔
    ∃ ds ∈ aliasDigits aliasId, ∃ tail ∈ tailDigits nodeId, decimal ds = decimal tail

theorem decimal_nonneg (ds : Str) : 0 ≤ decimal ds := by
  induction ds using List.reverseRecOn with
  | nil => exact Int.le_refl 0
  | append_singleton ds d ih =>
    rw [decimal_concat]
    omega

/-- A text that begins with a digit is read to its end exactly when it has only digits. -/
theorem strtol_digits {c : Byte} (h : isdigit c = true) (rest : Str) :
    (if (strtol (c :: rest)).2 = [] then some (strtol (c :: rest)).1 else none) =
      if (c :: rest).all isdigit then some (clampLong (decimal (c :: rest))) else none := by
  have hread := strtol_of_digit (List.forall_mem_nil _) h rest
  rw [List.nil_append] at hread
  rw [hread]
  by_cases hall : (c :: rest).all isdigit = true
  · have hdigits := List.all_eq_true.mp hall
    rw [if_pos (List.dropWhile_eq_nil_iff.mpr hdigits), if_pos hall, List.takeWhile_eq_self_iff.mpr hdigits]
    rfl
  · rw [if_neg (fun hnil => hall (List.all_eq_true.mpr (List.dropWhile_eq_nil_iff.mp hnil))), if_neg hall]

theorem parseStopAliasNumber_eq (aliasId : Str) :
    parseStopAliasNumber aliasId = (aliasDigits aliasId).map fun ds => clampLong (decimal ds) := by
  unfold parseStopAliasNumber aliasDigits
  dsimp only
  cases hpre : (utf8 "STOP_").isPrefixOf aliasId with
  | false => rfl
  | true =>
    cases aliasId.drop 5 with
    | nil => rfl
    | cons c rest =>
      rw [List.head?_cons, Option.any_some]
      cases hdigit : isdigit c with
      | false => simp [hdigit]
      | true =>
        have hread := strtol_digits hdigit rest
        simp only [Bool.not_true, Bool.or_self, Bool.false_eq_true, ↓reduceIte, List.isEmpty_cons, Bool.not_false,
          Bool.true_and, hread]
        split <;> rfl

theorem parseNodeTailNumber_eq (nodeId : Str) :
    parseNodeTailNumber nodeId = (tailDigits nodeId).map fun ds => clampLong (decimal ds) := by
  unfold parseNodeTailNumber tailDigits
  dsimp only
  by_cases hlen : nodeId.length ≤ 3
  · rw [if_pos hlen, decide_eq_false (by omega), Bool.false_and]
    rfl
  rw [if_neg hlen, decide_eq_true (by omega), Bool.true_and]
  cases hall : nodeId.all isdigit with
  | false => rfl
  | true =>
    have hdigits := List.all_eq_true.mp hall
    obtain ⟨c, rest, hdrop⟩ : ∃ c rest, nodeId.drop 3 = c :: rest :=
      List.exists_cons_of_ne_nil (List.ne_nil_of_length_pos (by rw [List.length_drop]; omega))
    have hmem : ∀ b ∈ c :: rest, isdigit b = true := fun b hb => hdigits b (List.mem_of_mem_drop (hdrop ▸ hb))
    have hread := strtol_digits (hmem c (List.mem_cons_self ..)) rest
    rw [hdrop]
    simp only [Bool.not_true, Bool.false_eq_true, ↓reduceIte, hread, List.all_eq_true.mpr hmem]
    rfl

/-- Two numbers that are read as the same `long`. -/
theorem clampLong_eq_iff {m n : Int} (hm : 0 ≤ m) (hn : 0 ≤ n) :
    clampLong m = clampLong n ↔ m = n ∨ (2 ^ 63 - 1 ≤ m ∧ 2 ^ 63 - 1 ≤ n) := by
  unfold clampLong
  omega

/-- Ids match by their numbers exactly where the `long`s tell the numbers apart. -/
theorem stopIdsAliasMatch_iff (aliasId nodeId : Str) : MatchesByNumber aliasId nodeId ↔
    ∀ ds ∈ aliasDigits aliasId, ∀ tail ∈ tailDigits nodeId,
      decimal ds = decimal tail ∨ decimal ds < 2 ^ 63 - 1 ∨ decimal tail < 2 ^ 63 - 1 := by
  unfold MatchesByNumber stopIdsAliasMatch
  rw [parseStopAliasNumber_eq, parseNodeTailNumber_eq]
  cases aliasDigits aliasId with
  | none => simp
  | some ds =>
    cases tailDigits nodeId with
    | none => simp
    | some tail =>
      have hclamp := clampLong_eq_iff (decimal_nonneg ds) (decimal_nonneg tail)
      simp only [Option.map_some, beq_iff_eq, Option.mem_some_iff, exists_eq_left', forall_eq', hclamp]
      omega

/-- Two numbers out of reach of a `long`. -/
theorem stopIdsAliasMatch_saturated : (utf8 "STOP_9223372036854775807").length ≤ maxIdLen - 1 ∧
    (utf8 "2850009223372036854775808").length ≤ maxIdLen - 1 ∧
    ¬ MatchesByNumber (utf8 "STOP_9223372036854775807") (utf8 "2850009223372036854775808") := by
  refine ⟨by decide, by decide, fun h => ?_⟩
  have hmatch : stopIdsAliasMatch (utf8 "STOP_9223372036854775807") (utf8 "2850009223372036854775808") = true := by
    decide
  obtain ⟨ds, hds, tail, htail, heq⟩ := h.mp hmatch
  have hds' : ds = utf8 "9223372036854775807" := (Option.mem_some_iff.mp hds).symm
  have htail' : tail = utf8 "0009223372036854775808" := (Option.mem_some_iff.mp htail).symm
  rw [hds', htail'] at heq
  exact absurd heq (by decide)

end Transit
