import Transit.Framework.Split
import Transit.Proof.Trimming
import Transit.Server.DataLoader

/-!
# The lines that two stations share

`next_csv_token` returns 0 at the end of the text and also for a blank entry, so
the loops of `common_line_name` see the entries in front of the first blank one
(`csvTokens_eq`).

* `commonLineName_iff`: the shared line is found exactly when it stands there
  in both lists.
-/

namespace Transit

open Framework (cut_induction length_le_of_mem_splitOn)

/-- The names in a list of lines. -/
def lineNames (lines : Str) : List Str := ((lines.splitOn 44).map strTrim).filter (!strIsBlank ·)

/-- The first name of `a` that is also one of `b`. -/
def sharedLine (a b : Str) : Option Str := (lineNames a).find? ((lineNames b).contains ·)

/-- The names in front of the first blank entry. -/
def leadingNames (lines : Str) : List Str := ((lines.splitOn 44).map strTrim).takeWhile (!strIsBlank ·)

/-- The first of them that stands in front of the blank entries of both lists. -/
def leadingLine (a b : Str) : Option Str := (leadingNames a).find? ((leadingNames b).contains ·)

/-- The loop over the tokens of a text ends by itself, whatever steps are allowed. -/
def TokensEnd (lines : Str) : Prop :=
  ∀ fuel, lines.length ≤ fuel → csvTokens fuel lines = csvTokens lines.length lines

/-- The loops end and find the shared line if there is one. -/
structure FindsSharedLine (a b : Str) : Prop where
  endsOuter : TokensEnd a
  endsInner : TokensEnd b
  finds : commonLineName a b maxRouteLen = sharedLine a b

/-! ## The tokens -/

theorem strTrim_dropSpaces (s : Str) : strTrim (s.dropWhile (· == 32)) = strTrim s := by
  have hskip : (s.dropWhile (· == 32)).dropWhile isspace = s.dropWhile isspace := by
    induction s with
    | nil => rfl
    | cons b s ih =>
      by_cases hb : b = 32
      · subst hb
        rw [List.dropWhile_cons_of_pos rfl, ih, List.dropWhile_cons_of_pos (by decide)]
      · rw [List.dropWhile_cons_of_neg (by simpa using hb)]
  unfold strTrim
  rw [hskip]

theorem dropSpaces_append (s : Str) {rest : Str} (h : rest.head? ≠ some 32) :
    (s ++ rest).dropWhile (· == 32) = s.dropWhile (· == 32) ++ rest := by
  have hrest : rest.dropWhile (· == 32) = rest := by
    cases rest with
    | nil => rfl
    | cons b rest => exact List.dropWhile_cons_of_neg (by simpa using h)
  induction s with
  | nil => exact hrest
  | cons b s ih =>
    by_cases hb : b = 32
    · subst hb
      rw [List.cons_append, List.dropWhile_cons_of_pos rfl, List.dropWhile_cons_of_pos rfl, ih]
    · rw [List.cons_append, List.dropWhile_cons_of_neg (by simpa using hb),
        List.dropWhile_cons_of_neg (by simpa using hb), List.cons_append]

/-- A call reads the entry in front of the next comma, or the last one. -/
theorem nextCsvToken_entry {entry : Str} (rest : Str) (hentry : 44 ∉ entry) (hlen : entry.length ≤ maxRouteLen - 1)
    (hrest : rest = [] ∨ rest.head? = some 44) :
    nextCsvToken (entry ++ rest) maxRouteLen =
      if strIsBlank (strTrim entry) then none else some (strTrim entry, rest.tail) := by
  have hspaces : (entry ++ rest).dropWhile (· == 32) = entry.dropWhile (· == 32) ++ rest := by
    refine dropSpaces_append entry ?_
    rcases hrest with rfl | hcomma
    · exact Option.some_ne_none _ |>.symm
    · rw [hcomma]
      decide
  have hstart : ∀ b ∈ entry.dropWhile (· == 32), (b != 44) = true := fun b hb => by
    have hne : b ≠ 44 := fun h => hentry (h ▸ (List.dropWhile_suffix _).subset hb)
    simpa using hne
  have hshort : (entry.dropWhile (· == 32)).length ≤ maxRouteLen - 1 :=
    (List.dropWhile_suffix _).length_le.trans hlen
  have htrim := strTrim_dropSpaces entry
  unfold nextCsvToken
  dsimp only
  rw [hspaces]
  generalize entry.dropWhile (· == 32) = start at hstart hshort htrim
  have htake : (start ++ rest).takeWhile (· != 44) = start := by
    rw [List.takeWhile_append_of_pos hstart]
    rcases hrest with rfl | hcomma
    · exact List.append_nil _
    · obtain ⟨tail, rfl⟩ := List.head?_eq_some_iff.mp hcomma
      exact List.append_nil _
  have hdrop : (start ++ rest).dropWhile (· != 44) = rest := by
    rw [List.dropWhile_append_of_pos hstart]
    rcases hrest with rfl | hcomma
    · rfl
    · obtain ⟨tail, rfl⟩ := List.head?_eq_some_iff.mp hcomma
      rfl
  by_cases hnil : start ++ rest = []
  · -- at the end of the text the entry is empty
    obtain ⟨rfl, -⟩ := List.append_eq_nil_iff.mp hnil
    rw [if_pos hnil, ← htrim]
    rfl
  · rw [if_neg hnil, htake, hdrop, List.take_of_length_le hshort, htrim]

/-- The loop reads the entries in front of the first blank one. -/
theorem csvTokens_eq {fuel : Nat} {lines : Str} (hfuel : lines.length ≤ fuel)
    (hlen : lines.length ≤ maxRouteLen - 1) : csvTokens fuel lines = leadingNames lines := by
  unfold leadingNames
  induction lines using cut_induction (c := (44 : Byte)) generalizing fuel with
  | last entry hentry =>
    have hcall := nextCsvToken_entry [] hentry hlen (.inl rfl)
    rw [List.append_nil] at hcall
    rw [List.splitOn_eq_singleton hentry, List.map_singleton]
    cases fuel with
    | zero =>
      rw [List.length_eq_zero_iff.mp (Nat.le_zero.mp hfuel)]
      rfl
    | succ fuel =>
      rw [csvTokens, hcall]
      cases hblank : strIsBlank (strTrim entry) with
      | true => simp [hblank]
      | false =>
        have hend : csvTokens fuel [] = [] := by cases fuel <;> rfl
        simp [hblank, hend]
  | cut entry rest hentry ih =>
    rw [List.length_append, List.length_cons] at hfuel hlen
    have hcall := nextCsvToken_entry (44 :: rest) hentry (by omega) (.inr rfl)
    obtain ⟨fuel, rfl⟩ : ∃ k, fuel = k + 1 := ⟨fuel - 1, by omega⟩
    rw [List.splitOn_append_cons_self_of_not_mem hentry, List.map_cons, csvTokens, hcall]
    cases hblank : strIsBlank (strTrim entry) with
    | true => simp [hblank]
    | false =>
      rw [List.takeWhile_cons_of_pos (by simp [hblank])]
      simp [ih (show rest.length ≤ fuel by omega) (by omega)]

theorem tokensEnd_of_length {lines : Str} (hlen : lines.length ≤ maxRouteLen - 1) : TokensEnd lines :=
  fun fuel hfuel => by rw [csvTokens_eq hfuel hlen, csvTokens_eq (Nat.le_refl _) hlen]

/-! ## The shared line -/

theorem leadingNames_within (lines : Str) : leadingNames lines <+: lineNames lines := by
  unfold leadingNames lineNames
  generalize (lines.splitOn 44).map strTrim = names
  induction names with
  | nil => exact List.prefix_refl _
  | cons name names ih =>
    by_cases hblank : strIsBlank name = true
    · rw [List.takeWhile_cons_of_neg (by simp [hblank])]
      exact List.nil_prefix
    · rw [List.takeWhile_cons_of_pos (by simp [hblank]), List.filter_cons_of_pos (by simp [hblank])]
      exact (List.prefix_cons_inj name).mpr ih

/-- Searching a prefix by a stronger test finds the same exactly when what is to be found passes. -/
theorem find?_prefix_eq_iff {α : Type} {xs ys : List α} (h : xs <+: ys) {p q : α → Bool}
    (hpq : ∀ x, p x = true → q x = true) :
    xs.find? p = ys.find? q ↔ ∀ x ∈ ys.find? q, x ∈ xs ∧ p x = true := by
  constructor
  · intro heq x hx
    rw [← heq] at hx
    exact ⟨List.mem_of_find?_eq_some hx, List.find?_some hx⟩
  · intro hfound
    obtain ⟨zs, rfl⟩ := h
    induction xs with
    | nil =>
      rw [List.nil_append] at hfound ⊢
      cases hfind : zs.find? q with
      | none => rfl
      | some x => exact absurd (hfound x hfind).1 List.not_mem_nil
    | cons x xs ih =>
      rw [List.cons_append] at hfound ⊢
      by_cases hq : q x = true
      · rw [List.find?_cons_of_pos hq] at hfound ⊢
        rw [List.find?_cons_of_pos (hfound x rfl).2]
      · have hp : ¬ p x = true := fun hp => hq (hpq x hp)
        rw [List.find?_cons_of_neg hq] at hfound ⊢
        rw [List.find?_cons_of_neg hp]
        refine ih fun y hy => ?_
        obtain ⟨hmem, hpy⟩ := hfound y hy
        rcases List.mem_cons.mp hmem with rfl | hmem
        · exact absurd hpy hp
        · exact ⟨hmem, hpy⟩

theorem length_leadingLine_le {a b line : Str} (ha : a.length ≤ maxRouteLen - 1) (h : leadingLine a b = some line) :
    line.length ≤ maxRouteLen - 1 := by
  have hname := List.mem_of_find?_eq_some h
  obtain ⟨entry, hentry, rfl⟩ := List.mem_map.mp ((List.takeWhile_sublist _).subset hname)
  exact (length_strTrim_le entry).trans ((length_le_of_mem_splitOn hentry).trans ha)

/-- The shared line that is found. -/
theorem commonLineName_eq {a b : Str} (ha : a.length ≤ maxRouteLen - 1) (hb : b.length ≤ maxRouteLen - 1) :
    commonLineName a b maxRouteLen = leadingLine a b := by
  unfold commonLineName
  rw [csvTokens_eq (Nat.le_refl _) ha, csvTokens_eq (Nat.le_refl _) hb]
  show (leadingLine a b).map _ = _
  cases hfind : leadingLine a b with
  | none => rfl
  | some name => rw [Option.map_some, safeStrcpy, snprintf_of_le (length_leadingLine_le ha hfind)]

/-- It is the first one shared exactly when that stands in front of all blank entries in both lists. -/
theorem leadingLine_eq_iff {a b : Str} :
    leadingLine a b = sharedLine a b ↔ ∀ line ∈ sharedLine a b, line ∈ leadingNames a ∧ line ∈ leadingNames b := by
  have hsub : ∀ line, (leadingNames b).contains line = true → (lineNames b).contains line = true := by
    simp only [List.contains_iff_mem]
    exact fun line h => (leadingNames_within b).subset h
  have hfind := find?_prefix_eq_iff (leadingNames_within a) hsub
  simp only [List.contains_iff_mem] at hfind
  exact hfind

/-- The first shared line is found exactly when it stands in front of all blank entries in both lists. -/
theorem commonLineName_iff {a b : Str} (ha : a.length ≤ maxRouteLen - 1) (hb : b.length ≤ maxRouteLen - 1) :
    FindsSharedLine a b ↔ ∀ line ∈ sharedLine a b, line ∈ leadingNames a ∧ line ∈ leadingNames b := by
  rw [← leadingLine_eq_iff, ← commonLineName_eq ha hb]
  exact ⟨fun h => h.finds, fun h => ⟨tokensEnd_of_length ha, tokensEnd_of_length hb, h⟩⟩

theorem commonLineName_numbers : FindsSharedLine (utf8 "2, 4") (utf8 "3, 2,,4") :=
  (commonLineName_iff (by decide) (by decide)).mpr (by decide)

/-- An empty entry hides those behind it. -/
theorem commonLineName_hidden : (utf8 "A,,B").length ≤ maxRouteLen - 1 ∧ (utf8 "B").length ≤ maxRouteLen - 1 ∧
    ¬ FindsSharedLine (utf8 "A,,B") (utf8 "B") :=
  ⟨by decide, by decide, fun h => absurd h.finds (by decide)⟩

end Transit
