import Transit.Common.StringUtils
import Mathlib.Tactic.Common

/-!
# What `str_trim` leaves

`str_trim` takes the blanks in front off, then one byte order mark, then the
blanks at the end; it does not look at the front again.

* `strTrim_complete_iff`: one call is enough exactly when nothing to trim stands
  behind the byte order mark.
-/

namespace Transit

theorem strTrim_eq (s : Str) : strTrim s = (if bom.isPrefixOf (s.dropWhile isspace) then (s.dropWhile isspace).drop 3
    else s.dropWhile isspace).rdropWhile isspace := rfl

theorem length_strTrim_le_dropWhile (s : Str) : (strTrim s).length ≤ (s.dropWhile isspace).length := by
  rw [strTrim_eq]
  refine Nat.le_trans (List.rdropWhile_prefix _ _).length_le ?_
  split
  · rw [List.length_drop]; omega
  · exact Nat.le_refl _

theorem length_strTrim_le (s : Str) : (strTrim s).length ≤ s.length :=
  Nat.le_trans (length_strTrim_le_dropWhile s) (List.dropWhile_suffix _).length_le

/-- What is left of a text without the blanks at its end does not end in one. -/
theorem rdropWhile_last {t : Str} {b : Byte} (h : (t.rdropWhile isspace).getLast? = some b) : isspace b = false := by
  have hne : t.rdropWhile isspace ≠ [] := fun hnil => by
    rw [hnil] at h
    cases h
  rw [List.getLast?_eq_some_getLast hne, Option.some.injEq] at h
  rw [← h]
  exact Bool.eq_false_iff.mpr (List.rdropWhile_last_not isspace t hne)

/-- Nothing to cut at the front (neither blanks nor the byte order mark) and at the end. -/
theorem strTrim_eq_self {s : Str} (hhead : ∀ b, s.head? = some b → isspace b = false)
    (hbom : bom.isPrefixOf s = false) (hlast : ∀ b, s.getLast? = some b → isspace b = false) :
    strTrim s = s := by
  have hskip : s.dropWhile isspace = s := by
    cases s with
    | nil => rfl
    | cons b s => exact List.dropWhile_cons_of_neg (by simp [hhead b rfl])
  rw [strTrim_eq, hskip, hbom, if_neg Bool.false_ne_true]
  refine List.rdropWhile_eq_self_iff.mpr fun hne => ?_
  rw [hlast _ (List.getLast?_eq_some_getLast hne)]
  exact Bool.false_ne_true

/-- No blank, and no byte that a byte order mark starts with. -/
theorem strTrim_of_solid {s : Str} (h : ∀ b ∈ s, isspace b = false ∧ b ≠ 0xEF) : strTrim s = s := by
  refine strTrim_eq_self (fun b hb => (h b (List.mem_of_mem_head? hb)).1) ?_
    (fun b hb => (h b (List.mem_of_getLast? hb)).1)
  cases s with
  | nil => rfl
  | cons b s =>
    have hb := (h b (List.mem_cons_self ..)).2
    simp only [bom, List.isPrefixOf, Bool.and_eq_false_iff, beq_eq_false_iff_ne]
    exact .inl (Ne.symm hb)

/-- A trimmed text does not end in a blank. -/
theorem strTrim_last {s : Str} {b : Byte} (h : (strTrim s).getLast? = some b) : isspace b = false := by
  rw [strTrim_eq] at h
  exact rdropWhile_last h

/-- The texts that trimming leaves as they are. -/
theorem strTrim_eq_self_iff {s : Str} : strTrim s = s ↔
    (∀ b, s.head? = some b → isspace b = false) ∧ bom.isPrefixOf s = false ∧
      ∀ b, s.getLast? = some b → isspace b = false := by
  refine ⟨fun h => ⟨fun b hb => ?_, ?_, fun b hb => strTrim_last (h.symm ▸ hb)⟩,
    fun ⟨hhead, hbom, hlast⟩ => strTrim_eq_self hhead hbom hlast⟩
  · -- a blank at the front is dropped, and the text gets shorter
    by_contra hspace
    obtain ⟨rest, rfl⟩ : ∃ rest, s = b :: rest := ⟨s.tail, List.eq_cons_of_mem_head? hb⟩
    have hlen := congrArg List.length h
    have hdrop : ((b :: rest).dropWhile isspace).length ≤ rest.length := by
      rw [List.dropWhile_cons_of_pos (by simpa using hspace)]
      exact (List.dropWhile_suffix _).length_le
    have htrim := length_strTrim_le_dropWhile (b :: rest)
    rw [List.length_cons] at hlen
    omega
  · by_contra hbom
    have hprefix : bom <+: s := List.isPrefixOf_iff_prefix.mp (by simpa using hbom)
    obtain ⟨rest, rfl⟩ := hprefix
    have hskip : (bom ++ rest).dropWhile isspace = bom ++ rest := rfl
    have hlen := congrArg List.length h
    have htrim : (strTrim (bom ++ rest)).length ≤ rest.length := by
      rw [strTrim_eq, hskip, if_pos (by simp)]
      exact (List.rdropWhile_prefix _ _).length_le
    have hthree : bom.length = 3 := rfl
    rw [List.length_append] at hlen
    omega

/-! ## Trimming twice -/

/-- No blank at either end, and no byte order mark in front. -/
structure Trimmed (s : Str) : Prop where
  head : ∀ b, s.head? = some b → isspace b = false
  last : ∀ b, s.getLast? = some b → isspace b = false
  mark : bom.isPrefixOf s = false

/-- One call of `str_trim` does what any number of calls do, and leaves nothing to trim. -/
structure TrimComplete (s : Str) : Prop where
  idempotent : strTrim (strTrim s) = strTrim s
  trimmed : Trimmed (strTrim s)

theorem trimmed_nil : Trimmed [] := ⟨fun _ h => (Option.some_ne_none _ h.symm).elim,
  fun _ h => (Option.some_ne_none _ h.symm).elim, rfl⟩

theorem Trimmed.strTrim_eq {s : Str} (h : Trimmed s) : strTrim s = s := strTrim_eq_self h.head h.mark h.last

theorem trimComplete_iff (s : Str) : TrimComplete s ↔ Trimmed (strTrim s) :=
  ⟨TrimComplete.trimmed, fun h => ⟨h.strTrim_eq, h⟩⟩

/-- The blanks at the end do not reach into a byte order mark. -/
theorem bom_prefix_of_append {v w : Str} (hw : ∀ b ∈ w, isspace b = true) (h : bom <+: v ++ w) :
    bom <+: v := by
  by_cases hlen : bom.length ≤ v.length
  · exact List.prefix_of_prefix_length_le h (List.prefix_append v w) hlen
  · obtain ⟨t, ht⟩ := List.prefix_of_prefix_length_le (List.prefix_append v w) h (by omega)
    rw [← ht, List.prefix_append_right_inj] at h
    have hlast : (0xBF : Byte) ∈ t := by
      have hne : t ≠ [] := fun hnil => by
        rw [hnil, List.append_nil] at ht
        exact hlen (ht ▸ Nat.le_refl _)
      have hend := congrArg List.getLast? ht
      rw [List.getLast?_append_of_ne_nil _ hne] at hend
      exact List.mem_of_getLast? hend
    exact absurd (hw _ (h.subset hlast)) (by decide)

/-- Cutting the blanks at the end of a text that is not blank does not change its front. -/
theorem trimmed_rdropWhile_iff {u : Str} (hblank : strIsBlank u = false) :
    Trimmed (u.rdropWhile isspace) ↔ (∀ b, u.head? = some b → isspace b = false) ∧ bom.isPrefixOf u = false := by
  have hsplit : u.rdropWhile isspace ++ u.rtakeWhile isspace = u := List.rdropWhile_append_rtakeWhile ..
  have hend : ∀ b ∈ u.rtakeWhile isspace, isspace b = true := fun b hb => List.mem_rtakeWhile_imp hb
  have hlast : ∀ b, (u.rdropWhile isspace).getLast? = some b → isspace b = false := fun _ => rdropWhile_last
  generalize u.rdropWhile isspace = v at hsplit hlast ⊢
  generalize u.rtakeWhile isspace = w at hsplit hend
  have hne : v ≠ [] := by
    rintro rfl
    rw [List.nil_append] at hsplit
    have hall : strIsBlank u = true := List.all_eq_true.mpr (hsplit ▸ hend)
    rw [hall] at hblank
    cases hblank
  have hhead : u.head? = v.head? := by rw [← hsplit, List.head?_append_of_ne_nil _ hne]
  have hmark : bom.isPrefixOf u = bom.isPrefixOf v := by
    rw [Bool.eq_iff_iff, List.isPrefixOf_iff_prefix, List.isPrefixOf_iff_prefix, ← hsplit]
    exact ⟨bom_prefix_of_append hend, fun h => h.trans (List.prefix_append v w)⟩
  rw [hhead, hmark]
  exact ⟨fun h => ⟨h.head, h.mark⟩, fun h => ⟨h.1, hlast, h.2⟩⟩

theorem strTrim_of_blank {u : Str} (h : strIsBlank u = true) : u.rdropWhile isspace = [] :=
  List.rdropWhile_eq_nil_iff.mpr fun b hb => List.all_eq_true.mp h b hb

/-- Behind the blanks in front, and the byte order mark if there is one, stands
nothing or something that is neither. -/
theorem strTrim_complete_iff (s : Str) : TrimComplete s ↔ ∀ rest, s.dropWhile isspace = bom ++ rest →
    strIsBlank rest = true ∨ ((∀ b, rest.head? = some b → isspace b = false) ∧ bom.isPrefixOf rest = false) := by
  have hstart : ∀ b, (s.dropWhile isspace).head? = some b → isspace b = false := fun b hb =>
    Bool.eq_false_iff.mpr (by simpa [hb] using List.head?_dropWhile_not isspace s)
  rw [trimComplete_iff, strTrim_eq]
  generalize s.dropWhile isspace = t at hstart
  by_cases hmark : bom.isPrefixOf t = true
  · obtain ⟨rest, rfl⟩ := List.isPrefixOf_iff_prefix.mp hmark
    rw [if_pos hmark, show (bom ++ rest).drop 3 = rest from rfl]
    simp only [List.append_cancel_left_eq, forall_eq']
    cases hblank : strIsBlank rest with
    | true =>
      rw [strTrim_of_blank hblank]
      exact iff_of_true trimmed_nil (.inl rfl)
    | false => rw [trimmed_rdropWhile_iff hblank, or_iff_right Bool.false_ne_true]
  · have hnone : ∀ rest, t ≠ bom ++ rest := fun rest ht =>
      hmark (List.isPrefixOf_iff_prefix.mpr (ht ▸ List.prefix_append ..))
    rw [if_neg hmark]
    refine iff_of_true ?_ fun rest ht => absurd ht (hnone rest)
    cases hblank : strIsBlank t with
    | true =>
      rw [strTrim_of_blank hblank]
      exact trimmed_nil
    | false => exact (trimmed_rdropWhile_iff hblank).mpr ⟨hstart, Bool.eq_false_iff.mpr hmark⟩

/-- A blank behind the byte order mark is left in front. -/
theorem strTrim_complete_mark : ¬ TrimComplete (bom ++ utf8 " A") := fun h =>
  absurd (h.trimmed.head 32 rfl) (by decide)

end Transit
