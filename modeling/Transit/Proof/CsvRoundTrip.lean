import Transit.Proof.CsvLines
import Transit.Proof.Trimming
import Transit.Tools.CsvWriter

/-!
# Reading the rows that the generators write

`csv_parse_line` drops every quote, also the doubled ones that stand for a
quote of the field (`csvParseLine_writerow`).

* `csvRoundTrip_iff`: a row is read as it was written exactly when none of its
  fields has a quote in it.
-/

namespace Transit

open Framework

/-- A field that neither the line, the buffer nor the trimming cuts. -/
structure CsvValue (f : Str) : Prop where
  bytes : 0 ∉ f ∧ 10 ∉ f ∧ 13 ∉ f
  length : f.length ≤ 255
  head : f.head?.any isspace = false
  last : f.getLast?.any isspace = false
  noBom : bom.isPrefixOf f = false

structure CsvRecord (fields : List Str) : Prop where
  nonempty : fields ≠ []
  count : fields.length ≤ 32
  each : ∀ f ∈ fields, CsvValue f

/-- Trimming leaves such a field as it is. -/
theorem CsvValue.trim {f : Str} (h : CsvValue f) : strTrim f = f := by
  refine strTrim_eq_self (fun b hb => ?_) h.noBom fun b hb => ?_
  · have hhead := h.head
    rwa [hb, Option.any_some] at hhead
  · have hlast := h.last
    rwa [hb, Option.any_some] at hlast

theorem not_needsQuotes {f : Str} (h : needsQuotes f = false) : 44 ∉ f ∧ 34 ∉ f := by
  have hall : ∀ b ∈ f, b ≠ 44 ∧ b ≠ 34 := fun b hb => by
    have hne := List.any_eq_false.mp h b hb
    simp only [Bool.or_eq_true, beq_iff_eq, not_or] at hne
    exact ⟨hne.1.1.1, hne.1.1.2⟩
  exact ⟨fun hm => (hall _ hm).1 rfl, fun hm => (hall _ hm).2 rfl⟩

theorem filter_quotes_of_not_mem {f : Str} (h : 34 ∉ f) : f.filter (· ≠ 34) = f :=
  List.filter_eq_self.mpr fun b hb => by
    rw [decide_eq_true_eq]
    rintro rfl
    exact h hb

/-- A field is cut out of its line without its quotes. -/
theorem cells_writeField (f rest : Str) :
    cells 44 34 false (writeField f ++ rest) = (cells 44 34 false rest).modifyHead (f.filter (· ≠ 34) ++ ·) := by
  unfold writeField
  cases hq : needsQuotes f with
  | true => exact cells_quoted f rest
  | false =>
    obtain ⟨hsep, hquote⟩ := not_needsQuotes hq
    rw [filter_quotes_of_not_mem hquote]
    exact cells_append hsep hquote rest

theorem mem_writeField {f : Str} {b : Byte} (h : b ∈ writeField f) : b ∈ f ∨ b = 34 := by
  unfold writeField quoted at h
  split at h
  · simp only [List.cons_append, List.mem_cons, List.mem_append, List.mem_flatMap, List.not_mem_nil, or_false] at h
    rcases h with h | ⟨a, ha, hb⟩ | h
    · exact .inr h
    · split at hb
      · simp only [List.mem_cons, List.not_mem_nil, or_false, or_self] at hb
        exact .inr hb
      · rw [List.mem_singleton.mp hb]
        exact .inl ha
    · exact .inr h
  · exact .inl h

/-- The text of a row before its line end. -/
def rowText (fields : List Str) : Str :=
  if fields = [[]] then quoted 34 [] else [44].intercalate (fields.map writeField)

theorem not_mem_rowText {fields : List Str} {b : Byte} (hsep : b ≠ 44) (hquote : b ≠ 34)
    (h : ∀ f ∈ fields, b ∉ f) : b ∉ rowText fields := by
  unfold rowText
  by_cases hone : fields = [[]]
  · rw [if_pos hone]
    simpa [quoted] using hquote
  · rw [if_neg hone]
    refine not_mem_intercalate hsep fun x hx hm => ?_
    obtain ⟨f, hf, rfl⟩ := List.mem_map.mp hx
    rcases mem_writeField hm with hm | hm
    · exact h f hf hm
    · exact hquote hm

/-- The line ends at its carriage return. -/
theorem lineText_row {fields : List Str} (h : ∀ f ∈ fields, 0 ∉ f ∧ 10 ∉ f ∧ 13 ∉ f) :
    lineText (writerow fields) = rowText fields := by
  have h0 : 0 ∉ rowText fields := not_mem_rowText (by decide) (by decide) fun f hf => (h f hf).1
  have h10 : 10 ∉ rowText fields := not_mem_rowText (by decide) (by decide) fun f hf => (h f hf).2.1
  have h13 : 13 ∉ rowText fields := not_mem_rowText (by decide) (by decide) fun f hf => (h f hf).2.2
  have hall : ∀ b ∈ rowText fields, decide (b ≠ 0 ∧ b ≠ 10 ∧ b ≠ 13) = true := fun b hb =>
    decide_eq_true ⟨fun he => h0 (he ▸ hb), fun he => h10 (he ▸ hb), fun he => h13 (he ▸ hb)⟩
  show List.takeWhile _ (rowText fields ++ [13, 10]) = _
  rw [List.takeWhile_append_of_pos hall]
  exact List.append_nil _

theorem cells_rowText {fields : List Str} (hne : fields ≠ []) :
    cells 44 34 false (rowText fields) = fields.map fun f => f.filter (· ≠ 34) := by
  unfold rowText
  by_cases hone : fields = [[]]
  · rw [if_pos hone, hone]
    decide
  · rw [if_neg hone]
    exact cells_intercalate (by decide) cells_writeField hne

/-- A row is read with all fields, each without its quotes. -/
theorem csvParseLine_row {fields : List Str} (hne : fields ≠ []) (hcount : fields.length ≤ 32)
    (h : ∀ f ∈ fields, 0 ∉ f ∧ 10 ∉ f ∧ 13 ∉ f) :
    csvParseLine (cstr (writerow fields)) = ⟨fields.map fun f => cellText (f.filter (· ≠ 34))⟩ := by
  rw [csvParseLine_cstr, lineColumns, lineText_row h, cells_rowText hne,
    List.take_of_length_le (by rw [List.length_map]; exact hcount), List.map_map]
  rfl

theorem csvParseLine_writerow {fields : List Str} (h : CsvRecord fields) :
    csvParseLine (cstr (writerow fields)) = ⟨fields.map fun f => cellText (f.filter (· ≠ 34))⟩ :=
  csvParseLine_row h.nonempty h.count fun f hf => (h.each f hf).bytes

theorem not_mem_cellText (f : Str) : 34 ∉ cellText (f.filter (· ≠ 34)) := by
  intro hm
  have hm := List.mem_of_mem_take (strTrim_subset _ hm)
  simpa using (List.mem_filter.mp hm).2

/-- A row is read as it was written exactly when no field has a quote. -/
theorem csvRoundTrip_iff {fields : List Str} (h : CsvRecord fields) :
    csvParseLine (cstr (writerow fields)) = ⟨fields⟩ ↔ ∀ f ∈ fields, 34 ∉ f := by
  rw [csvParseLine_writerow h, CsvRow.mk.injEq]
  constructor
  · intro hmap f hf
    rw [← hmap] at hf
    obtain ⟨g, -, rfl⟩ := List.mem_map.mp hf
    exact not_mem_cellText g
  · intro hfree
    refine (List.map_congr_left fun f hf => ?_).trans (List.map_id _)
    have hvalue := h.each f hf
    rw [filter_quotes_of_not_mem (hfree f hf), cellText_short (Nat.lt_succ_of_le hvalue.length)]
    exact hvalue.trim

/-- A comma in a field is no harm. -/
theorem csvRoundTrip_comma :
    csvParseLine (cstr (writerow [utf8 "1호선,경의중앙선", utf8 "역"])) =
      ⟨[utf8 "1호선,경의중앙선", utf8 "역"]⟩ :=
  (csvRoundTrip_iff ⟨by decide, by decide, by
    intro f hf
    rcases List.mem_cons.mp hf with rfl | hf
    · exact ⟨by decide, by decide, by decide, by decide, by decide⟩
    · rw [List.mem_singleton.mp hf]
      exact ⟨by decide, by decide, by decide, by decide, by decide⟩⟩).mpr (by decide)

/-- A quote is lost, also where it was written twice. -/
theorem csvRoundTrip_quote :
    CsvRecord [utf8 "7", utf8 "Cafe \"B\""] ∧
    writerow [utf8 "7", utf8 "Cafe \"B\""] = utf8 "7,\"Cafe \"\"B\"\"\"\r\n" ∧
    (csvParseLine (cstr (writerow [utf8 "7", utf8 "Cafe \"B\""]))).fields = [utf8 "7", utf8 "Cafe B"] := by
  refine ⟨⟨by decide, by decide, ?_⟩, by decide, by decide⟩
  intro f hf
  rcases List.mem_cons.mp hf with rfl | hf
  · exact ⟨by decide, by decide, by decide, by decide, by decide⟩
  · rw [List.mem_singleton.mp hf]
    exact ⟨by decide, by decide, by decide, by decide, by decide⟩

end Transit
