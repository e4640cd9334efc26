import Transit.Proof.FileLines
import Transit.Proof.LoadedRecords
import Transit.Proof.Trimming

/-!
# CSV files that read back as they were written

A field without separators, quotes, line ends and outer blanks, and short
enough for its buffer, is read as it stands in the line (`csvParseLine_csvLine`);
so a file of lines of such fields, none too long for `fgets`, is read as the
table it was written from (`csvTable_csvText`).
-/

namespace Transit

open Framework (intercalate_cons_eq_flatMap)

abbrev csvSep : Byte := 44

/-- A field that a line can hold as it stands. -/
structure CsvField (f : Str) : Prop where
  bytes : f.all fun b => b ≠ 0 && b ≠ 10 && b ≠ 13 && b ≠ 34 && b ≠ 44
  trimmed : strTrim f = f
  fits : f.length < csvMaxFieldLen

def csvLine (fields : List Str) : Str := [csvSep].intercalate fields ++ [packetTerm]

def csvText (rows : List (List Str)) : List Byte := (rows.map csvLine).flatten

/-- A row of the table: some fields, not too many, in a line not too long. -/
structure CsvLine (fields : List Str) : Prop where
  each : ∀ f ∈ fields, CsvField f
  nonempty : fields ≠ []
  count : fields.length ≤ csvMaxFields
  fits : (csvLine fields).length < 1024

/-- Letters, digits and underscores. -/
theorem csvField_of_letters {s : Str} (h : s.all (fun b => 48 ≤ b && b ≤ 122) = true)
    (hl : s.length < csvMaxFieldLen) : CsvField s where
  bytes := by
    refine List.all_eq_true.mpr fun b hb => ?_
    have hb := List.all_eq_true.mp h b hb
    simp only [Bool.and_eq_true, decide_eq_true_eq, UInt8.le_iff_toNat_le, UInt8.reduceToNat] at hb
    simp only [Bool.and_eq_true, decide_eq_true_eq, ne_eq, ← UInt8.toNat_inj, UInt8.reduceToNat]
    omega
  trimmed := strTrim_of_solid fun b hb => by
    have hb := List.all_eq_true.mp h b hb
    simp only [Bool.and_eq_true, decide_eq_true_eq, UInt8.le_iff_toNat_le, UInt8.reduceToNat] at hb
    unfold isspace
    rw [Bool.or_eq_false_iff, beq_eq_false_iff_ne, Bool.and_eq_false_iff]
    simp only [decide_eq_false_iff_not, UInt8.le_iff_toNat_le, UInt8.reduceToNat, ne_eq, ← UInt8.toNat_inj]
    omega
  fits := hl

theorem csvLine_of_letters {fields : List Str}
    (h : fields.all (fun s => s.all (fun b => 48 ≤ b && b ≤ 122) && s.length < csvMaxFieldLen) = true)
    (hne : fields ≠ []) (hc : fields.length ≤ csvMaxFields) (hl : (csvLine fields).length < 1024) :
    CsvLine fields where
  each f hf := by
    have hf := List.all_eq_true.mp h f hf
    simp only [Bool.and_eq_true, decide_eq_true_eq] at hf
    exact csvField_of_letters hf.1 hf.2
  nonempty := hne
  count := hc
  fits := hl

theorem csvLoop_field {f : Str} (hf : f.all fun b => b ≠ 0 && b ≠ 10 && b ≠ 13 && b ≠ 34 && b ≠ 44)
    (rest : Str) (done : List Str) (cur : Str) (hfit : cur.length + f.length < csvMaxFieldLen) :
    csvLoop (f ++ rest) done cur false = csvLoop rest done (cur ++ f) false := by
  induction f generalizing cur with
  | nil => rw [List.nil_append, List.append_nil]
  | cons b f ih =>
    rw [List.all_cons, Bool.and_eq_true] at hf
    obtain ⟨hb, hf⟩ := hf
    simp only [Bool.and_eq_true, decide_eq_true_eq, ne_eq] at hb
    obtain ⟨⟨⟨⟨-, h10⟩, h13⟩, h34⟩, h44⟩ := hb
    simp only [List.length_cons] at hfit
    rw [List.cons_append, csvLoop, if_neg (by simp [h10, h13]), if_neg h34, if_neg (by simp [h44]),
      if_pos (by omega), ih hf (cur ++ [b]) (by simp only [List.length_append, List.length_singleton]; omega),
      List.append_assoc, List.singleton_append]

theorem csvLoop_fields {f : Str} {fs : List Str} (hf : ∀ x ∈ f :: fs, CsvField x) (done : List Str)
    (hcount : done.length + fs.length < csvMaxFields) :
    csvLoop (f ++ fs.flatMap (csvSep :: ·) ++ [packetTerm]) done [] false = done ++ f :: fs := by
  induction fs generalizing f done with
  | nil =>
    have hx := hf f (List.mem_cons_self ..)
    rw [List.flatMap_nil, List.append_nil, csvLoop_field hx.bytes _ _ _ (by simpa using hx.fits), List.nil_append,
      csvLoop, if_pos (.inl rfl), hx.trimmed]
  | cons f' fs ih =>
    rw [List.forall_mem_cons] at hf
    simp only [List.length_cons] at hcount
    have hdone : ¬ (done ++ [f]).length ≥ csvMaxFields := by
      simp only [List.length_append, List.length_singleton]
      omega
    rw [List.append_assoc, csvLoop_field hf.1.bytes _ _ _ (by simpa using hf.1.fits), List.nil_append,
      List.flatMap_cons, List.cons_append, List.cons_append, csvLoop, if_neg (by decide), if_neg (by decide),
      if_pos ⟨rfl, rfl⟩]
    simp only [hf.1.trimmed, if_neg hdone]
    rw [ih hf.2 (done ++ [f]) (by simp only [List.length_append, List.length_singleton]; omega),
      List.append_assoc, List.singleton_append]

/-- A line written from fields is read as these fields. -/
theorem csvParseLine_csvLine {fields : List Str} (h : CsvLine fields) :
    csvParseLine (csvLine fields) = ⟨fields⟩ := by
  obtain ⟨f, fs, rfl⟩ := List.exists_cons_of_ne_nil h.nonempty
  have hcount := h.count
  rw [List.length_cons] at hcount
  unfold csvParseLine csvLine
  rw [intercalate_cons_eq_flatMap, csvLoop_fields h.each [] (by simp only [List.length_nil]; omega)]
  rfl

theorem fileLine_csvLine {fields : List Str} (h : CsvLine fields) : FileLine 1024 (csvLine fields) := by
  have hnone : ∀ b : Byte, (∀ f ∈ fields, b ∉ f) → b ≠ csvSep → b ∉ [csvSep].intercalate fields :=
    fun b hb hne => Framework.not_mem_intercalate hne hb
  refine ⟨⟨_, rfl, hnone packetTerm (fun f hf hm => ?_) (by decide), hnone 0 (fun f hf hm => ?_) (by decide)⟩, h.fits⟩
  · simpa using List.all_eq_true.mp (h.each f hf).bytes _ hm
  · simpa using List.all_eq_true.mp (h.each f hf).bytes _ hm

/-- The table read from a file is the one it was written from. -/
theorem csvTable_csvText {header : List Str} {rows : List (List Str)} (hheader : CsvLine header)
    (hrows : ∀ r ∈ rows, CsvLine r) {required : List Str}
    (hreq : (required.all fun name => csvFindHeader ⟨header⟩ name ≥ 0) = true) :
    csvTable (some (csvText (header :: rows))) required = some (⟨header⟩, rows.map CsvRow.mk) := by
  have hlines : fgetsAll 1024 (csvText (header :: rows)) = csvLine header :: rows.map csvLine := by
    unfold csvText
    rw [fgetsAll_flatten, List.map_cons]
    intro l hl
    obtain ⟨r, hr, rfl⟩ := List.mem_map.mp hl
    refine fileLine_csvLine ?_
    rcases List.mem_cons.mp hr with rfl | hr
    · exact hheader
    · exact hrows r hr
  have hparse : (rows.map csvLine).map csvParseLine = rows.map CsvRow.mk := by
    rw [List.map_map]
    exact List.map_congr_left fun r hr => csvParseLine_csvLine (hrows r hr)
  unfold csvTable
  simp only [Option.map_some, hlines, csvParseLine_csvLine hheader, hreq, hparse, ↓reduceIte]

end Transit
