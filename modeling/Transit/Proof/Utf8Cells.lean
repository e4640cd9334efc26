import Transit.Framework.Utf8
import Transit.Proof.CsvLines

/-!
# The fields of a row in files of UTF-8

A field that a loader stores has been cut twice, with its column to 255 bytes
and with the array that holds it. The column itself may be broken by the line
buffer, of which `fgets` fills 1023 bytes.

* `utf8_field_iff`: the field is `Utf8` exactly when its column is read
  `FieldClean`.
-/

namespace Transit

open Framework

/-- The text of a row in the column of that name, as the line buffer holds it. -/
def cellOf (header : CsvRow) (line : List Byte) (name : Str) : Str :=
  csvGet ⟨(cells 44 34 false (lineText line)).take csvMaxFields⟩ (csvFindHeader header name)

/-- What the cuts leave out of a column that is stored in a `char[n]`. -/
def leftOut (n : Nat) (cell : Str) : Str :=
  if n ≤ (cellText cell).length then (cellText cell).drop (n - 1) else cell.drop (csvMaxFieldLen - 1)

/-- The column begins with a character and so does what the cuts leave out of
it; where that is nothing, the line buffer holds its last character whole. -/
structure FieldClean (n : Nat) (cell : Str) : Prop where
  start : AtChar cell
  behind : AtChar (leftOut n cell)
  whole : leftOut n cell = [] → Utf8 cell

/-- The texts of the sources. -/
theorem utf8_literal (s : String) : Utf8 (utf8 s) := by
  have hbytes : (utf8 s).toByteArray = s.toByteArray := by
    refine ByteArray.ext ?_
    rw [List.data_toByteArray]
    rfl
  rw [utf8_iff_isValidUTF8, hbytes]
  exact s.isValidUTF8

/-! ## Columns -/

theorem column_csvParseLine (header : CsvRow) (chunk : List Byte) (name : Str) :
    column header (csvParseLine (cstr chunk)) name = cellText (cellOf header chunk name) := by
  unfold column cellOf csvGet
  rw [csvParseLine_cstr, lineColumns]
  by_cases hneg : csvFindHeader header name < 0
  · rw [if_pos hneg, if_pos hneg]
    rfl
  · rw [if_neg hneg, if_neg hneg, List.getElem?_map]
    cases ((cells 44 34 false (lineText chunk)).take csvMaxFields)[(csvFindHeader header name).toNat]? <;> rfl

theorem fragment_cellOf {chunk : List Byte} (h : Fragment chunk) (header : CsvRow) (name : Str) :
    Fragment (cellOf header chunk name) := by
  have hline : Fragment (lineText chunk) := h.of_infix (List.takeWhile_prefix _).isInfix
  obtain ⟨a, b, hab⟩ := hline
  have hcells := @fragment_cells a b 44 34 (by decide) (by decide) [] (lineText chunk) hab false
  rw [show (fun cell : Str => [] ++ cell) = id from rfl, List.modifyHead_id] at hcells
  unfold cellOf csvGet
  split
  · exact utf8_nil.fragment
  · cases hcell : ((cells 44 34 false (lineText chunk)).take csvMaxFields)[(csvFindHeader header name).toNat]? with
    | none => exact utf8_nil.fragment
    | some cell => exact hcells cell (List.mem_of_mem_take (List.mem_of_getElem? hcell))

/-! ## Trimming -/

theorem utf8_bom : Utf8 bom := ⟨[Char.ofNat 0xFEFF], by decide⟩

theorem utf8_of_isspace {s : Str} (h : ∀ b ∈ s, isspace b = true) : Utf8 s := by
  have hsmall : ∀ b : Byte, isspace b = true → b < 128 := by
    intro b hb
    unfold isspace at hb
    rw [Bool.or_eq_true, Bool.and_eq_true, beq_iff_eq, decide_eq_true_eq, decide_eq_true_eq] at hb
    simp only [UInt8.le_iff_toNat_le, UInt8.lt_iff_toNat_lt, ← UInt8.toNat_inj, UInt8.reduceToNat] at hb ⊢
    omega
  exact utf8_of_ascii fun b hb => hsmall b (h b hb)

/-- Trimming takes whole characters off both ends. -/
theorem strTrim_split (s : Str) : ∃ lead trail, s = lead ++ (strTrim s ++ trail) ∧ Utf8 lead ∧ Utf8 trail := by
  have hlead : Utf8 (s.takeWhile isspace) := utf8_of_isspace fun b hb => List.mem_takeWhile_imp hb
  have hend : ∀ t : Str, ∃ trail, t = t.rdropWhile isspace ++ trail ∧ Utf8 trail := fun t =>
    ⟨t.rtakeWhile isspace, (List.rdropWhile_append_rtakeWhile ..).symm,
      utf8_of_isspace fun b hb => List.mem_rtakeWhile_imp hb⟩
  unfold strTrim
  dsimp only
  by_cases hbom : bom.isPrefixOf (s.dropWhile isspace) = true
  · obtain ⟨rest, hrest⟩ := List.isPrefixOf_iff_prefix.mp hbom
    obtain ⟨trail, htrail, hutf⟩ := hend rest
    refine ⟨s.takeWhile isspace ++ bom, trail, ?_, hlead.append utf8_bom, hutf⟩
    rw [if_pos hbom, ← hrest, show (bom ++ rest).drop 3 = rest from rfl, ← htrail, List.append_assoc, hrest,
      List.takeWhile_append_dropWhile]
  · obtain ⟨trail, htrail, hutf⟩ := hend (s.dropWhile isspace)
    refine ⟨s.takeWhile isspace, trail, ?_, hlead, hutf⟩
    rw [if_neg hbom, ← htrail, List.takeWhile_append_dropWhile]

theorem utf8_strTrim_iff {s : Str} : Utf8 (strTrim s) ↔ Utf8 s := by
  obtain ⟨lead, trail, hs, hlead, htrail⟩ := strTrim_split s
  have hwhole := @Utf8.append_iff lead (strTrim s ++ trail) hlead
  rw [← hs, utf8_append_iff htrail.atChar] at hwhole
  rw [hwhole]
  exact (and_iff_left htrail).symm

/-- A column begins with a character if what is kept of it does. -/
theorem atChar_cellText_iff {cell : Str} (h : Fragment cell) (hne : cellText cell ≠ []) :
    AtChar (cellText cell) ↔ AtChar cell := by
  obtain ⟨lead, trail, hcell, hlead, -⟩ := strTrim_split (cell.take (csvMaxFieldLen - 1))
  have hsplit : cell = lead ++ (cellText cell ++ (trail ++ cell.drop (csvMaxFieldLen - 1))) := by
    conv_lhs => rw [← List.take_append_drop (csvMaxFieldLen - 1) cell, hcell]
    unfold cellText
    simp only [List.append_assoc]
  generalize trail ++ cell.drop (csvMaxFieldLen - 1) = rest at hsplit
  rw [hsplit] at h
  by_cases hnil : lead = []
  · rw [hnil, List.nil_append] at hsplit
    conv_rhs => rw [hsplit, atChar_append hne]
  · have hrest := (h.utf8_iff hnil (List.append_ne_nil_of_left_ne_nil hne _)).mp hlead
    rw [atChar_append hne] at hrest
    have hat : AtChar cell := by
      rw [hsplit, atChar_append hnil]
      exact hrest.1
    exact iff_of_true hrest.2 hat

/-! ## Fields -/

theorem utf8_field_iff {n : Nat} (hn : 2 ≤ n) {cell : Str} (h : Fragment cell) :
    Utf8 (snprintf n (cellText cell)) ↔ FieldClean n cell := by
  by_cases hlong : n ≤ (cellText cell).length
  · -- the array cuts what is kept of the column
    have hne : cellText cell ≠ [] := List.ne_nil_of_length_pos (by omega)
    have hcut : leftOut n cell = (cellText cell).drop (n - 1) := if_pos hlong
    have hbehind : leftOut n cell ≠ [] := by
      rw [hcut]
      exact List.ne_nil_of_length_pos (by rw [List.length_drop]; omega)
    have hkept : snprintf n (cellText cell) ≠ [] :=
      List.ne_nil_of_length_pos (by unfold snprintf; rw [List.length_take]; omega)
    have htext : snprintf n (cellText cell) ++ leftOut n cell = cellText cell := by
      rw [hcut]
      exact List.take_append_drop ..
    have hfragment : Fragment (cellText cell) := by
      obtain ⟨lead, trail, hcell, -, -⟩ := strTrim_split (cell.take (csvMaxFieldLen - 1))
      have hwithin : cellText cell <:+: cell.take (csvMaxFieldLen - 1) := ⟨lead, trail, by
        rw [List.append_assoc]
        exact hcell.symm⟩
      exact h.of_infix (hwithin.trans (List.take_prefix _ _).isInfix)
    have hiff := @Fragment.utf8_iff (snprintf n (cellText cell)) (leftOut n cell) (by rwa [htext]) hkept hbehind
    have hstart : AtChar (snprintf n (cellText cell)) ↔ AtChar cell := by
      rw [← atChar_cellText_iff h hne, ← atChar_append (b := leftOut n cell) hkept, htext]
    rw [hiff, hstart]
    exact ⟨fun hc => ⟨hc.1, hc.2, fun hnil => absurd hnil hbehind⟩, fun hc => ⟨hc.start, hc.behind⟩⟩
  · have hcut : leftOut n cell = cell.drop (csvMaxFieldLen - 1) := if_neg hlong
    have hwhole : Utf8 (snprintf n (cellText cell)) ↔ Utf8 (cell.take (csvMaxFieldLen - 1)) := by
      rw [snprintf_of_le (by omega)]
      exact utf8_strTrim_iff
    rw [hwhole]
    by_cases hnil : cell.drop (csvMaxFieldLen - 1) = []
    · -- nothing is cut
      have hall : cell.take (csvMaxFieldLen - 1) = cell := List.take_of_length_le (List.drop_eq_nil_iff.mp hnil)
      rw [hall]
      exact ⟨fun hc => ⟨hc.atChar, by rw [hcut, hnil]; exact atChar_nil, fun _ => hc⟩,
        fun hc => hc.whole (by rw [hcut, hnil])⟩
    · have hkept : cell.take (csvMaxFieldLen - 1) ≠ [] := by
        rw [List.drop_eq_nil_iff] at hnil
        have hmax : csvMaxFieldLen = 256 := rfl
        exact List.ne_nil_of_length_pos (by rw [List.length_take]; omega)
      have hiff := @Fragment.utf8_iff (cell.take (csvMaxFieldLen - 1)) (cell.drop (csvMaxFieldLen - 1))
        (by rwa [List.take_append_drop]) hkept hnil
      have hstart : AtChar (cell.take (csvMaxFieldLen - 1)) ↔ AtChar cell := by
        rw [← atChar_append (b := cell.drop (csvMaxFieldLen - 1)) hkept, List.take_append_drop]
      rw [hiff, hstart, ← hcut]
      exact ⟨fun hc => ⟨hc.1, hc.2, fun h' => absurd (hcut ▸ h') hnil⟩, fun hc => ⟨hc.start, hc.behind⟩⟩

end Transit
