import Transit.Proof.ListText
import Transit.Proof.StoredLines

/-!
# Rows of three fields, in the files and in the responses

`favorites.txt` and `recent_search.txt` keep a row as a line of three fields
(`rowLine`); a list response has it as an item. A `FileRow` is read back from
its line, and shown from its item where it is `Clean`.
-/

namespace Transit

open Framework

/-- A line without its line feed. -/
def rowBody (row : Row) : Str := row.1 ++ [fieldSep] ++ row.2.1 ++ [fieldSep] ++ row.2.2

/-- The line of a row. -/
def rowLine (row : Row) : Str := rowBody row ++ [packetTerm]

/-- The file with these rows. -/
def rowsText (rows : List Row) : List Byte := (rows.map rowLine).flatten

/-- A field as a line of text keeps it. -/
structure FileText (s : Str) : Prop where
  plain : Plain s
  noNul : 0 ∉ s
  notBlank : strIsBlank s = false

/-- A row that is read back from its line. -/
structure FileRow (row : Row) : Prop where
  type : FileText row.1
  id : FileText row.2.1
  name : FileText row.2.2
  typeSep : fieldSep ∉ row.1
  idSep : fieldSep ∉ row.2.1
  last : stripNewline row.2.2 = row.2.2
  fits : (rowLine row).length ≤ 1023

theorem FileText.ne_nil {s : Str} (h : FileText s) : s ≠ [] := by
  rintro rfl
  cases h.notBlank

theorem not_mem_of_containsPacketFieldDelim {s : Str} (h : containsPacketFieldDelim s = false) :
    fieldSep ∉ s ∧ itemSep ∉ s ∧ listSep ∉ s ∧ packetTerm ∉ s ∧ 13 ∉ s ∧ 0 ∉ s := by
  unfold containsPacketFieldDelim strContainsProtocolDelim at h
  rw [Bool.or_eq_false_iff, List.any_eq_false] at h
  obtain ⟨hany, hitem⟩ := h
  refine ⟨fun hm => ?_, fun hm => ?_, fun hm => ?_, fun hm => ?_, fun hm => ?_, fun hm => ?_⟩
  · have := hany _ hm; revert this; decide
  · rw [List.contains_iff_mem.mpr hm] at hitem; cases hitem
  all_goals have := hany _ hm; revert this; decide

theorem fileText_of_delim {s : Str} (h : containsPacketFieldDelim s = false) (hb : strIsBlank s = false) :
    FileText s := by
  obtain ⟨-, -, -, hplain, -, hnul⟩ := not_mem_of_containsPacketFieldDelim h
  exact ⟨hplain, hnul, hb⟩

theorem stripNewline_of_delim {s : Str} (h : containsPacketFieldDelim s = false) : stripNewline s = s := by
  obtain ⟨-, -, -, hn, hr, -⟩ := not_mem_of_containsPacketFieldDelim h
  refine stripNewline_eq_self_iff.mpr fun b hb => ?_
  have hm := List.mem_of_getLast? hb
  exact ⟨fun he => hn (by rw [← show b = packetTerm from he]; exact hm), fun he => hr (by rw [← he]; exact hm)⟩

theorem length_rowLine (row : Row) :
    (rowLine row).length = row.1.length + row.2.1.length + row.2.2.length + 3 := by
  unfold rowLine rowBody
  simp only [List.length_append, List.length_singleton]
  omega

theorem withNewline_rowLine (row : Row) : withNewline (rowLine row) = rowLine row := by
  unfold withNewline rowLine
  rw [List.getLast?_concat, if_pos rfl, List.append_nil]

/-- A row whose parts can be told from one another in its line. -/
structure RowText (row : Row) : Prop where
  type : FileText row.1
  id : FileText row.2.1
  name : FileText row.2.2
  typeSep : fieldSep ∉ row.1
  idSep : fieldSep ∉ row.2.1
  last : stripNewline row.2.2 = row.2.2

namespace RowText

variable {row : Row} (h : RowText row)
include h

theorem plain_rowBody : Plain (rowBody row) := by
  simp only [rowBody, Plain, List.mem_append, List.mem_singleton, not_or]
  exact ⟨⟨⟨⟨h.type.plain, by decide⟩, h.id.plain⟩, by decide⟩, h.name.plain⟩

theorem noNul_rowBody : 0 ∉ rowBody row := by
  simp only [rowBody, List.mem_append, List.mem_singleton, not_or]
  exact ⟨⟨⟨⟨h.type.noNul, by decide⟩, h.id.noNul⟩, by decide⟩, h.name.noNul⟩

theorem fileLine (hfits : (rowBody row).length < 1023) : FileLine 1024 (rowLine row) := by
  refine ⟨⟨rowBody row, rfl, h.plain_rowBody, h.noNul_rowBody⟩, ?_⟩
  unfold rowLine
  rw [List.length_append, List.length_singleton]
  omega

theorem stripNewline_rowBody : stripNewline (rowBody row) = rowBody row :=
  stripNewline_append h.last h.name.ne_nil

theorem stripNewline_rowLine : stripNewline (rowLine row) = rowBody row :=
  stripNewline_concat h.stripNewline_rowBody

theorem splitRecord_rowBody : splitRecord (rowBody row) = some row := by
  unfold splitRecord
  rw [show rowBody row = row.1 ++ fieldSep :: (row.2.1 ++ fieldSep :: row.2.2) by simp [rowBody],
    cutAt_append h.typeSep]
  dsimp only
  rw [cutAt_append h.idSep]

theorem isStored_rowLine : isStored (rowLine row) = true := by
  unfold isStored
  rw [h.stripNewline_rowLine, Bool.not_eq_true', ← Bool.not_eq_true]
  intro hblank
  have hsep := List.all_eq_true.mp hblank fieldSep (by simp [rowBody])
  revert hsep
  decide

end RowText

theorem FileRow.rowText {row : Row} (h : FileRow row) : RowText row :=
  ⟨h.type, h.id, h.name, h.typeSep, h.idSep, h.last⟩

theorem FileRow.fileLine {row : Row} (h : FileRow row) : FileLine 1024 (rowLine row) := by
  have hfits := h.fits
  unfold rowLine at hfits
  rw [List.length_append, List.length_singleton] at hfits
  exact h.rowText.fileLine (by omega)

variable {rows : List Row}

theorem fgetsAll_rowsText (h : ∀ row ∈ rows, FileRow row) : fgetsAll 1024 (rowsText rows) = rows.map rowLine :=
  fgetsAll_flatten fun l hl => by
    obtain ⟨row, hrow, rfl⟩ := List.mem_map.mp hl
    exact (h row hrow).fileLine

theorem storedLines_rowsText (h : ∀ row ∈ rows, FileRow row) : storedLines (rowsText rows) = rows.map rowLine := by
  unfold storedLines
  rw [fgetsAll_rowsText h, List.filter_eq_self]
  intro l hl
  obtain ⟨row, hrow, rfl⟩ := List.mem_map.mp hl
  exact (h row hrow).rowText.isStored_rowLine

theorem rowsText_append (rows more : List Row) : rowsText (rows ++ more) = rowsText rows ++ rowsText more := by
  unfold rowsText
  rw [List.map_append, List.flatten_append]

/-- An empty file has no rows. -/
theorem rowsText_eq_nil : rowsText rows = [] ↔ rows = [] := by
  unfold rowsText
  cases rows with
  | nil => exact ⟨fun _ => rfl, fun _ => rfl⟩
  | cons row rows => simp [rowLine]

/-- The client shows the rows of a list response that the response has room for. -/
theorem shownEntries_listReply {packet : Str} (hp : packet ∈ packetTypes) (h : ∀ row ∈ rows, FileRow row)
    (hclean : ∀ row ∈ rows, Clean row) :
    shownEntries (strAppend (appendListItems maxPacketSize rows (snprintf maxPacketSize (header packet .ok)) 0)
        maxPacketSize [packetTerm]).1 =
      listedRows maxPacketSize (header packet .ok).length 0 rows := by
  have hreply := listReply_eq hp fun row hrow =>
    ⟨(h row hrow).type.plain, (h row hrow).id.plain, (h row hrow).name.plain⟩
  have hsub := (prefix_listedRows maxPacketSize (header packet .ok).length 0 rows).subset
  rw [hreply.1, shownEntries_eq hp hreply.2 fun row hrow => ?_]
  · exact flatMap_rowEntries fun row hrow => rowEntries_clean (hclean row (hsub hrow))
  · have hfile := h row (hsub hrow)
    exact stripNewline_listItem hfile.rowText.stripNewline_rowBody hfile.rowText.splitRecord_rowBody

end Transit
