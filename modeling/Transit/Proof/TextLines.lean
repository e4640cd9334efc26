import Transit.Framework.Split
import Transit.Proof.StoredLines

/-!
# Lines of a text and the pieces in which they are read

`textLines` are the lines between the line feeds that are not blank, of any
length; `textPieces` what `fgets` hands over of a text into `line[1024]`, where it
is not blank, without the line feeds. A text is read line by line
(`textPieces_eq`), and a line with room in the buffer as itself
(`textPieces_fits`). What a delete request writes has the pieces for its lines
(`textLines_rewrite`).
-/

namespace Transit

open Framework

/-- The lines of a text that are not blank. -/
def textLines (file : List Byte) : List Str := (file.splitOn packetTerm).filter (!strIsBlank ·)

/-- A string that `fgets` has read, without its line feed. -/
def lineBody (line : Str) : Str := (withNewline line).dropLast

def textPieces (file : List Byte) : List Str := (storedLines file).map lineBody

/-- A line that has room in `line[1024]`, and is all there as a string. -/
structure Fits (line : Str) : Prop where
  short : line.length ≤ 1023
  noNul : 0 ∉ line

instance (line : Str) : Decidable (Fits line) :=
  decidable_of_iff (line.length ≤ 1023 ∧ 0 ∉ line) ⟨fun h => ⟨h.1, h.2⟩, fun h => ⟨h.short, h.noNul⟩⟩

/-! ## Line feeds -/

theorem withNewline_eq (line : Str) : withNewline line = lineBody line ++ [packetTerm] := by
  unfold lineBody withNewline
  split
  · rename_i hlast
    obtain ⟨init, rfl⟩ := List.getLast?_eq_some_iff.mp hlast
    rw [List.append_nil, List.dropLast_concat]
  · rw [List.dropLast_concat]

theorem stripNewline_lineBody (line : Str) : stripNewline (lineBody line) = stripNewline line := by
  rw [← stripNewline_newline, ← withNewline_eq]
  unfold withNewline
  split
  · rw [List.append_nil]
  · exact stripNewline_newline line

theorem lineBody_concat (line : Str) : lineBody (line ++ [packetTerm]) = line := by
  unfold lineBody withNewline
  rw [List.getLast?_concat, if_pos rfl, List.append_nil, List.dropLast_concat]

theorem lineBody_plain {line : Str} (h : Plain line) : lineBody line = line := by
  unfold lineBody withNewline
  rw [if_neg fun hlast => h (List.mem_of_getLast? hlast), List.dropLast_concat]

theorem strIsBlank_stripNewline (s : Str) : strIsBlank (stripNewline s) = strIsBlank s := by
  unfold strIsBlank stripNewline
  rw [Bool.eq_iff_iff, List.all_eq_true, List.all_eq_true]
  refine ⟨fun h b hb => ?_, fun h b hb => h b ((List.rdropWhile_prefix _ _).subset hb)⟩
  rw [← @List.rdropWhile_append_rtakeWhile _ (fun c : Byte => c == 10 || c == 13) s, List.mem_append] at hb
  rcases hb with hb | hb
  · exact h b hb
  · have hend := List.mem_rtakeWhile_imp hb
    simp only [Bool.or_eq_true, beq_iff_eq] at hend
    rcases hend with rfl | rfl <;> decide

theorem isStored_eq (line : Str) : isStored line = !strIsBlank line := by
  unfold isStored
  rw [strIsBlank_stripNewline]

theorem isStored_lineBody (line : Str) : isStored (lineBody line) = isStored line := by
  unfold isStored
  rw [stripNewline_lineBody]

/-! ## Reading a text line by line -/

theorem textPieces_append (line rest : List Byte) :
    textPieces (line ++ packetTerm :: rest) = textPieces (line ++ [packetTerm]) ++ textPieces rest := by
  have hread := readLines_append_ended (show 0 < 1023 by decide) (rfl : isNewline packetTerm = true) line rest
  unfold textPieces storedLines fgetsAll
  rw [List.append_cons, hread, List.map_append, List.filter_append, List.map_append]

/-- The last line needs no line feed. -/
theorem textPieces_concat {line : List Byte} (h : packetTerm ∉ line) :
    textPieces (line ++ [packetTerm]) = textPieces line := by
  have hbytes : ∀ b ∈ line, isNewline b = false := fun b hb => not_isNewline fun heq => h (heq ▸ hb)
  have hpieces : textPieces line = (((readLines isNewline 1023 line).map cstr).filter isStored).map lineBody := rfl
  have hconcat : textPieces (line ++ [packetTerm]) =
      (((readLines isNewline 1023 (line ++ [packetTerm])).map cstr).filter isStored).map lineBody := rfl
  have hmem : ∀ piece ∈ readLines isNewline 1023 line, packetTerm ∉ piece := fun piece hpiece hm =>
    h (readLines_flatten (by decide : 0 < 1023) line ▸ List.mem_flatten.mpr ⟨piece, hpiece, hm⟩)
  have hcases := @readLines_concat_cases _ isNewline 1023 (by decide) line packetTerm hbytes rfl
  rcases hcases with hread | ⟨init, last, hinit, hread⟩
  · rw [hconcat, hpieces, hread, List.map_append, List.filter_append, List.map_append]
    exact List.append_nil _
  · have hlast : packetTerm ∉ last :=
      hmem last (by rw [hinit]; exact List.mem_append_right _ (List.mem_singleton_self _))
    have hsame : (([cstr (last ++ [packetTerm])].filter isStored).map lineBody) =
        (([cstr last].filter isStored).map lineBody) := by
      by_cases hnul : 0 ∈ last
      · have hcut : cstr (last ++ [packetTerm]) = cstr last := by
          unfold cstr
          rw [List.takeWhile_append, if_neg]
          intro hall
          have hself := (List.takeWhile_prefix _).eq_of_length hall
          have hne := List.takeWhile_eq_self_iff.mp hself 0 hnul
          simp at hne
        rw [hcut]
      · rw [cstr_of_not_mem hnul, cstr_of_not_mem fun hm => (List.mem_append.mp hm).elim hnul (by decide)]
        have hstored : isStored (last ++ [packetTerm]) = isStored last := by
          rw [← isStored_lineBody, lineBody_concat]
        rw [List.filter_singleton, List.filter_singleton, hstored]
        cases isStored last with
        | false => rfl
        | true => exact congrArg (· :: []) ((lineBody_concat last).trans (lineBody_plain hlast).symm)
    rw [hconcat, hpieces, hread, hinit, List.map_append, List.filter_append, List.map_append, List.map_append,
      List.filter_append, List.map_append]
    exact congrArg (_ ++ ·) hsame

theorem textPieces_blank {line : List Byte} (h : strIsBlank line = true) : textPieces line = [] := by
  have hnone : storedLines line = [] := by
    refine List.filter_eq_nil_iff.mpr fun piece hpiece => ?_
    obtain ⟨chunk, hchunk, rfl⟩ := List.mem_map.mp hpiece
    have hsub : ∀ b ∈ cstr chunk, b ∈ line := fun b hb => by
      rw [← readLines_flatten (by decide : 0 < 1023) line]
      exact List.mem_flatten.mpr ⟨chunk, hchunk, (List.takeWhile_prefix _).subset hb⟩
    rw [isStored_eq, Bool.not_eq_true, Bool.not_eq_false']
    exact List.all_eq_true.mpr fun b hb => List.all_eq_true.mp h b (hsub b hb)
  unfold textPieces
  rw [hnone]
  rfl

/-- A text is read line by line. -/
theorem textPieces_eq (file : List Byte) : textPieces file = (textLines file).flatMap textPieces := by
  unfold textLines
  induction file using cut_induction (c := packetTerm) with
  | last line hline =>
    rw [List.splitOn_eq_singleton hline, List.filter_singleton]
    cases hblank : strIsBlank line with
    | true => exact textPieces_blank hblank
    | false => exact (List.flatMap_singleton ..).symm
  | cut line rest hline ih =>
    rw [List.splitOn_append_cons_self_of_not_mem hline, textPieces_append, textPieces_concat hline, ih]
    cases hblank : strIsBlank line with
    | true => rw [List.filter_cons_of_neg (by simp [hblank]), textPieces_blank hblank, List.nil_append]
    | false => rw [List.filter_cons_of_pos (by simp [hblank]), List.flatMap_cons]

theorem mem_textLines {file : List Byte} {line : Str} (h : line ∈ textLines file) :
    packetTerm ∉ line ∧ strIsBlank line = false := by
  obtain ⟨hline, hblank⟩ := List.mem_filter.mp h
  exact ⟨not_mem_of_mem_splitOn hline, by simpa using hblank⟩

/-- A line that fits is read as it is. -/
theorem textPieces_fits {line : Str} (h : Fits line) (hline : packetTerm ∉ line) (hblank : strIsBlank line = false) :
    textPieces line = [line] := by
  have hne : line ≠ [] := by
    rintro rfl
    cases hblank
  have hread := readLines_unended (fun b hb => not_isNewline fun heq => hline (heq ▸ hb)) hne h.short
  have hstored : isStored line = true := by rw [isStored_eq, hblank]; rfl
  unfold textPieces storedLines fgetsAll
  rw [hread, List.map_singleton, cstr_of_not_mem h.noNul, List.filter_cons_of_pos hstored, List.filter_nil,
    List.map_singleton, lineBody_plain hline]

/-- Every piece fits. -/
theorem mem_textPieces {file : List Byte} {piece : Str} (h : piece ∈ textPieces file) :
    Fits piece ∧ packetTerm ∉ piece ∧ strIsBlank piece = false := by
  obtain ⟨line, hline, rfl⟩ := List.mem_map.mp h
  obtain ⟨hread, hstored⟩ := List.mem_filter.mp hline
  have hchunk := chunk_of_mem_fgetsAll hread
  rw [← isStored_lineBody, isStored_eq, Bool.not_eq_true'] at hstored
  rcases List.eq_nil_or_concat line with rfl | ⟨init, b, rfl⟩
  · cases hstored
  · rw [List.concat_eq_append] at hchunk hstored ⊢
    have hinit : packetTerm ∉ init := fun hm => hchunk.interior packetTerm (by rw [List.dropLast_concat]; exact hm) rfl
    by_cases hb : b = packetTerm
    · subst hb
      rw [lineBody_concat] at hstored ⊢
      have hlen := hchunk.length
      rw [List.length_append, List.length_singleton] at hlen
      exact ⟨⟨by omega, fun hm => hchunk.noNul (List.mem_append_left _ hm)⟩, hinit, hstored⟩
    · have hplain : packetTerm ∉ init ++ [b] := fun hm =>
        (List.mem_append.mp hm).elim hinit fun hm => hb (List.mem_singleton.mp hm).symm
      rw [lineBody_plain hplain] at hstored ⊢
      exact ⟨⟨hchunk.length, hchunk.noNul⟩, hplain, hstored⟩

/-! ## Writing pieces -/

/-- What is written back of pieces has them for its lines. -/
theorem textLines_pieces {pieces : List Str} (h : ∀ piece ∈ pieces, packetTerm ∉ piece ∧ strIsBlank piece = false) :
    textLines (pieces.flatMap (· ++ [packetTerm])) = pieces := by
  unfold textLines
  induction pieces with
  | nil => rfl
  | cons piece pieces ih =>
    rw [List.forall_mem_cons] at h
    rw [List.flatMap_cons, List.append_assoc, List.singleton_append,
      List.splitOn_append_cons_self_of_not_mem h.1.1, List.filter_cons_of_pos (by rw [h.1.2]; rfl), ih h.2]

/-- What a delete request leaves of a file. -/
theorem textLines_rewrite (file : List Byte) (k : Nat) :
    textLines (((storedLines file).eraseIdx k).map withNewline).flatten = (textPieces file).eraseIdx k := by
  have hwritten : (((storedLines file).eraseIdx k).map withNewline).flatten =
      ((textPieces file).eraseIdx k).flatMap (· ++ [packetTerm]) := by
    unfold textPieces
    rw [List.eraseIdx_map, List.flatMap_map, ← List.flatMap_def]
    exact List.flatMap_congr fun line _ => withNewline_eq line
  rw [hwritten]
  exact textLines_pieces fun piece hpiece => (mem_textPieces (List.mem_of_mem_eraseIdx hpiece)).2

end Transit
