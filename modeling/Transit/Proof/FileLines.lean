import Transit.Common.StringUtils
import Transit.Proof.LoadedText

/-!
# Lines of the user's files as `fgets` reads them

Every string that `fgets` hands over holds no line feed once `strip_newline`
has been at it, whatever the file is (`plain_of_mem_fgetsAll`). A line of at
most 1023 bytes keeps its text in one string (`ReadWhole`).
-/

namespace Transit

open Framework

theorem length_stripNewline_le (s : Str) : (stripNewline s).length ≤ s.length :=
  (List.rdropWhile_prefix _ _).length_le

/-- A string whose only line feed is at its end, if anywhere. -/
theorem plain_stripNewline {s : Str} (h : ∀ b ∈ s.dropLast, b ≠ packetTerm) : Plain (stripNewline s) := by
  rcases List.eq_nil_or_concat s with rfl | ⟨init, b, rfl⟩
  · exact plain_nil
  · rw [List.concat_eq_append, List.dropLast_concat] at h
    have hinit : Plain init := fun hm => h packetTerm hm rfl
    rw [List.concat_eq_append, stripNewline]
    by_cases hb : b = packetTerm
    · rw [List.rdropWhile_concat_pos _ _ _ (by simp [hb])]
      exact hinit.of_subset (List.rdropWhile_prefix _ _).subset
    · exact (plain_append.mpr ⟨hinit, plain_cons.mpr ⟨hb, plain_nil⟩⟩).of_subset
        (List.rdropWhile_prefix _ _).subset

theorem not_isNewline_of_plain {s : Str} (h : Plain s) : ∀ b ∈ s, isNewline b = false := by
  intro b hb
  show (b == 10) = false
  rw [beq_eq_false_iff_ne]
  rintro rfl
  exact h hb

theorem cstr_of_not_mem {s : List Byte} (h : 0 ∉ s) : cstr s = s :=
  List.takeWhile_eq_self_iff.mpr fun b hb => by
    simp only [ne_eq, decide_not, Bool.not_eq_true', decide_eq_false_iff_not]
    rintro rfl
    exact h hb

theorem cstr_interior {s : List Byte} (h : ∀ b ∈ s.dropLast, isNewline b = false) :
    ∀ b ∈ (cstr s).dropLast, b ≠ packetTerm := by
  have hp : cstr s <+: s := List.takeWhile_prefix _
  intro b hb
  have hmem : b ∈ s.dropLast := by
    rcases List.eq_nil_or_concat s with rfl | ⟨init, e, rfl⟩
    · rw [List.prefix_nil.mp hp] at hb; cases hb
    · rw [List.concat_eq_append, List.dropLast_concat]
      rw [List.concat_eq_append] at hp hb
      rcases List.prefix_concat_iff.mp hp with hp | hp
      · rwa [hp, List.dropLast_concat] at hb
      · exact hp.subset (List.dropLast_subset _ hb)
  have := h b hmem
  simpa [isNewline] using this

/-- What is read in one call of `fgets(line, size, fp)`. -/
theorem plain_of_mem_fgetsAll {size : Nat} (hs : 1 < size) {file : List Byte} {line : Str}
    (h : line ∈ fgetsAll size file) : Plain (stripNewline line) ∧ line.length ≤ size - 1 := by
  obtain ⟨chunk, hc, rfl⟩ := List.mem_map.mp h
  refine forall_readLines (by omega) (P := fun chunk => Plain (stripNewline (cstr chunk)) ∧
    (cstr chunk).length ≤ size - 1) (fun s _ => ⟨?_, ?_⟩) file chunk hc
  · exact plain_stripNewline (cstr_interior (readLine_interior _ s))
  · exact Nat.le_trans (List.takeWhile_prefix _).length_le (length_readLine_le ..)

/-- A line that `fgets(line, size, fp)` reads whole. -/
structure FileLine (size : Nat) (line : Str) : Prop where
  ended : ∃ body, line = body ++ [packetTerm] ∧ Plain body ∧ 0 ∉ body
  fits : line.length < size

/-- A file of such lines is read line by line. -/
theorem fgetsAll_flatten {size : Nat} {lines : List Str} (h : ∀ l ∈ lines, FileLine size l) :
    fgetsAll size lines.flatten = lines := by
  have hline : ∀ l ∈ lines, IsLine isNewline (size - 1) l := by
    intro l hl
    obtain ⟨⟨body, rfl, hp, -⟩, hf⟩ := h l hl
    refine ⟨⟨body, packetTerm, rfl, rfl, fun b hb => ?_⟩, by omega⟩
    simp only [isNewline, beq_eq_false_iff_ne]
    rintro rfl
    exact hp hb
  have hread := readLines_lines hline []
  rw [List.append_nil, readLines_nil, List.append_nil] at hread
  rw [fgetsAll, hread]
  refine (List.map_congr_left fun l hl => ?_).trans (List.map_id _)
  obtain ⟨⟨body, rfl, -, h0⟩, -⟩ := h l hl
  refine cstr_of_not_mem fun hm => ?_
  rcases List.mem_append.mp hm with hm | hm
  · exact h0 hm
  · exact absurd (List.mem_singleton.mp hm) (by decide)

/-- A line that `fgets` reads into `line[1024]` with all its text. -/
def ReadWhole (line : List Byte) : Prop := (line.takeWhile fun b => !isNewline b).length ≤ 1023

/-- It is read in one piece, or with its line feed as a second one. -/
theorem ReadWhole.fgetsAll_eq {line : List Byte} (h : ReadWhole line)
    (hline : Ended isNewline line ∨ line ≠ [] ∧ ∀ b ∈ line, isNewline b = false) :
    fgetsAll 1024 line = [cstr line] ∨
      ∃ body, line = body ++ [packetTerm] ∧ fgetsAll 1024 line = [cstr body, [packetTerm]] := by
  unfold ReadWhole at h
  rcases hline with ⟨body, e, rfl, he, hbody⟩ | ⟨hne, hfree⟩
  · obtain rfl : e = packetTerm := beq_iff_eq.mp he
    have hlen : body.length ≤ 1023 := by
      rw [List.takeWhile_append_of_pos fun b hb => by rw [hbody b hb]; rfl, List.length_append] at h
      omega
    by_cases hfull : body.length = 1023
    · have hread := readLines_full hbody he (List.length_pos_iff.mp (by omega))
      refine .inr ⟨body, rfl, ?_⟩
      rw [hfull] at hread
      unfold fgetsAll
      rw [hread]
      rfl
    · have hfits : (body ++ [packetTerm]).length ≤ 1023 := by
        rw [List.length_append, List.length_singleton]
        omega
      have hread := readLines_line (IsLine.mk ⟨body, packetTerm, rfl, he, hbody⟩ hfits) []
      rw [List.append_nil, readLines_nil] at hread
      left
      unfold fgetsAll
      rw [hread]
      rfl
  · rw [List.takeWhile_eq_self_iff.mpr fun b hb => by rw [hfree b hb]; rfl] at h
    left
    unfold fgetsAll
    rw [readLines_unended hfree hne h]
    rfl

end Transit
