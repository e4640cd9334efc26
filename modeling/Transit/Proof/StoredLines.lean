import Transit.Proof.FileLines
import Transit.Server.UserStateService

/-!
# The lines of `favorites.txt` and what a delete request leaves of them

`storedLines` are the lines that `handle_favorite_delete` counts. A request
that names one of them (`deleteTarget`) replaces the file by the others
(`handleFavoriteDelete_replaced`), or leaves it (`handleFavoriteDelete_kept`),
or loses it, when the original is removed and the temporary file then cannot
take its place (`handleFavoriteDelete_lost`).
-/

namespace Transit

open Framework

/-- What a file holds; a file that is not there holds nothing. -/
def contents (file : Option (List Byte)) : List Byte := file.getD []

/-- A line that is not blank. -/
def isStored (line : Str) : Bool := !strIsBlank (stripNewline line)

/-- The lines that are not blank, as `fgets` reads them. -/
def storedLines (file : List Byte) : List Str := (fgetsAll 1024 file).filter isStored

/-- A line as the delete loop writes it back. -/
def withNewline (line : Str) : Str :=
  line ++ if line.getLast? = some packetTerm then [] else [packetTerm]

/-- The stored line that a delete request names, counted from 0. -/
def deleteTarget (fs : UserFiles) (payload : Str) : Option Nat :=
  match strToInt payload with
  | none => none
  | some k =>
    if 0 < k ∧ k ≤ (storedLines (contents fs.favorites)).length then some (k.toNat - 1) else none

theorem deleteLoop_past {k : Int} (lines : List Str) {current : Int} (h : k < current) :
    deleteLoop k lines current = (((lines.filter isStored).map withNewline).flatten, none) := by
  induction lines generalizing current with
  | nil => rfl
  | cons line lines ih =>
    unfold deleteLoop
    by_cases hb : strIsBlank (stripNewline line) = true
    · rw [if_pos hb, ih h, List.filter_cons_of_neg (by simp [isStored, hb])]
    · rw [if_neg hb, ih (show k < current + 1 by omega),
        List.filter_cons_of_pos (by simp [isStored, hb]), List.map_cons, List.flatten_cons]
      exact if_neg (show ¬ current = k by omega)

/-- The loop writes back every stored line but the one it is looking for. -/
theorem deleteLoop_eq (lines : List Str) (current : Int) (i : Nat) :
    deleteLoop (current + i) lines current =
      ((((lines.filter isStored).eraseIdx i).map withNewline).flatten,
        ((lines.filter isStored)[i]?).map stripNewline) := by
  induction lines generalizing current i with
  | nil => rfl
  | cons line lines ih =>
    unfold deleteLoop
    by_cases hb : strIsBlank (stripNewline line) = true
    · rw [if_pos hb, ih, List.filter_cons_of_neg (by simp [isStored, hb])]
    · rw [if_neg hb, List.filter_cons_of_pos (by simp [isStored, hb])]
      cases i with
      | zero =>
        rw [deleteLoop_past lines (show current + (0 : Nat) < current + 1 by omega)]
        exact if_pos (show current = current + (0 : Nat) by omega)
      | succ i =>
        rw [show current + ((i + 1 : Nat) : Int) = current + 1 + (i : Nat) by omega, ih]
        refine (if_neg (show ¬ current = current + 1 + (i : Nat) by omega)).trans ?_
        rw [List.eraseIdx_cons_succ, List.map_cons, List.flatten_cons, List.getElem?_cons_succ]
        rfl

/-! ## Reading back what was written -/

/-- What one call of `fgets` can give. -/
structure Chunk (line : Str) : Prop where
  interior : ∀ b ∈ line.dropLast, b ≠ packetTerm
  length : line.length ≤ 1023
  noNul : 0 ∉ line

theorem chunk_of_mem_fgetsAll {file : List Byte} {line : Str} (h : line ∈ fgetsAll 1024 file) : Chunk line := by
  obtain ⟨chunk, hc, rfl⟩ := List.mem_map.mp h
  refine forall_readLines (by decide) (P := fun chunk => Chunk (cstr chunk)) (fun s _ => ?_) file chunk hc
  refine ⟨cstr_interior (readLine_interior _ s),
    Nat.le_trans (List.takeWhile_prefix _).length_le (length_readLine_le ..), fun hm => ?_⟩
  have := List.mem_takeWhile_imp hm
  simp at this

theorem stripNewline_newline (s : Str) : stripNewline (s ++ [packetTerm]) = stripNewline s := by
  unfold stripNewline
  exact List.rdropWhile_concat_pos _ _ _ rfl

theorem not_isNewline {b : Byte} (h : b ≠ packetTerm) : isNewline b = false := by
  show (b == 10) = false
  rwa [beq_eq_false_iff_ne]

/-- A stored line that is written back is read as the same line. -/
theorem storedLines_withNewline {line : Str} (hc : Chunk line) (hs : isStored line = true) (rest : List Byte) :
    (storedLines (withNewline line ++ rest)).map stripNewline =
      stripNewline line :: (storedLines rest).map stripNewline := by
  have hnul : cstr line = line := cstr_of_not_mem hc.noNul
  have hlen := hc.length
  unfold withNewline storedLines fgetsAll
  rcases List.eq_nil_or_concat line with rfl | ⟨body, b, rfl⟩
  · cases hs
  · rw [List.concat_eq_append] at *
    have hbody : ∀ a ∈ body, isNewline a = false := fun a ha =>
      not_isNewline (hc.interior a (by rw [List.dropLast_concat]; exact ha))
    rw [List.getLast?_concat]
    by_cases hb : b = packetTerm
    · -- it has its line feed
      subst hb
      rw [if_pos rfl, List.append_nil, readLines_line ⟨⟨body, packetTerm, rfl, rfl, hbody⟩, hlen⟩, List.map_cons,
        hnul, List.filter_cons_of_pos hs, List.map_cons]
    · rw [if_neg (by simpa using hb)]
      have hnone : ∀ a ∈ body ++ [b], isNewline a = false := fun a ha => by
        rcases List.mem_append.mp ha with ha | ha
        · exact hbody a ha
        · rw [List.mem_singleton.mp ha]; exact not_isNewline hb
      have hstored : isStored (body ++ [b] ++ [packetTerm]) = true := by
        unfold isStored at hs ⊢
        rw [stripNewline_newline]; exact hs
      by_cases hfull : (body ++ [b]).length = 1023
      · -- it fills the buffer of `fgets`: the line feed is read as a line of its own
        have hread := readLine_full hnone ([packetTerm] ++ rest)
        rw [hfull] at hread
        have hblank : IsLine isNewline 1023 [packetTerm] := ⟨⟨[], packetTerm, rfl, rfl, by simp⟩, by decide⟩
        rw [List.append_assoc, readLines_of_ne_nil (by decide) (by simp), hread]
        dsimp only
        rw [readLines_line hblank, List.map_cons, List.map_cons, hnul, List.filter_cons_of_pos hs,
          List.filter_cons_of_neg (by decide), List.map_cons]
      · have hcstr : cstr (body ++ [b] ++ [packetTerm]) = body ++ [b] ++ [packetTerm] :=
          cstr_of_not_mem fun hm => by
            rcases List.mem_append.mp hm with hm | hm
            · exact hc.noNul hm
            · exact absurd (List.mem_singleton.mp hm) (by decide)
        rw [readLines_line ⟨⟨body ++ [b], packetTerm, rfl, rfl, hnone⟩, by
          rw [List.length_append, List.length_singleton]; omega⟩, List.map_cons, hcstr,
          List.filter_cons_of_pos hstored, List.map_cons, stripNewline_newline]

theorem storedLines_rewrite {lines : List Str} (hc : ∀ l ∈ lines, Chunk l) (hs : ∀ l ∈ lines, isStored l = true) :
    (storedLines (lines.map withNewline).flatten).map stripNewline = lines.map stripNewline := by
  induction lines with
  | nil => rfl
  | cons line lines ih =>
    rw [List.forall_mem_cons] at hc hs
    rw [List.map_cons, List.flatten_cons, storedLines_withNewline hc.1 hs.1, ih hc.2 hs.2, List.map_cons]

/-- After a delete the file holds the other lines. -/
theorem storedLines_eraseIdx (file : List Byte) (i : Nat) :
    (storedLines (((storedLines file).eraseIdx i).map withNewline).flatten).map stripNewline =
      ((storedLines file).eraseIdx i).map stripNewline := by
  refine storedLines_rewrite (fun l hl => ?_) fun l hl => ?_
  · exact chunk_of_mem_fgetsAll (List.mem_of_mem_filter (List.mem_of_mem_eraseIdx hl))
  · exact (List.mem_filter.mp (List.mem_of_mem_eraseIdx hl)).2

/-! ## The handler -/

variable {io : Io} {fs : UserFiles} {payload : Str} {i : Nat}

theorem deleteTarget_eq_some (h : deleteTarget fs payload = some i) :
    strToInt payload = some ((i + 1 : Nat) : Int) ∧ i < (storedLines (contents fs.favorites)).length := by
  unfold deleteTarget at h
  split at h
  · cases h
  · rename_i k hk
    split at h
    · rename_i hrange
      rw [Option.some.injEq] at h
      refine ⟨hk.trans ?_, by omega⟩
      rw [Option.some.injEq]
      omega
    · cases h

/-- What the loop makes of the file for a request that names one of its lines. -/
theorem deleteLoop_target (h : deleteTarget fs payload = some i) :
    ∃ file line, fs.favorites = some file ∧ (storedLines file)[i]? = some line ∧
      deleteLoop ((i + 1 : Nat) : Int) (fgetsAll 1024 file) 1 =
        ((((storedLines file).eraseIdx i).map withNewline).flatten, some (stripNewline line)) := by
  obtain ⟨-, hi⟩ := deleteTarget_eq_some h
  cases hf : fs.favorites with
  | none => rw [hf] at hi; exact absurd hi (Nat.not_lt_zero i)
  | some file =>
    rw [hf] at hi
    have hline := List.getElem?_eq_getElem hi
    refine ⟨file, _, rfl, hline, ?_⟩
    rw [show ((i + 1 : Nat) : Int) = 1 + (i : Nat) by omega, deleteLoop_eq]
    show (_, Option.map stripNewline (storedLines file)[i]?) = _
    rw [show (storedLines file)[i]? = _ from hline]
    rfl

/-- The file stays as it is where no line is named, or a file cannot be opened
or removed. -/
theorem handleFavoriteDelete_kept (size : Nat)
    (h : deleteTarget fs payload = none ∨ io.openRead = false ∨ io.openWrite = false ∨ io.remove = false) :
    (handleFavoriteDelete io fs payload size).2.favorites = fs.favorites := by
  unfold handleFavoriteDelete
  cases hk : strToInt payload with
  | none => rfl
  | some k =>
    dsimp only
    by_cases hpos : k ≤ 0
    · rw [if_pos hpos]
    · rw [if_neg hpos]
      unfold Io.read
      by_cases hopen : io.openRead = true
      · rw [if_pos hopen]
        cases hf : fs.favorites with
        | none => exact hf
        | some file =>
          dsimp only
          by_cases hwrite : io.openWrite = true
          · rw [if_neg (by simp [hwrite])]
            by_cases hremove : io.remove = true
            · -- the request names no line: the loop finds nothing
              have hnone : deleteTarget fs payload = none := by
                rcases h with h | h | h | h
                · exact h
                all_goals simp_all
              have hrange : (storedLines file).length ≤ k.toNat - 1 := by
                unfold deleteTarget at hnone
                rw [hk, hf] at hnone
                dsimp only at hnone
                split at hnone
                · cases hnone
                · rename_i hrange
                  change ¬ (0 < k ∧ k ≤ (storedLines file).length) at hrange
                  omega
              have hloop := deleteLoop_eq (fgetsAll 1024 file) 1 (k.toNat - 1)
              rw [show (1 : Int) + (k.toNat - 1 : Nat) = k by omega] at hloop
              have hget : ((fgetsAll 1024 file).filter isStored)[k.toNat - 1]? = none :=
                List.getElem?_eq_none hrange
              rw [hget] at hloop
              rw [hloop]
              rfl
            · rw [Bool.not_eq_true] at hremove
              cases hd : deleteLoop k (fgetsAll 1024 file) 1 with
              | mk written deleted => cases deleted <;> simp [hremove]
          · rw [if_pos (by simp [hwrite])]
            exact hf
      · rw [if_neg hopen]

/-- The line is found, and the original removed: what is left is up to `rename`. -/
theorem handleFavoriteDelete_removed (size : Nat) (h : deleteTarget fs payload = some i)
    (hr : io.openRead = true) (hw : io.openWrite = true) (hm : io.remove = true) :
    (handleFavoriteDelete io fs payload size).2.favorites =
        (if io.rename then some (((storedLines (contents fs.favorites)).eraseIdx i).map withNewline).flatten
          else none) ∧
      (handleFavoriteDelete io fs payload size).1.code = if io.rename then .ok else .serverError := by
  obtain ⟨hk, -⟩ := deleteTarget_eq_some h
  obtain ⟨file, line, hf, -, hloop⟩ := deleteLoop_target h
  unfold handleFavoriteDelete Io.read
  rw [hk, hf, if_pos hr]
  dsimp only
  rw [if_neg (show ¬ ((i + 1 : Nat) : Int) ≤ 0 by omega), if_neg (by simp [hw]), hloop]
  dsimp only
  rw [if_neg (by simp [hm])]
  cases io.rename with
  | false => exact ⟨rfl, rfl⟩
  | true => exact ⟨rfl, rfl⟩

theorem handleFavoriteDelete_replaced (size : Nat) (h : deleteTarget fs payload = some i)
    (hr : io.openRead = true) (hw : io.openWrite = true) (hm : io.remove = true) (hn : io.rename = true) :
    (handleFavoriteDelete io fs payload size).2.favorites =
        some (((storedLines (contents fs.favorites)).eraseIdx i).map withNewline).flatten ∧
      (handleFavoriteDelete io fs payload size).1.code = .ok := by
  have hremoved := handleFavoriteDelete_removed size h hr hw hm
  rwa [hn] at hremoved

/-- The original is removed and the temporary file cannot take its place. -/
theorem handleFavoriteDelete_lost (size : Nat) (h : deleteTarget fs payload = some i)
    (hr : io.openRead = true) (hw : io.openWrite = true) (hm : io.remove = true) (hn : io.rename = false) :
    (handleFavoriteDelete io fs payload size).2.favorites = none ∧
      (handleFavoriteDelete io fs payload size).1.code = .serverError := by
  have hremoved := handleFavoriteDelete_removed size h hr hw hm
  rwa [hn] at hremoved

end Transit
