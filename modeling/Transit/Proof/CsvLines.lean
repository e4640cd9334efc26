import Transit.Proof.FileLines
import Transit.Proof.Framing
import Transit.Proof.LoadedRecords

/-!
# Lines of a CSV file and the records loaded from them

`lineColumns` are the columns of a line, whatever its length, and
`csvParseLine_cstr` says that `csv_parse_line` finds them. The loaders hand it
what `fgets` reads into `line[1024]`: a line of at most 1023 bytes (`ReadWhole`), or
a piece of a longer one, which is taken for a line again.

* `csvLines_onePerLine`: where all lines are whole, each line of the stops and of
  the facilities adds at most one record, that of its own columns.
-/

namespace Transit

open Framework

variable {D : Type} [CDouble D]

/-- The text of a line: the string up to its line end. -/
def lineText (line : List Byte) : Str := line.takeWhile fun b => b ≠ 0 ∧ b ≠ 10 ∧ b ≠ 13

/-- What is kept of a column. -/
def cellText (cell : Str) : Str := strTrim (cell.take (csvMaxFieldLen - 1))

/-- The columns of a line: its text cut at the commas outside of quotes. -/
def lineColumns (line : List Byte) : CsvRow :=
  ⟨((cells 44 34 false (lineText line)).take csvMaxFields).map cellText⟩

/-- What a line adds to the records: the one of its columns under the columns of
the first line, which stands for none itself. -/
def lineRecord {α : Type} (record : CsvRow → CsvRow → Option α) (before : List (List Byte)) (line : List Byte) :
    Option α :=
  match before with
  | [] => none
  | header :: _ => record (lineColumns header) (lineColumns line)

/-- Reading a file one line further adds the record of that line to what is loaded, or none. -/
def OnePerLine {α : Type} (loaded : List Byte → List α) (record : CsvRow → CsvRow → Option α) (text : List Byte) :
    Prop :=
  ∀ before line, before ++ [line] <+: allLines isNewline text →
    ∃ new : Option α, loaded (before ++ [line]).flatten = new.toList ++ loaded before.flatten ∧
      ∀ r ∈ new, lineRecord record before line = some r

/-- What a loader takes for the header. -/
def headerRead (text : List Byte) : CsvRow := csvParseLine ((fgetsAll 1024 text).headD [])

/-- The strings it takes for the lines below. -/
def linesRead (text : List Byte) : List Str := (fgetsAll 1024 text).tail

/-- The strings that are read from one line for rows. -/
def piecesRead (before : List (List Byte)) (line : List Byte) : List Str :=
  match before with
  | [] => (fgetsAll 1024 line).tail
  | _ :: _ => fgetsAll 1024 line

/-- The records for which they are taken. -/
def pieceRecords {α : Type} (record : CsvRow → CsvRow → Option α) (text : List Byte) (before : List (List Byte))
    (line : List Byte) : List α :=
  (piecesRead before line).filterMap fun piece => record (headerRead text) (csvParseLine piece)

/-- Whether a loader goes on below the header. -/
def HeaderOk (required : List Str) (text : List Byte) : Prop :=
  (required.all fun name => csvFindHeader (headerRead text) name ≥ 0) = true

/-- No line is too long for the buffer. -/
def LinesWhole (text : List Byte) : Prop := ∀ line ∈ allLines isNewline text, ReadWhole line

/-! ## The columns of a line -/

theorem cellText_short {cur : Str} (h : cur.length < csvMaxFieldLen) : cellText cur = strTrim cur := by
  unfold cellText
  rw [List.take_of_length_le (by omega)]

/-- The loop cuts the rest of the line into cells, of which the first continues the field being read. -/
theorem csvLoop_eq_cells (line : Str) {done : List Str} (hdone : done.length < csvMaxFields) {cur : Str}
    (hcur : cur.length < csvMaxFieldLen) (inQuotes : Bool) :
    csvLoop line done cur inQuotes =
      done ++ (((cells 44 34 inQuotes (line.takeWhile fun b => b ≠ 10 ∧ b ≠ 13)).modifyHead (cur ++ ·)).take
        (csvMaxFields - done.length)).map cellText := by
  induction line generalizing done cur inQuotes with
  | nil =>
    obtain ⟨k, hk⟩ : ∃ k, csvMaxFields - done.length = k + 1 := ⟨csvMaxFields - done.length - 1, by omega⟩
    rw [csvLoop, List.takeWhile_nil, cells_nil, hk, List.modifyHead_cons, List.take_succ_cons, List.take_nil,
      List.map_singleton, List.append_nil, cellText_short hcur]
  | cons b line ih =>
    obtain ⟨k, hk⟩ : ∃ k, csvMaxFields - done.length = k + 1 := ⟨csvMaxFields - done.length - 1, by omega⟩
    unfold csvLoop
    by_cases hend : b = 10 ∨ b = 13
    · rw [if_pos hend, List.takeWhile_cons_of_neg (by simpa [Classical.or_iff_not_imp_left] using hend), cells_nil, hk,
        List.modifyHead_cons, List.take_succ_cons, List.take_nil, List.map_singleton, List.append_nil,
        cellText_short hcur]
    rw [if_neg hend, List.takeWhile_cons_of_pos (by simpa [not_or] using hend)]
    generalize line.takeWhile (fun b => decide (b ≠ 10 ∧ b ≠ 13)) = text at ih ⊢
    by_cases hquote : b = 34
    · rw [if_pos hquote, ih hdone hcur, cells, if_pos hquote]
    rw [if_neg hquote, cells, if_neg hquote]
    by_cases hsep : b = 44 ∧ inQuotes = false
    · -- the field is closed
      rw [if_pos (by simpa using hsep), if_pos hsep, hk, List.modifyHead_cons, List.take_succ_cons, List.map_cons,
        List.append_nil, cellText_short hcur]
      have hlen : (done ++ [strTrim cur]).length = done.length + 1 := List.length_append
      by_cases hfull : (done ++ [strTrim cur]).length ≥ csvMaxFields
      · rw [if_pos hfull, show k = 0 by omega]
        rfl
      · rw [if_neg hfull, ih (by omega) (by decide), show csvMaxFields - (done ++ [strTrim cur]).length = k by omega,
          List.append_assoc, List.singleton_append]
        show done ++ strTrim cur :: ((((cells 44 34 inQuotes text).modifyHead id).take k).map cellText) = _
        rw [List.modifyHead_id]
        rfl
    · rw [if_neg (by simpa using hsep), if_neg hsep, List.modifyHead_modifyHead]
      by_cases hroom : cur.length + 1 < csvMaxFieldLen
      · rw [if_pos hroom, ih hdone (by rw [List.length_append, List.length_singleton]; exact hroom)]
        simp only [Function.comp_def, List.append_assoc, List.singleton_append]
      · -- nothing more of it is kept
        rw [if_neg hroom, ih hdone hcur, hk]
        obtain ⟨cell, rest, hcells⟩ := List.exists_cons_of_ne_nil (cells_ne_nil 44 34 inQuotes text)
        have htake : ∀ more : Str, (cur ++ more).take (csvMaxFieldLen - 1) = cur := fun more =>
          List.take_left' (by omega)
        rw [hcells, List.modifyHead_cons, List.modifyHead_cons, List.take_succ_cons, List.take_succ_cons,
          List.map_cons, List.map_cons]
        unfold cellText
        rw [Function.comp_apply, htake, htake]

/-- `csv_parse_line` finds the columns of a line that it gets whole. -/
theorem csvParseLine_cstr (line : List Byte) : csvParseLine (cstr line) = lineColumns line := by
  have htext : (cstr line).takeWhile (fun b => b ≠ 10 ∧ b ≠ 13) = lineText line := by
    unfold cstr lineText
    rw [List.takeWhile_takeWhile]
    congr 1
    funext b
    by_cases h0 : b = 0 <;> simp [h0]
  unfold csvParseLine lineColumns
  rw [csvLoop_eq_cells _ (by decide) (by decide), htext]
  show CsvRow.mk ((((cells 44 34 false (lineText line)).modifyHead id).take csvMaxFields).map cellText) = _
  rw [List.modifyHead_id]
  rfl

/-! ## The pieces of a line -/

theorem fgetsAll_flatten_ended {lines : List (List Byte)} (h : ∀ l ∈ lines, Ended isNewline l) (s : List Byte) :
    fgetsAll 1024 (lines.flatten ++ s) = lines.flatMap (fgetsAll 1024) ++ fgetsAll 1024 s := by
  unfold fgetsAll
  rw [readLines_flatten_ended (by decide) h, List.map_append, List.map_flatMap]

theorem fgetsAll_ne_nil {text : List Byte} (h : text ≠ []) : fgetsAll 1024 text ≠ [] := by
  unfold fgetsAll
  rw [readLines_of_ne_nil (by decide) h]
  exact List.cons_ne_nil _ _

theorem lineText_concat (body : List Byte) : lineText (body ++ [packetTerm]) = lineText body := by
  unfold lineText
  rw [List.takeWhile_append]
  split
  · rename_i hfull
    rw [(List.takeWhile_prefix _).eq_of_length hfull]
    exact List.append_nil _
  · rfl

/-- A whole line is read in one piece, or with its line feed as a second one. -/
theorem fgetsAll_whole {line : List Byte} (hwhole : ReadWhole line)
    (hline : Ended isNewline line ∨ line ≠ [] ∧ ∀ b ∈ line, isNewline b = false) :
    ∃ piece, csvParseLine piece = lineColumns line ∧
      (fgetsAll 1024 line = [piece] ∨ fgetsAll 1024 line = [piece, [packetTerm]]) := by
  rcases hwhole.fgetsAll_eq hline with hread | ⟨body, rfl, hread⟩
  · exact ⟨cstr line, csvParseLine_cstr line, .inl hread⟩
  · refine ⟨cstr body, ?_, .inr hread⟩
    rw [csvParseLine_cstr]
    unfold lineColumns
    rw [lineText_concat]

/-! ## The records of a line -/

section

variable {α : Type} {record : CsvRow → CsvRow → Option α} {seen : List α → α → Bool} {loaded : List Byte → List α}
  {text : List Byte} {before : List (List Byte)} {line : List Byte}

theorem headerRead_flatten {header : List Byte} {rest : List (List Byte)}
    (h : header :: rest <+: allLines isNewline text) :
    headerRead (header :: rest).flatten = csvParseLine ((fgetsAll 1024 header).headD []) := by
  unfold headerRead
  rcases List.eq_nil_or_concat rest with rfl | ⟨init, last, rfl⟩
  · rw [List.flatten_singleton]
  · rw [List.concat_eq_append, ← List.cons_append] at h
    have hended := (allLines_take h).1 header (List.mem_cons_self ..)
    obtain ⟨piece, more, hpiece⟩ := List.exists_cons_of_ne_nil (fgetsAll_ne_nil hended.ne_nil)
    have hread := fgetsAll_flatten_ended (List.forall_mem_singleton.mpr hended) (init.concat last).flatten
    rw [List.flatten_singleton, List.flatMap_singleton, hpiece] at hread
    rw [List.flatten_cons, hread, hpiece]
    rfl

theorem headerRead_take {lines : List (List Byte)} (hne : lines ≠ []) (h : lines <+: allLines isNewline text) :
    headerRead lines.flatten = headerRead text := by
  obtain ⟨header, rest, rfl⟩ := List.exists_cons_of_ne_nil hne
  obtain ⟨more, hmore⟩ := h
  have hwhole := @headerRead_flatten text header (rest ++ more)
    (by rw [← hmore]; exact List.prefix_refl _)
  rw [← List.cons_append, hmore, allLines_flatten] at hwhole
  rw [headerRead_flatten ⟨more, hmore⟩, hwhole]

theorem linesRead_concat (h : before ++ [line] <+: allLines isNewline text) :
    linesRead (before ++ [line]).flatten = linesRead before.flatten ++ piecesRead before line := by
  have hended := (allLines_take h).1
  cases before with
  | nil =>
    rw [List.nil_append, List.flatten_singleton]
    rfl
  | cons header rest =>
    have hread := fgetsAll_flatten_ended hended []
    rw [List.append_nil] at hread
    have hheader := fgetsAll_ne_nil (hended header (List.mem_cons_self ..)).ne_nil
    unfold linesRead piecesRead
    rw [List.flatten_append, List.flatten_singleton, fgetsAll_flatten_ended hended, hread]
    refine (List.tail_append_of_ne_nil ?_).trans (congrArg (List.tail · ++ _) (List.append_nil _).symm)
    rw [List.flatMap_cons]
    exact List.append_ne_nil_of_left_ne_nil hheader _

/-- What a line adds goes by the pieces in which it is read. -/
theorem loaded_concat
    (hloaded : ∀ t, t = [] ∨ headerRead t = headerRead text → loaded t =
      ((linesRead t).filterMap fun l => record (headerRead t) (csvParseLine l)).foldl (addUnless seen) [])
    (h : before ++ [line] <+: allLines isNewline text) :
    loaded (before ++ [line]).flatten =
      (pieceRecords record text before line).foldl (addUnless seen) (loaded before.flatten) := by
  have hheader := headerRead_take (List.concat_ne_nil _ _) h
  have hbefore : loaded before.flatten =
      ((linesRead before.flatten).filterMap fun l => record (headerRead text) (csvParseLine l)).foldl
        (addUnless seen) [] := by
    cases before with
    | nil => exact hloaded [] (.inl rfl)
    | cons header rest =>
      have hrest := headerRead_take (List.cons_ne_nil _ _) ((List.prefix_append _ _).trans h)
      rw [hloaded _ (.inr hrest), hrest]
  rw [hloaded _ (.inr hheader), hheader, linesRead_concat h, List.filterMap_append, List.foldl_append, hbefore]
  rfl

/-- The pieces of a whole line stand for its record, if there is one. -/
theorem pieceRecords_whole (hblank : ∀ header, record header (csvParseLine [packetTerm]) = none)
    (h : before ++ [line] <+: allLines isNewline text) (hheader : ReadWhole (before.headD line))
    (hline : ReadWhole line) :
    pieceRecords record text before line = (lineRecord record before line).toList := by
  obtain ⟨hended, hshape⟩ := allLines_take h
  obtain ⟨piece, hpiece, hread⟩ := fgetsAll_whole hline hshape
  have hlf : ∀ header, ([[packetTerm]] : List Str).filterMap (fun l => record header (csvParseLine l)) = [] := by
    intro header
    rw [List.filterMap_cons, hblank]
    rfl
  cases before with
  | nil =>
    unfold pieceRecords piecesRead lineRecord
    dsimp only
    rcases hread with hread | hread
    · rw [hread]
      rfl
    · rw [hread, List.tail_cons, hlf]
      rfl
  | cons header rest =>
    obtain ⟨top, htop, hreadTop⟩ := fgetsAll_whole hheader (.inl (hended header (List.mem_cons_self ..)))
    have hcolumns : headerRead text = lineColumns header := by
      refine (headerRead_take (List.cons_ne_nil header (rest ++ [line])) h).symm.trans
        ((headerRead_flatten h).trans (Eq.trans ?_ htop))
      rcases hreadTop with hreadTop | hreadTop
      · exact congrArg (fun pieces => csvParseLine (List.headD pieces [])) hreadTop
      · exact congrArg (fun pieces => csvParseLine (List.headD pieces [])) hreadTop
    have hone : fgetsAll 1024 line = [piece] ++ [] ∨ fgetsAll 1024 line = [piece] ++ [[packetTerm]] := hread
    have hfirst : ([piece] : List Str).filterMap (fun l => record (lineColumns header) (csvParseLine l)) =
        (record (lineColumns header) (lineColumns line)).toList := by
      rw [List.filterMap_cons, hpiece]
      cases record (lineColumns header) (lineColumns line) with
      | none => rfl
      | some r => rfl
    unfold pieceRecords piecesRead lineRecord
    dsimp only
    rw [hcolumns]
    rcases hone with hone | hone
    · rw [hone, List.append_nil, hfirst]
    · rw [hone, List.filterMap_append, hlf, List.append_nil, hfirst]

theorem csvRecords_linesRead {required : List Str}
    (h : text = [] ∨ HeaderOk required text) :
    csvRecords (some text) required record =
      (linesRead text).filterMap fun l => record (headerRead text) (csvParseLine l) := by
  unfold HeaderOk at h
  unfold csvRecords csvTable linesRead headerRead at *
  rw [Option.map_some]
  rcases h with rfl | h
  · rfl
  · cases hread : fgetsAll 1024 text with
    | nil => rfl
    | cons first lines =>
      rw [hread] at h
      dsimp only
      rw [List.headD_cons] at h ⊢
      rw [if_pos h]
      exact List.filterMap_map ..

theorem csvRecords_rejected {required : List Str} (h : ¬ HeaderOk required text) :
    csvRecords (some text) required record = [] := by
  unfold HeaderOk headerRead at h
  unfold csvRecords csvTable
  rw [Option.map_some]
  cases hread : fgetsAll 1024 text with
  | nil => rfl
  | cons first lines =>
    rw [hread, List.headD_cons] at h
    dsimp only
    rw [if_neg h]

/-- The rule for a loader that puts the records it reads into a list. -/
theorem onePerLine_whole {required : List Str}
    (hblank : ∀ header, record header (csvParseLine [packetTerm]) = none)
    (hloaded : ∀ t, loaded t = ((csvRecords (some t) required record).foldl (addUnless seen) []))
    (hwhole : LinesWhole text) : OnePerLine loaded record text := by
  intro before line h
  by_cases hok : HeaderOk required text
  · have hread : ∀ t, t = [] ∨ headerRead t = headerRead text → loaded t =
        ((linesRead t).filterMap fun l => record (headerRead t) (csvParseLine l)).foldl (addUnless seen) [] := by
      intro t ht
      rw [hloaded, csvRecords_linesRead]
      refine ht.imp_right fun ht => ?_
      unfold HeaderOk
      rw [ht]
      exact hok
    have hline : ReadWhole line := hwhole line (h.subset (List.mem_append_right _ (List.mem_singleton_self _)))
    have hheader : ReadWhole (before.headD line) := by
      cases before with
      | nil => exact hline
      | cons header rest => exact hwhole header (h.subset (List.mem_append_left _ (List.mem_cons_self ..)))
    rw [loaded_concat hread h, pieceRecords_whole hblank h hheader hline]
    exact foldl_addUnless_toList _ _
  · -- nothing is loaded
    have hnone : ∀ lines, lines <+: allLines isNewline text → loaded lines.flatten = [] := by
      intro lines hlines
      rw [hloaded]
      by_cases hne : lines = []
      · rw [hne]
        rfl
      · rw [csvRecords_rejected]
        · rfl
        · unfold HeaderOk
          rw [headerRead_take hne hlines]
          exact hok
    refine ⟨none, ?_, fun r hr => by cases hr⟩
    rw [hnone _ h, hnone _ ((List.prefix_append _ _).trans h)]
    rfl

end

/-! ## Stops and facilities -/

/-- Whether a stop with that id is loaded. -/
def stopSeen (stops : List (StopNode D)) (stop : StopNode D) : Bool :=
  (stops.find? (·.stopId.val == stop.stopId.val)).isSome

/-- The stops, with that text of `bus_stops.csv`. -/
def stopsLoaded (files : CsvFiles) (text : List Byte) : List (StopNode D) :=
  (loadedData { files with busStops := some text }).stops

/-- The facilities, with that text of `facilities.csv`. -/
def facilitiesLoaded (files : CsvFiles) (text : List Byte) : List (FacilityNode D) :=
  (loadedData { files with facilities := some text }).facilities

theorem stopsLoaded_eq (files : CsvFiles) (text : List Byte) :
    (stopsLoaded files text : List (StopNode D)) =
      (csvRecords (some text) [utf8 "stop_id", utf8 "stop_name"] busStopOf).foldl (addUnless stopSeen) [] := by
  obtain ⟨g, hdata⟩ := dataLoaderLoad_records (D := D) { files with busStops := some text }
  unfold stopsLoaded loadedData
  rw [hdata]
  show (csvRecords (some text) _ busStopOf).foldl (addNew (·.stopId.val)) [] = _
  rw [addNew_eq_addUnless]
  rfl

theorem facilitiesLoaded_eq (files : CsvFiles) (text : List Byte) :
    (facilitiesLoaded files text : List (FacilityNode D)) =
      (csvRecords (some text) [utf8 "facility_id", utf8 "name", utf8 "category", utf8 "nearest_node_id"]
        facilityOf).foldl (addUnless fun _ _ => false) [] := by
  obtain ⟨g, hdata⟩ := dataLoaderLoad_records (D := D) { files with facilities := some text }
  unfold facilitiesLoaded loadedData
  rw [hdata, foldl_addUnless_never, List.append_nil]
  rfl

/-- A line feed alone has no text in any column. -/
theorem column_lineFeed (header : CsvRow) (name : Str) : column header (csvParseLine [packetTerm]) name = [] := by
  have hrow : csvParseLine [packetTerm] = ⟨[[]]⟩ := rfl
  rw [hrow]
  unfold column csvGet
  split
  · rfl
  · cases (csvFindHeader header name).toNat <;> rfl

/-- In a text without long lines each line is one record. -/
theorem csvLines_onePerLine (files : CsvFiles) (text : List Byte) (h : LinesWhole text) :
    OnePerLine (stopsLoaded files) (busStopOf : CsvRow → CsvRow → Option (StopNode D)) text ∧
    OnePerLine (facilitiesLoaded files) (facilityOf : CsvRow → CsvRow → Option (FacilityNode D)) text := by
  refine ⟨onePerLine_whole (fun header => ?_) (stopsLoaded_eq files) h,
    onePerLine_whole (fun header => ?_) (facilitiesLoaded_eq files) h⟩
  · unfold busStopOf
    rw [column_lineFeed]
    rfl
  · unfold facilityOf
    rw [column_lineFeed]
    rfl

/-! ## A long line -/

def stopHeader : List Byte := utf8 "stop_id,stop_name\n"

theorem csvLines_onePerLine_twoStops :
    OnePerLine (stopsLoaded (crowdedFiles 1)) (busStopOf : CsvRow → CsvRow → Option (StopNode ℚ))
      (stopHeader ++ utf8 "S,Main St\n" ++ utf8 "T,\"Park, North\"\n") := by
  have hwhole : LinesWhole (stopHeader ++ utf8 "S,Main St\n" ++ utf8 "T,\"Park, North\"\n") := by
    unfold LinesWhole ReadWhole
    decide +kernel
  exact (csvLines_onePerLine (crowdedFiles 1) _ hwhole).1

/-- The stop S with a long name; `fgets` reads its last bytes as a line of their own. -/
def longStop : List Byte := utf8 "S," ++ List.replicate 1021 65 ++ utf8 "B,C\n"

/-- The end of the name is loaded as a stop. -/
theorem csvLines_longStop :
    (dataLoaderLoad { crowdedFiles 1 with busStops := some (stopHeader ++ longStop) } : AppData ℚ × Bool).2 = true ∧
    allLines isNewline (stopHeader ++ longStop) = [stopHeader, longStop] ∧
    (stopsLoaded (crowdedFiles 1) (stopHeader ++ longStop) : List (StopNode ℚ)).map (·.stopId.val) =
      [utf8 "B", utf8 "S"] ∧
    ¬ OnePerLine (stopsLoaded (crowdedFiles 1)) (busStopOf : CsvRow → CsvRow → Option (StopNode ℚ))
      (stopHeader ++ longStop) := by
  have hlines : allLines isNewline (stopHeader ++ longStop) = [stopHeader, longStop] := by decide +kernel
  have hids : (stopsLoaded (crowdedFiles 1) (stopHeader ++ longStop) : List (StopNode ℚ)).map (·.stopId.val) =
      [utf8 "B", utf8 "S"] := by decide +kernel
  refine ⟨by decide +kernel, hlines, hids, fun hone => ?_⟩
  obtain ⟨new, hnew, -⟩ := hone [stopHeader] longStop (by rw [hlines]; exact List.prefix_refl _)
  have hnone : (stopsLoaded (crowdedFiles 1) [stopHeader].flatten : List (StopNode ℚ)).length = 0 := by decide +kernel
  have htwo := congrArg List.length hids
  have hflat : [stopHeader, longStop].flatten = stopHeader ++ longStop := by rw [← hlines, allLines_flatten]
  have hlen := congrArg List.length hnew
  rw [List.singleton_append, hflat, List.length_append, hnone, Option.length_toList] at hlen
  rw [List.length_map] at htwo
  cases new <;> simp [htwo] at hlen

end Transit
