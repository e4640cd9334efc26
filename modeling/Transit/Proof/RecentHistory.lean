import Transit.Framework.Window
import Transit.Proof.FileUpdates
import Transit.Proof.Records

/-!
# The recent searches as a queue of 20

The writer keeps 19 records of the file and adds one, the reader shows 20.
`recentHistory_run`: after any calls the file holds the last 20 records
accepted (`history`), and the client is shown exactly these, the newest first.
-/

namespace Transit

open Framework

/-- The types under which the router records a search. -/
def recentTypes : List Str := [utf8 "stop", utf8 "bus", utf8 "station", utf8 "route", utf8 "facility"]

/-- `%Y-%m-%d %H:%M:%S`, each digit as a 0. -/
def timestampForm : Str := utf8 "0000-00-00 00:00:00"

/-- Whether a string has that form. -/
def isTimestamp (ts : Str) : Bool :=
  ts.length == timestampForm.length && (timestampForm.zip ts).all fun (f, b) => if f = 48 then isdigit b else b == f

/-- A call of `server_recent_add`, and the time it reads. -/
structure RecentCall where
  type : Str
  keyword : Str
  ts : Str
  type_mem : type ∈ recentTypes
  noNul : 0 ∉ keyword
  length : keyword.length ≤ 990
  time : isTimestamp ts = true

namespace RecentCall

def row (call : RecentCall) : Row := (call.type, call.keyword, call.ts)

/-- Its keyword is not blank and has no separator. -/
def accepted (call : RecentCall) : Bool :=
  !strIsBlank call.keyword && call.keyword.all fun b => !([124, 59, 58, 13, 10] : Str).contains b

end RecentCall

/-- The calls, all their file operations succeeding. -/
def recentAdd (fs : UserFiles) (call : RecentCall) : UserFiles :=
  serverRecentAdd .allOk fs call.type call.keyword call.ts

/-- The rows of the last 20 accepted calls, oldest first. -/
def history (calls : List RecentCall) : List Row :=
  ((calls.filter RecentCall.accepted).rtake serverRecentMaxCount).map RecentCall.row

/-- The response to a list request. -/
def recentListing (fs : UserFiles) : Str := (handleRecentList .allOk fs maxPacketSize).response

/-! ## One record -/

theorem mem_timestamp {ts : Str} (h : isTimestamp ts = true) {b : Byte} (hb : b ∈ ts) :
    isdigit b = true ∨ b ∈ timestampForm := by
  unfold isTimestamp at h
  rw [Bool.and_eq_true, beq_iff_eq] at h
  obtain ⟨i, hi, rfl⟩ := List.getElem_of_mem hb
  have hform := List.all_eq_true.mp h.2 (timestampForm[i], ts[i])
    (List.mem_iff_getElem.mpr ⟨i, by rw [List.length_zip]; omega, List.getElem_zip⟩)
  dsimp only at hform
  split at hform
  · exact .inl hform
  · rw [beq_iff_eq] at hform
    exact .inr (by rw [hform]; exact List.getElem_mem _)

/-- What a time cannot hold. -/
theorem not_mem_timestamp {ts : Str} (h : isTimestamp ts = true) {b : Byte}
    (hb : (isdigit b || timestampForm.contains b) = false) : b ∉ ts := fun hm => by
  rw [Bool.or_eq_false_iff, ← Bool.not_eq_true, ← Bool.not_eq_true, List.contains_iff_mem] at hb
  exact (mem_timestamp h hm).elim hb.1 hb.2

theorem length_timestamp {ts : Str} (h : isTimestamp ts = true) : ts.length = 19 := by
  unfold isTimestamp at h
  rw [Bool.and_eq_true, beq_iff_eq] at h
  exact h.1

/-- Every beginning of a time is a text of the file. -/
theorem timestamp_take_spec {ts : Str} (h : isTimestamp ts = true) {n : Nat} (hn : 0 < n) :
    FileText (ts.take n) ∧ stripNewline (ts.take n) = ts.take n ∧ listSep ∉ ts.take n := by
  have hfree : ∀ {b : Byte}, (isdigit b || timestampForm.contains b) = false → b ∉ ts.take n := fun hb hm =>
    not_mem_timestamp h hb (List.mem_of_mem_take hm)
  refine ⟨⟨hfree (by decide), hfree (by decide), ?_⟩, stripNewline_of_free (hfree (by decide)) (hfree (by decide)),
    hfree (by decide)⟩
  -- its first byte is a digit
  obtain ⟨b, rest, rfl⟩ := List.exists_cons_of_length_pos (l := ts) (by rw [length_timestamp h]; decide)
  obtain ⟨n, rfl⟩ := Nat.exists_eq_add_of_lt hn
  unfold isTimestamp at h
  rw [Bool.and_eq_true] at h
  have hdigit : isdigit b = true := List.all_eq_true.mp h.2 (48, b) (List.mem_cons_self ..)
  rw [Nat.zero_add, List.take_succ_cons]
  unfold strIsBlank
  rw [List.all_cons, Bool.and_eq_false_iff]
  left
  unfold isdigit at hdigit
  unfold isspace
  simp only [Bool.and_eq_true, decide_eq_true_eq, UInt8.le_iff_toNat_le, UInt8.reduceToNat] at hdigit
  rw [Bool.or_eq_false_iff, beq_eq_false_iff_ne, Bool.and_eq_false_iff]
  simp only [decide_eq_false_iff_not, UInt8.le_iff_toNat_le, UInt8.reduceToNat, ne_eq, ← UInt8.toNat_inj]
  omega

theorem timestamp_spec {ts : Str} (h : isTimestamp ts = true) :
    FileText ts ∧ stripNewline ts = ts ∧ listSep ∉ ts := by
  have hspec := timestamp_take_spec h (show 0 < ts.length by rw [length_timestamp h]; decide)
  rw [List.take_length] at hspec
  exact hspec

theorem recentLine_eq {line body : Str} (h : stripNewline line = body) (hbom : bom.isPrefixOf body = false) :
    recentLine line = body := by
  unfold recentLine
  rw [h]
  dsimp only
  rw [hbom, if_neg Bool.false_ne_true]

theorem RowText.recentValid_rowBody {row : Row} (h : RowText row) : recentValid (rowBody row) = true := by
  unfold recentValid
  rw [h.splitRecord_rowBody]
  dsimp only
  rw [h.type.notBlank, h.id.notBlank, h.name.notBlank]
  rfl

theorem recentType_spec {type : Str} (h : type ∈ recentTypes) :
    containsPacketFieldDelim type = false ∧ strIsBlank type = false ∧ type.length ≤ 8 ∧ type.head? ≠ some 239 := by
  have hall : ∀ type ∈ recentTypes, containsPacketFieldDelim type = false ∧ strIsBlank type = false ∧
      type.length ≤ 8 ∧ type.head? ≠ some 239 := by decide
  exact hall type h

/-- A record does not start with a byte order mark where its type does not. -/
theorem not_bom_rowBody {row : Row} (hne : row.1 ≠ []) (hhead : row.1.head? ≠ some 239) :
    bom.isPrefixOf (rowBody row) = false := by
  obtain ⟨b, rest, hb⟩ := List.exists_cons_of_ne_nil hne
  unfold rowBody
  rw [hb] at hhead ⊢
  rw [List.head?_cons] at hhead
  simp only [bom, List.cons_append, List.isPrefixOf, Bool.and_eq_false_iff, beq_eq_false_iff_ne]
  exact .inl fun he => hhead (by rw [← he])

namespace RecentCall

variable {call : RecentCall}

theorem recentAccepts_eq (call : RecentCall) : recentAccepts call.type call.keyword = call.accepted := by
  obtain ⟨htype, hblank, -⟩ := recentType_spec call.type_mem
  have hkeyword : containsPacketFieldDelim call.keyword =
      !call.keyword.all fun b => !([124, 59, 58, 13, 10] : Str).contains b := by
    rw [List.not_all_eq_any_not, Bool.eq_iff_iff, List.any_eq_true]
    unfold containsPacketFieldDelim strContainsProtocolDelim
    rw [Bool.or_eq_true, List.any_eq_true, List.contains_iff_mem]
    constructor
    · rintro (⟨b, hb, hdelim⟩ | hb)
      · refine ⟨b, hb, ?_⟩
        have hnul : b ≠ 0 := fun he => call.noNul (he ▸ hb)
        simp at hdelim ⊢
        tauto
      · exact ⟨itemSep, hb, by decide⟩
    · rintro ⟨b, hb, hdelim⟩
      by_cases hitem : b = itemSep
      · exact .inr (hitem ▸ hb)
      · refine .inl ⟨b, hb, ?_⟩
        have : b ≠ 58 := hitem
        simp at hdelim ⊢
        tauto
  unfold recentAccepts accepted
  rw [htype, hblank, hkeyword, Bool.false_or, Bool.or_false, Bool.not_or, Bool.not_not]

theorem keyword_spec (h : call.accepted = true) :
    containsPacketFieldDelim call.keyword = false ∧ strIsBlank call.keyword = false := by
  rw [← recentAccepts_eq] at h
  unfold recentAccepts at h
  simp only [Bool.not_eq_true', Bool.or_eq_false_iff] at h
  exact ⟨h.2, h.1.1.2⟩

theorem fileRow (h : call.accepted = true) : FileRow call.row := by
  obtain ⟨htype, htypeBlank, htypeLen, -⟩ := recentType_spec call.type_mem
  obtain ⟨hkeyword, hblank⟩ := keyword_spec h
  obtain ⟨hts, hlast, -⟩ := timestamp_spec call.time
  refine ⟨fileText_of_delim htype htypeBlank, fileText_of_delim hkeyword hblank, hts,
    (not_mem_of_containsPacketFieldDelim htype).1, (not_mem_of_containsPacketFieldDelim hkeyword).1, hlast, ?_⟩
  have hkeywordLen := call.length
  rw [length_rowLine]
  show call.type.length + call.keyword.length + call.ts.length + 3 ≤ 1023
  rw [length_timestamp call.time]
  omega

theorem length_listItem_le (call : RecentCall) : (listItem call.row).length ≤ 1019 := by
  have htypeLen := (recentType_spec call.type_mem).2.2.1
  have hkeywordLen := call.length
  rw [length_listItem]
  show call.type.length + call.keyword.length + call.ts.length + 2 ≤ 1019
  rw [length_timestamp call.time]
  omega

theorem clean (h : call.accepted = true) : Clean call.row := by
  obtain ⟨-, htypeItem, htypeList, -⟩ :=
    not_mem_of_containsPacketFieldDelim (recentType_spec call.type_mem).1
  obtain ⟨-, hitem, hlist, -⟩ := not_mem_of_containsPacketFieldDelim (keyword_spec h).1
  refine ⟨htypeItem, hitem, ?_, Nat.le_trans call.length_listItem_le (by decide)⟩
  simp only [listItem, row, List.mem_append, List.mem_singleton, not_or]
  exact ⟨⟨⟨⟨htypeList, by decide⟩, hlist⟩, by decide⟩, (timestamp_spec call.time).2.2⟩

/-- The record is not cut. -/
theorem recentRecord_eq (h : call.accepted = true) :
    recentRecord call.type call.keyword call.ts = rowBody call.row := by
  have hfits := (fileRow h).fits
  have hlen : (rowLine call.row).length = (rowBody call.row).length + 1 := by
    unfold rowLine
    rw [List.length_append, List.length_singleton]
  exact snprintf_of_le (show (rowBody call.row).length ≤ 1024 - 1 by omega)

/-- The reader drops no byte order mark from it. -/
theorem recentLine_rowLine (h : call.accepted = true) : recentLine (rowLine call.row) = rowBody call.row :=
  recentLine_eq (fileRow h).rowText.stripNewline_rowLine
    (not_bom_rowBody (fileRow h).type.ne_nil (recentType_spec call.type_mem).2.2.2)

end RecentCall

/-! ## The windows of the writer and of the reader -/

/-- The shifting array holds the end of the records read. -/
theorem foldl_pushRecord {room : Nat} (hr : 0 < room) {records : List Str} (h : ∀ r ∈ records, r.length ≤ 1023) :
    records.foldl (pushRecord room) [] = records.rtake room := by
  rw [← foldl_push hr]
  refine List.foldl_ext _ _ _ fun recent r hmem => ?_
  unfold pushRecord push
  rw [show safeStrcpy 1024 r = r from snprintf_of_le (h r hmem)]

/-- Rows of accepted calls. -/
def Accepted (rows : List Row) : Prop := ∀ row ∈ rows, ∃ call : RecentCall, call.accepted = true ∧ row = call.row

variable {rows : List Row}

theorem Accepted.fileRow (h : Accepted rows) : ∀ row ∈ rows, FileRow row := by
  intro row hrow
  obtain ⟨call, ha, rfl⟩ := h row hrow
  exact RecentCall.fileRow ha

theorem Accepted.length_rowBody (h : Accepted rows) : ∀ r ∈ rows.map rowBody, r.length ≤ 1023 := by
  intro r hr
  obtain ⟨row, hrow, rfl⟩ := List.mem_map.mp hr
  have hfits := (h.fileRow row hrow).fits
  unfold rowLine at hfits
  rw [List.length_append, List.length_singleton] at hfits
  omega

/-- The writer keeps the last 19 rows of the file. -/
theorem keptRecords_rowsText (h : Accepted rows) :
    keptRecords (rowsText rows) = (rows.rtake (serverRecentMaxCount - 1)).map rowBody := by
  have hstored : ((fgetsAll 1024 (rowsText rows)).map stripNewline).filter (fun line => !strIsBlank line) =
      rows.map rowBody := by
    rw [List.filter_map]
    show ((storedLines (rowsText rows)).map stripNewline) = _
    rw [storedLines_rowsText h.fileRow, List.map_map]
    exact List.map_congr_left fun row hrow => (h.fileRow row hrow).rowText.stripNewline_rowLine
  unfold keptRecords
  rw [hstored, foldl_pushRecord (by decide) h.length_rowBody, map_rtake]

/-- The reader keeps the last 20. -/
theorem listedRecords_rowsText (h : Accepted rows) :
    listedRecords (rowsText rows) = (rows.rtake serverRecentMaxCount).map rowBody := by
  have hlines : ((fgetsAll 1024 (rowsText rows)).map recentLine).filter recentValid = rows.map rowBody := by
    rw [fgetsAll_rowsText h.fileRow, List.map_map, List.filter_eq_self.mpr]
    · refine List.map_congr_left fun row hrow => ?_
      obtain ⟨call, ha, rfl⟩ := h row hrow
      exact RecentCall.recentLine_rowLine ha
    · intro line hline
      obtain ⟨row, hrow, rfl⟩ := List.mem_map.mp hline
      obtain ⟨call, ha, rfl⟩ := h row hrow
      rw [Function.comp_apply, RecentCall.recentLine_rowLine ha]
      exact (RecentCall.fileRow ha).rowText.recentValid_rowBody
  unfold listedRecords
  rw [hlines, foldl_pushRecord (by decide) h.length_rowBody, map_rtake]

theorem recentText_rowBody (rows : List Row) (row : Row) :
    recentText (rows.map rowBody) (rowBody row) = rowsText (rows ++ [row]) := by
  unfold recentText
  rw [rowsText_append, List.flatMap_map, List.append_assoc]
  show (rows.flatMap rowLine) ++ rowLine row = _
  unfold rowsText
  rw [List.flatMap_def, List.map_singleton, List.flatten_singleton]

/-! ## Runs -/

theorem accepted_history (calls : List RecentCall) : Accepted (history calls) := by
  intro row hrow
  obtain ⟨call, hcall, rfl⟩ := List.mem_map.mp hrow
  exact ⟨call, (List.mem_filter.mp ((rtake_suffix _ _).subset hcall)).2, rfl⟩

theorem history_append (calls : List RecentCall) (call : RecentCall) :
    history (calls ++ [call]) = if call.accepted then
      (history calls).rtake (serverRecentMaxCount - 1) ++ [call.row] else history calls := by
  unfold history
  rw [List.filter_append]
  by_cases ha : call.accepted = true
  · rw [if_pos ha, List.filter_cons_of_pos ha, List.filter_nil, map_rtake, rtake_rtake _ (by decide),
      show serverRecentMaxCount = 19 + 1 from rfl, List.rtake_concat_succ, List.map_append]
    rfl
  · rw [if_neg ha, List.filter_cons_of_neg ha, List.filter_nil, List.append_nil]

/-- One call: from the history before it to the history with it. -/
theorem contents_recentAdd {fs : UserFiles} {calls : List RecentCall} (call : RecentCall)
    (h : contents fs.recent = rowsText (history calls)) :
    contents (recentAdd fs call).recent = rowsText (history (calls ++ [call])) := by
  rw [history_append]
  by_cases ha : call.accepted = true
  · rw [if_pos ha]
    unfold recentAdd
    rw [contents_serverRecentAdd .allOk _ (call.recentAccepts_eq.trans ha) rfl,
      if_pos (show Io.allOk.rename = true from rfl),
      if_pos (show Io.allOk.openRead = true from rfl), h,
      keptRecords_rowsText (accepted_history calls), RecentCall.recentRecord_eq ha, recentText_rowBody]
  · rw [if_neg ha, ← h]
    unfold recentAdd serverRecentAdd
    rw [call.recentAccepts_eq, if_pos (by simpa using ha)]

theorem contents_recentAdds (calls : List RecentCall) {fs : UserFiles} (h : contents fs.recent = []) :
    contents (calls.foldl recentAdd fs).recent = rowsText (history calls) := by
  induction calls using List.reverseRecOn with
  | nil => exact h
  | append_singleton calls call ih =>
    rw [List.foldl_append]
    exact contents_recentAdd call ih

/-- A history is shown whole, the newest first. -/
theorem shownEntries_recentListing {fs : UserFiles} (calls : List RecentCall)
    (h : contents fs.recent = rowsText (history calls)) :
    shownEntries (recentListing fs) = (history calls).reverse := by
  have hrows := accepted_history calls
  have hlen : (history calls).length ≤ serverRecentMaxCount := by
    unfold history
    rw [List.length_map, length_rtake]
    exact Nat.min_le_left _ _
  have hsplit : (listedRecords (rowsText (history calls))).reverse.filterMap splitRecord = (history calls).reverse := by
    rw [listedRecords_rowsText hrows, rtake_of_length_le hlen, ← List.map_reverse, List.filterMap_map]
    refine (List.filterMap_congr fun row hrow => ?_).trans List.filterMap_some
    exact (hrows.fileRow row (List.mem_reverse.mp hrow)).rowText.splitRecord_rowBody
  have hreply : recentListing fs =
      (strAppend (appendListItems maxPacketSize (history calls).reverse
        (snprintf maxPacketSize (header pktRecentListRes .ok)) 0) maxPacketSize [packetTerm]).1 := by
    rw [← hsplit, ← h]
    unfold recentListing handleRecentList Io.read
    rw [if_pos (show Io.allOk.openRead = true from rfl)]
    cases fs.recent <;> rfl
  have hitem : ∀ row ∈ (history calls).reverse, (listItem row).length ≤ 1019 := fun row hrow => by
    obtain ⟨call, -, rfl⟩ := hrows row (List.mem_reverse.mp hrow)
    exact call.length_listItem_le
  rw [hreply, shownEntries_listReply (by decide) (fun row hrow => hrows.fileRow row (List.mem_reverse.mp hrow))
    fun row hrow => ?_]
  · have hsize : maxPacketSize = 32768 := rfl
    have hheader : (header pktRecentListRes .ok).length = 18 := by decide
    have hitems := length_itemsText_le hitem 0
    rw [List.length_reverse] at hitems
    have hroom : (history calls).length * (1019 + 1) ≤ serverRecentMaxCount * (1019 + 1) :=
      Nat.mul_le_mul_right _ hlen
    have hcount : serverRecentMaxCount * (1019 + 1) = 20400 := rfl
    exact listedRows_eq_of_first (fun row hrow => by have := hitem row hrow; omega) (by omega)
  · obtain ⟨call, ha, rfl⟩ := hrows row (List.mem_reverse.mp hrow)
    exact RecentCall.clean ha

/-- After any calls, from an absent or empty file: the file holds the records
of the last 20 accepted calls, or of all of them, oldest first; and the client
is shown exactly these rows, newest first. -/
theorem recentHistory_run (calls : List RecentCall) (fs : UserFiles) (h : contents fs.recent = []) :
    contents (calls.foldl recentAdd fs).recent = rowsText (history calls) ∧
      (history calls).length = min serverRecentMaxCount (calls.countP RecentCall.accepted) ∧
      shownEntries (recentListing (calls.foldl recentAdd fs)) = (history calls).reverse := by
  have hcontents := contents_recentAdds calls h
  refine ⟨hcontents, ?_, shownEntries_recentListing calls hcontents⟩
  unfold history
  rw [List.length_map, length_rtake, List.countP_eq_length_filter]

/-- Accepted calls with the keywords A, AA and so on. -/
def numberedCall (n : Fin 23) : RecentCall where
  type := utf8 "bus"
  keyword := List.replicate (n + 1) 65
  ts := utf8 "2024-01-01 09:30:00"
  type_mem := by decide
  noNul := by simp
  length := by rw [List.length_replicate]; omega
  time := by decide

/-- A call whose keyword holds a separator. -/
def refusedCall : RecentCall where
  type := utf8 "bus"
  keyword := utf8 "1;2"
  ts := utf8 "2024-01-01 09:30:00"
  type_mem := by decide
  noNul := by decide
  length := by decide
  time := by decide

/-- Of 23 accepted calls and a refused one, the last 20 accepted are shown. -/
theorem recentHistory_run_moved :
    shownEntries (recentListing (((List.finRange 23).map numberedCall ++ [refusedCall]).foldl recentAdd
      ⟨none, none, none, none⟩)) =
        ((List.range' 4 20).map fun n => (utf8 "bus", List.replicate n 65, utf8 "2024-01-01 09:30:00")).reverse :=
  (recentHistory_run _ ⟨none, none, none, none⟩ rfl).2.2.trans (by decide +kernel)

end Transit
