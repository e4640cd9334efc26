import Transit.Proof.Framing
import Transit.Proof.LoadedRecords
import Transit.Proof.RecentHistory
import Transit.Proof.Trimming
import Transit.Server.Router

/-!
# A successful search and the next list

The router records a search that was answered with `ERR_OK`; `server_recent_add`
takes the record unless its text is blank or has a separator in it, whatever
else the file holds.

* `search_remembered`: the record of an accepted search is the first entry of
  the next list, and a search that is not accepted leaves the files alone.
-/

namespace Transit

open Framework

variable {D : Type} [CDouble D]

/-- The type under which the router records a request, if it does. -/
def searchType (type : Str) : Option Str :=
  if type = pktStopSearchReq then some (utf8 "stop")
  else if type = pktBusSearchReq then some (utf8 "bus")
  else if type = pktSubwaySearchReq then some (utf8 "station")
  else if type = pktTransferReq then some (utf8 "route")
  else if type = pktFacilityReq then some (utf8 "facility")
  else none

theorem searchType_mem {type recentType : Str} (h : searchType type = some recentType) : recentType ∈ recentTypes := by
  unfold searchType at h
  repeat' split at h
  all_goals cases h
  all_goals decide

/-- The files after a search request are those that `save_recent_search` leaves. -/
theorem routeRequest_search {data : AppData D} {env : Env} {fs : UserFiles} {request : List Byte} {size : Nat}
    {recentType : Str} (h : searchType (splitRequest request).1 = some recentType) :
    (routeRequest data env fs request size).2 =
      saveRecentSearch env fs (routeRequest data env fs request size).1.code recentType (splitRequest request).2 := by
  unfold routeRequest
  dsimp only
  generalize splitRequest request = parts at h ⊢
  obtain ⟨type, body⟩ := parts
  unfold searchType at h
  dsimp only at h ⊢
  repeat' split at h
  all_goals cases h
  all_goals subst_vars
  all_goals rfl

theorem routeRequest_recentList {data : AppData D} {env : Env} {fs : UserFiles} {request : List Byte} {size : Nat}
    (h : (splitRequest request).1 = pktRecentListReq) :
    (routeRequest data env fs request size).1 = handleRecentList env.io fs size := by
  unfold routeRequest
  dsimp only
  rw [h]
  rfl

/-! ## The record at the end of the file -/

/-- A record that the reader takes as it is. -/
structure RecordLine (row : Row) : Prop extends RowText row where
  bom : bom.isPrefixOf (rowBody row) = false
  fits : (rowBody row).length ≤ 1023

variable {row : Row}

/-- The reader finds the record in the line it was written to; where the line
fills the buffer, its line feed is read as a line of its own. -/
theorem RecordLine.read (h : RecordLine row) :
    ((fgetsAll 1024 (rowLine row)).map recentLine).filter recentValid = [rowBody row] := by
  have hvalid := h.toRowText.recentValid_rowBody
  have hfree := not_isNewline_of_plain h.toRowText.plain_rowBody
  have hwhole : ReadWhole (rowLine row) := by
    unfold ReadWhole rowLine
    rw [List.takeWhile_append_of_pos fun b hb => by rw [hfree b hb]; rfl]
    show (rowBody row ++ []).length ≤ 1023
    rw [List.append_nil]
    exact h.fits
  rcases hwhole.fgetsAll_eq (.inl ⟨rowBody row, packetTerm, rfl, rfl, hfree⟩) with hread | ⟨body, hbody, hread⟩
  · have hnul : 0 ∉ rowLine row := by
      unfold rowLine
      rw [List.mem_append, not_or]
      exact ⟨h.toRowText.noNul_rowBody, by decide⟩
    have hrow : recentLine (rowLine row) = rowBody row := recentLine_eq h.toRowText.stripNewline_rowLine h.bom
    rw [hread, cstr_of_not_mem hnul, List.map_singleton, hrow, List.filter_cons_of_pos hvalid, List.filter_nil]
  · obtain ⟨rfl, -⟩ := List.append_inj' hbody rfl
    have hrow : recentLine (rowBody row) = rowBody row := recentLine_eq h.toRowText.stripNewline_rowBody h.bom
    have hlf : recentValid (recentLine [packetTerm]) = false := by decide
    rw [hread, cstr_of_not_mem h.toRowText.noNul_rowBody, List.map_cons, List.map_singleton, hrow,
      List.filter_cons_of_pos hvalid, List.filter_cons_of_neg (by rw [hlf]; exact Bool.false_ne_true), List.filter_nil]

/-- Behind a file that ends in a line feed, reading starts anew. -/
theorem fgetsAll_append {a : List Byte} (h : a = [] ∨ ∃ a', a = a' ++ [packetTerm]) (b : List Byte) :
    fgetsAll 1024 (a ++ b) = fgetsAll 1024 a ++ fgetsAll 1024 b := by
  rcases h with rfl | ⟨a', rfl⟩
  · rfl
  · unfold fgetsAll
    rw [readLines_append_ended (by decide) (show isNewline packetTerm = true from rfl), List.map_append]

theorem flatMap_lines (lines : List Str) :
    lines.flatMap (· ++ [packetTerm]) = [] ∨ ∃ a', lines.flatMap (· ++ [packetTerm]) = a' ++ [packetTerm] := by
  rcases List.eq_nil_or_concat lines with rfl | ⟨init, line, rfl⟩
  · exact .inl rfl
  · refine .inr ⟨init.flatMap (· ++ [packetTerm]) ++ line, ?_⟩
    rw [List.concat_eq_append, List.flatMap_append, List.flatMap_singleton, List.append_assoc]

/-- The newest record that the reader keeps is the one at the end of the file. -/
theorem RecordLine.listedRecords_eq (h : RecordLine row) (kept : List Str) :
    ∃ older, listedRecords (recentText kept (rowBody row)) = older ++ [rowBody row] := by
  have hcopy : safeStrcpy 1024 (rowBody row) = rowBody row := snprintf_of_le h.fits
  have hlines : ((fgetsAll 1024 (recentText kept (rowBody row))).map recentLine).filter recentValid =
      ((fgetsAll 1024 (kept.flatMap (· ++ [packetTerm]))).map recentLine).filter recentValid ++ [rowBody row] := by
    unfold recentText
    rw [List.append_assoc, fgetsAll_append (flatMap_lines kept), List.map_append, List.filter_append]
    exact congrArg _ h.read
  unfold listedRecords
  rw [hlines, List.foldl_append]
  generalize List.foldl (pushRecord serverRecentMaxCount) [] _ = recent
  show ∃ older, pushRecord serverRecentMaxCount recent (rowBody row) = older ++ [rowBody row]
  unfold pushRecord
  rw [hcopy]
  split
  · exact ⟨_, rfl⟩
  · exact ⟨_, rfl⟩

/-! ## The list -/

/-- The rows of the records that `handle_recent_list` reads, the newest first. -/
def recentRows (file : List Byte) : List Row := (listedRecords file).reverse.filterMap splitRecord

theorem stripNewline_drop {s : Str} (h : stripNewline s = s) (n : Nat) : stripNewline (s.drop n) = s.drop n := by
  rw [stripNewline_eq_self_iff] at h ⊢
  intro b hb
  refine h b ?_
  rw [List.getLast?_drop] at hb
  split at hb
  · cases hb
  · exact hb

/-- No item of the list ends in a line end. -/
theorem stripNewline_recentRows (file : List Byte) :
    ∀ row ∈ recentRows file, stripNewline (listItem row) = listItem row := by
  intro row hrow
  obtain ⟨record, hrecord, hsplit⟩ := List.mem_filterMap.mp hrow
  rcases mem_foldl_pushRecord (List.mem_reverse.mp hrecord) with hrecord | ⟨line, hline, rfl⟩
  · cases hrecord
  · obtain ⟨raw, hraw, rfl⟩ := List.mem_map.mp (List.mem_filter.mp hline).1
    have hlen := (plain_of_mem_fgetsAll (by decide) hraw).2
    have hstrip : stripNewline (recentLine raw) = recentLine raw ∧ (recentLine raw).length ≤ 1023 := by
      have hle := length_stripNewline_le raw
      unfold recentLine
      dsimp only
      split
      · exact ⟨stripNewline_drop (stripNewline_idem raw) 3, by rw [List.length_drop]; omega⟩
      · exact ⟨stripNewline_idem raw, by omega⟩
    rw [show safeStrcpy 1024 (recentLine raw) = recentLine raw from snprintf_of_le hstrip.2] at hsplit
    exact stripNewline_listItem hstrip.1 hsplit

/-- The client is shown the first row that the server reads, if it is clean. -/
theorem shownEntries_head {file : List Byte} {rest : List Row} (h : recentRows file = row :: rest) (hclean : Clean row)
    {fs : UserFiles} (hfile : fs.recent = some file) :
    (shownEntries (handleRecentList .allOk fs maxPacketSize).response).head? = some row := by
  have hsize : maxPacketSize = 32768 := rfl
  have hheader : (header pktRecentListRes .ok).length = 18 := by decide
  have hitem := hclean.length
  have hreply := listReply_eq (by decide : pktRecentListRes ∈ packetTypes) (@plain_recentRow file)
  rw [show (listedRecords file).reverse.filterMap splitRecord = recentRows file from rfl] at hreply
  have hresponse : (handleRecentList .allOk fs maxPacketSize).response =
      (strAppend (appendListItems maxPacketSize (recentRows file)
        (snprintf maxPacketSize (header pktRecentListRes .ok)) 0) maxPacketSize [packetTerm]).1 := by
    unfold handleRecentList Io.read
    rw [hfile]
    rfl
  have hlisted : ∃ more, listedRows maxPacketSize (header pktRecentListRes .ok).length 0 (recentRows file) =
      row :: more := by
    rw [h]
    unfold listedRows
    rw [if_neg (by omega)]
    exact ⟨_, rfl⟩
  obtain ⟨more, hmore⟩ := hlisted
  have hrows := (prefix_listedRows maxPacketSize (header pktRecentListRes .ok).length 0 (recentRows file)).subset
  rw [hresponse, hreply.1,
    shownEntries_eq (by decide) hreply.2 fun row hrow => stripNewline_recentRows file row (hrows hrow), hmore,
    List.flatMap_cons, rowEntries_clean hclean]
  rfl

/-! ## Searches -/

/-- What is kept of the time in a record: `record[1024]` may end in it. -/
def recordTime (type keyword ts : Str) : Str := ts.take (1021 - type.length - keyword.length)

theorem recentRecord_eq_rowBody {type keyword ts : Str} (h : type.length + keyword.length < 1021) :
    recentRecord type keyword ts = rowBody (type, keyword, recordTime type keyword ts) := by
  unfold recentRecord snprintf recordTime rowBody
  dsimp only
  have hlen : (type ++ [fieldSep] ++ keyword ++ [fieldSep]).length = type.length + keyword.length + 2 := by
    simp only [List.length_append, List.length_singleton]
    omega
  rw [List.take_append, List.take_of_length_le (by omega), hlen]
  congr 2
  omega

/-- The record of an accepted search, if any of the time fits. -/
theorem recordLine_search {type keyword ts : Str} (htype : type ∈ recentTypes) (hts : isTimestamp ts = true)
    (haccepts : recentAccepts type keyword = true) (hfits : type.length + keyword.length < 1021) :
    RecordLine (type, keyword, recordTime type keyword ts) ∧ Clean (type, keyword, recordTime type keyword ts) := by
  obtain ⟨htypeDelim, htypeBlank, -, hhead⟩ := recentType_spec htype
  obtain ⟨htext, hstrip, hlist⟩ := timestamp_take_spec hts (show 0 < 1021 - type.length - keyword.length by omega)
  have hlen : (recordTime type keyword ts).length ≤ 1021 - type.length - keyword.length := List.length_take_le _ _
  unfold recentAccepts at haccepts
  simp only [Bool.not_eq_true', Bool.or_eq_false_iff] at haccepts
  obtain ⟨⟨⟨-, hblank⟩, -⟩, hdelim⟩ := haccepts
  have htypeText := fileText_of_delim htypeDelim htypeBlank
  obtain ⟨htypeSep, htypeItem, htypeList, -⟩ := not_mem_of_containsPacketFieldDelim htypeDelim
  obtain ⟨hkeySep, hkeyItem, hkeyList, -⟩ := not_mem_of_containsPacketFieldDelim hdelim
  refine ⟨⟨⟨htypeText, fileText_of_delim hdelim hblank, htext, htypeSep, hkeySep, hstrip⟩,
    not_bom_rowBody htypeText.ne_nil hhead, ?_⟩, htypeItem, hkeyItem, ?_, ?_⟩
  · simp only [rowBody, List.length_append, List.length_singleton]
    omega
  · simp only [listItem, List.mem_append, List.mem_singleton, not_or]
    exact ⟨⟨⟨⟨htypeList, by decide⟩, hkeyList⟩, by decide⟩, hlist⟩
  · rw [length_listItem]
    dsimp only
    omega

/-- The record is written behind what is kept of the file. -/
theorem serverRecentAdd_allOk {fs : UserFiles} {type keyword ts : Str} (haccepts : recentAccepts type keyword = true) :
    ∃ kept, (serverRecentAdd .allOk fs type keyword ts).recent =
      some (recentText kept (recentRecord type keyword ts)) := by
  unfold serverRecentAdd
  rw [haccepts]
  exact ⟨_, rfl⟩

/-- Nothing to record in a blank body. -/
theorem recentKeyword_blank (type : Str) {body : Str} (h : strIsBlank body = true) :
    strIsBlank (recentKeyword type body) = true := by
  have hall : ∀ n, (snprintf n body).all isspace = true := fun n =>
    List.all_eq_true.mpr fun b hb => List.all_eq_true.mp h b (List.mem_of_mem_take hb)
  have hpair : ∀ sepText n, strIsBlank (makeRecentPairText body sepText n) = true := by
    intro sepText n
    have hcut : cutAt itemSep (safeStrcpy (maxFieldLen * 2) body) = none := by
      rw [cutAt_eq_none]
      intro hm
      exact absurd (List.all_eq_true.mp (hall (maxFieldLen * 2)) itemSep hm) (by decide)
    unfold makeRecentPairText
    rw [hcut]
    exact hall n
  unfold recentKeyword
  split
  · exact hpair _ _
  · split
    · exact hpair _ _
    · exact List.all_eq_true.mpr fun b hb => List.all_eq_true.mp (hall (maxFieldLen * 2)) b (strTrim_subset _ hb)

/-- What a successful search leaves: where the filter of the history takes its
text and any of the time fits behind it, the next list starts with its record;
where it does not take it, the files are as they were. -/
theorem search_remembered (data : AppData D) (env env' : Env) (fs : UserFiles) (request listRequest : List Byte)
    {recentType : Str} (hio : env.io = .allOk) (hio' : env'.io = .allOk) (htime : isTimestamp env.now = true)
    (hsearch : searchType (splitRequest request).1 = some recentType)
    (hok : (routeRequest data env fs request maxPacketSize).1.code = .ok)
    (hlist : (splitRequest listRequest).1 = pktRecentListReq) :
    (recentAccepts recentType (recentKeyword recentType (splitRequest request).2) = false →
      (routeRequest data env fs request maxPacketSize).2 = fs) ∧
    (recentAccepts recentType (recentKeyword recentType (splitRequest request).2) = true →
      recentType.length + (recentKeyword recentType (splitRequest request).2).length < 1021 →
      (shownEntries (routeRequest data env' (routeRequest data env fs request maxPacketSize).2 listRequest
        maxPacketSize).1.response).head? =
          some (recentType, recentKeyword recentType (splitRequest request).2,
            recordTime recentType (recentKeyword recentType (splitRequest request).2) env.now)) := by
  have hmem := searchType_mem hsearch
  have hfiles : (routeRequest data env fs request maxPacketSize).2 = saveRecentSearch env fs
      (routeRequest data env fs request maxPacketSize).1.code recentType (splitRequest request).2 :=
    routeRequest_search hsearch
  rw [hok] at hfiles
  rw [hfiles]
  unfold saveRecentSearch
  constructor
  · intro hrefused
    split
    · rfl
    · unfold serverRecentAdd
      rw [hrefused]
      rfl
  · intro haccepts hfits
    have hbody : strIsBlank (splitRequest request).2 = false := by
      cases hblank : strIsBlank (splitRequest request).2 with
      | false => rfl
      | true =>
        unfold recentAccepts at haccepts
        rw [recentKeyword_blank recentType hblank] at haccepts
        simp at haccepts
    have hkept :
        ¬ (ErrorCode.ok ≠ .ok ∨ strIsBlank recentType = true ∨ strIsBlank (splitRequest request).2 = true) := by
      rw [(recentType_spec hmem).2.1, hbody]
      simp
    rw [if_neg hkept, hio, routeRequest_recentList hlist, hio']
    generalize recentKeyword recentType (splitRequest request).2 = keyword at haccepts hfits ⊢
    obtain ⟨hline, hclean⟩ := recordLine_search hmem htime haccepts hfits
    obtain ⟨kept, hrecent⟩ := @serverRecentAdd_allOk fs _ _ env.now haccepts
    obtain ⟨older, holder⟩ := hline.listedRecords_eq kept
    have hrows : recentRows (recentText kept (rowBody (recentType, keyword, recordTime recentType keyword env.now))) =
        (recentType, keyword, recordTime recentType keyword env.now) :: older.reverse.filterMap splitRecord := by
      unfold recentRows
      rw [holder, List.reverse_append, List.reverse_singleton, List.singleton_append,
        List.filterMap_cons_some hline.toRowText.splitRecord_rowBody]
    rw [recentRecord_eq_rowBody hfits] at hrecent
    exact shownEntries_head hrows hclean hrecent

/-- A station is searched, and the list is asked for. -/
theorem search_remembered_station :
    (shownEntries (routeRequest (loadedData (crowdedFiles 1) : AppData ℚ) ⟨.allOk, true, []⟩
        (routeRequest (loadedData (crowdedFiles 1) : AppData ℚ) ⟨.allOk, true, utf8 "2024-01-01 09:30:00"⟩
          ⟨none, none, none, none⟩ (utf8 "SUBWAY_SEARCH_REQ|T\n") maxPacketSize).2
        (utf8 "RECENT_LIST_REQ|\n") maxPacketSize).1.response).head? =
      some (utf8 "station", utf8 "T", utf8 "2024-01-01 09:30:00") :=
  (search_remembered (loadedData (crowdedFiles 1) : AppData ℚ) ⟨.allOk, true, utf8 "2024-01-01 09:30:00"⟩
    ⟨.allOk, true, []⟩
    ⟨none, none, none, none⟩ (utf8 "SUBWAY_SEARCH_REQ|T\n") (utf8 "RECENT_LIST_REQ|\n") rfl rfl (by decide)
    (show searchType _ = some (utf8 "station") by decide) (by decide +kernel) (by decide)).2 (by decide) (by decide)

/-- The router takes the number 15 out of `1:5`, the history does not take a text
with a separator. -/
theorem search_forgotten_colon :
    (dataLoaderLoad (crowdedFiles 1) : AppData ℚ × Bool).2 = true ∧
    (routeRequest (loadedData (crowdedFiles 1) : AppData ℚ) ⟨.allOk, true, utf8 "2024-01-01 09:30:00"⟩
      ⟨none, none, none, none⟩ (utf8 "BUS_SEARCH_REQ|1:5\n") maxPacketSize).1.code = .ok ∧
    shownEntries (routeRequest (loadedData (crowdedFiles 1) : AppData ℚ) ⟨.allOk, true, []⟩
        (routeRequest (loadedData (crowdedFiles 1) : AppData ℚ) ⟨.allOk, true, utf8 "2024-01-01 09:30:00"⟩
          ⟨none, none, none, none⟩ (utf8 "BUS_SEARCH_REQ|1:5\n") maxPacketSize).2
        (utf8 "RECENT_LIST_REQ|\n") maxPacketSize).1.response = [] := by
  decide +kernel

end Transit
