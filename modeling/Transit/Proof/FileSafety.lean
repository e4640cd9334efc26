import Transit.Proof.UserState

/-!
# The user's files when file operations fail

Whatever a client sends and whichever file operations fail, the four files of
the user's state hold nothing but whole lines that the handlers have written:
favourites with their three fields, and at most 20 records of searches
(`WellFormed`). A failure may lose a file, or store a favourite twice; it cannot
damage a line or let the history grow.

* `serverRun_wellFormed`: after every run of the server.
-/

namespace Transit

open Framework

variable {D : Type} [CDouble D]

/-- A text of favourites. -/
def FavoritesText (file : Option (List Byte)) : Prop :=
  ∃ rows, contents file = rowsText rows ∧ ∀ row ∈ rows, FavoriteFields row.1 row.2.1 row.2.2

/-- The record of a search that the history took. -/
def IsRecord (line : Str) : Prop :=
  ∃ type keyword ts, type ∈ recentTypes ∧ recentAccepts type keyword = true ∧ isTimestamp ts = true ∧
    line = recentRecord type keyword ts

/-- A text of at most 20 records. -/
def HistoryText (file : Option (List Byte)) : Prop :=
  ∃ lines : List Str, contents file = lines.flatMap (· ++ [packetTerm]) ∧ lines.length ≤ serverRecentMaxCount ∧
    ∀ line ∈ lines, IsRecord line

structure WellFormed (fs : UserFiles) : Prop where
  favorites : FavoritesText fs.favorites
  favoritesTmp : FavoritesText fs.favoritesTmp
  recent : HistoryText fs.recent
  recentTmp : HistoryText fs.recentTmp

theorem favoritesText_none : FavoritesText none := ⟨[], rfl, fun row hrow => by cases hrow⟩

theorem historyText_none : HistoryText none :=
  ⟨[], rfl, Nat.zero_le _, fun _ hline => absurd hline List.not_mem_nil⟩

/-! ## Favourites -/

theorem FavoritesText.add {file : Option (List Byte)} (h : FavoritesText file) {type id name : Str}
    (hfields : FavoriteFields type id name) :
    FavoritesText (some (file.getD [] ++ favoriteLine type id name)) := by
  obtain ⟨rows, htext, hrows⟩ := h
  refine ⟨rows ++ [(type, id, name)], ?_, fun row hrow => ?_⟩
  · show contents file ++ favoriteLine type id name = _
    rw [htext, rowsText_append]
    exact congrArg _ (List.append_nil _).symm
  · rcases List.mem_append.mp hrow with hrow | hrow
    · exact hrows row hrow
    · rw [List.mem_singleton.mp hrow]
      exact hfields

/-- What the loop of `handle_favorite_delete` writes. -/
theorem FavoritesText.deleteLoop {file : List Byte} (h : FavoritesText (some file)) {targetIndex : Int}
    (hpos : 0 < targetIndex) : FavoritesText (some (deleteLoop targetIndex (fgetsAll 1024 file) 1).1) := by
  obtain ⟨rows, htext, hrows⟩ := h
  have htext : file = rowsText rows := htext
  have hfile : ∀ row ∈ rows, FileRow row := fun row hrow => fileRow_of_fields (hrows row hrow)
  obtain ⟨i, rfl⟩ : ∃ i : Nat, targetIndex = 1 + i := ⟨(targetIndex - 1).toNat, by omega⟩
  refine ⟨rows.eraseIdx i, ?_, fun row hrow => hrows row (List.mem_of_mem_eraseIdx hrow)⟩
  rw [deleteLoop_eq]
  show ((((storedLines file).eraseIdx i).map withNewline).flatten) = _
  rw [htext, storedLines_rowsText hfile, List.eraseIdx_map, List.map_map]
  unfold rowsText
  congr 1
  exact List.map_congr_left fun row _ => withNewline_rowLine row

omit [CDouble D] in
theorem WellFormed.favoriteAdd {fs : UserFiles} (h : WellFormed fs) (io : Io) (data : AppData D) (payload : Str)
    (size : Nat) : WellFormed (handleFavoriteAdd io data fs payload size).2 := by
  unfold handleFavoriteAdd
  cases hfields : favoriteAddFields payload with
  | none => exact h
  | some row =>
    obtain ⟨type, id, name⟩ := row
    dsimp only
    repeat' split
    · exact h
    · exact h
    · exact h
    · exact ⟨h.favorites.add (favoriteAddFields_spec hfields), h.favoritesTmp, h.recent, h.recentTmp⟩

theorem WellFormed.favoriteDelete {fs : UserFiles} (h : WellFormed fs) (io : Io) (payload : Str) (size : Nat) :
    WellFormed (handleFavoriteDelete io fs payload size).2 := by
  unfold handleFavoriteDelete
  cases hindex : strToInt payload with
  | none => exact h
  | some targetIndex =>
    dsimp only
    by_cases hpos : targetIndex ≤ 0
    · rw [if_pos hpos]
      exact h
    · rw [if_neg hpos]
      cases hread : io.read fs.favorites with
      | none => exact h
      | some file =>
        have hfile : fs.favorites = some file := by
          unfold Io.read at hread
          split at hread
          · exact hread
          · cases hread
        have hwritten := (hfile ▸ h.favorites : FavoritesText (some file)).deleteLoop (show 0 < targetIndex by omega)
        dsimp only
        generalize deleteLoop targetIndex (fgetsAll 1024 file) 1 = result at hwritten ⊢
        obtain ⟨written, deleted⟩ := result
        have htmp : FavoritesText (if io.removeTmp then none else some written) := by
          split
          · exact favoritesText_none
          · exact hwritten
        dsimp only
        by_cases hopen : (!io.openWrite) = true
        · rw [if_pos hopen]
          exact h
        · rw [if_neg hopen]
          cases deleted with
          | none => exact ⟨h.favorites, htmp, h.recent, h.recentTmp⟩
          | some line =>
            dsimp only
            split
            · exact ⟨h.favorites, htmp, h.recent, h.recentTmp⟩
            · split
              · exact ⟨favoritesText_none, htmp, h.recent, h.recentTmp⟩
              · exact ⟨hwritten, favoritesText_none, h.recent, h.recentTmp⟩

/-! ## The history -/

/-- A record is one line of text, whatever the search was. -/
theorem IsRecord.text {line : Str} (h : IsRecord line) :
    FileText line ∧ stripNewline line = line ∧ line.length ≤ 1023 := by
  obtain ⟨type, keyword, ts, hmem, haccepts, htime, rfl⟩ := h
  have hkeyword : containsPacketFieldDelim keyword = false := by
    unfold recentAccepts at haccepts
    simp only [Bool.not_eq_true', Bool.or_eq_false_iff] at haccepts
    exact haccepts.2
  obtain ⟨hdelim, hblank, hlen, -⟩ := recentType_spec hmem
  -- what none of the three fields holds, the record does not hold
  have hfree : ∀ b : Byte, b ∉ type → b ∉ keyword → b ∉ ts → b ≠ fieldSep → b ∉ recentRecord type keyword ts := by
    intro b htype hkey hts hsep hm
    have hm := List.mem_of_mem_take hm
    simp only [List.mem_append, List.mem_singleton] at hm
    tauto
  obtain ⟨-, -, -, htypeLf, htypeCr, htypeNul⟩ := not_mem_of_containsPacketFieldDelim hdelim
  obtain ⟨-, -, -, hkeyLf, hkeyCr, hkeyNul⟩ := not_mem_of_containsPacketFieldDelim hkeyword
  have hlf := hfree packetTerm htypeLf hkeyLf (not_mem_timestamp htime (by decide)) (by decide)
  have hcr := hfree 13 htypeCr hkeyCr (not_mem_timestamp htime (by decide)) (by decide)
  refine ⟨⟨hlf, hfree 0 htypeNul hkeyNul (not_mem_timestamp htime (by decide)) (by decide), ?_⟩,
    stripNewline_of_free hlf hcr, List.length_take_le _ _⟩
  -- the type is still there
  have htype : type <+: recentRecord type keyword ts :=
    List.prefix_take_iff.mpr ⟨by simp only [List.append_assoc]; exact List.prefix_append _ _, by omega⟩
  rw [← Bool.not_eq_true] at hblank ⊢
  intro hall
  exact hblank (List.all_eq_true.mpr fun b hb => List.all_eq_true.mp hall b (htype.subset hb))

/-- The records that are read of a line: one, also where its line feed is read as
a line of its own. -/
theorem IsRecord.read {line : Str} (h : IsRecord line) :
    ((fgetsAll 1024 (line ++ [packetTerm])).map stripNewline).filter (fun line => !strIsBlank line) = [line] := by
  obtain ⟨htext, hstrip, hlen⟩ := h.text
  have hfree := not_isNewline_of_plain htext.plain
  have hkept : [line].filter (fun line => !strIsBlank line) = [line] :=
    List.filter_eq_self.mpr fun l hl => by rw [List.mem_singleton.mp hl, htext.notBlank]; rfl
  have hwhole : ReadWhole (line ++ [packetTerm]) := by
    unfold ReadWhole
    rw [List.takeWhile_append_of_pos fun b hb => by rw [hfree b hb]; rfl]
    exact (by rw [List.append_nil]; exact hlen : (line ++ []).length ≤ 1023)
  rcases hwhole.fgetsAll_eq (.inl ⟨line, packetTerm, rfl, rfl, hfree⟩) with hread | ⟨body, hbody, hread⟩
  · have hcstr : cstr (line ++ [packetTerm]) = line ++ [packetTerm] := cstr_of_not_mem fun hm => by
      rcases List.mem_append.mp hm with hm | hm
      · exact htext.noNul hm
      · exact absurd (List.mem_singleton.mp hm) (by decide)
    rw [hread, hcstr, List.map_singleton, stripNewline_newline, hstrip, hkept]
  · obtain rfl : line = body := List.append_cancel_right hbody
    rw [hread, cstr_of_not_mem htext.noNul, List.map_cons, hstrip]
    exact (List.filter_append [line] [stripNewline [packetTerm]]).trans (by rw [hkept]; rfl)

/-- The writer keeps the last 19 records of the file. -/
theorem keptRecords_lines {lines : List Str} (h : ∀ line ∈ lines, IsRecord line) :
    keptRecords (lines.flatMap (· ++ [packetTerm])) = lines.rtake (serverRecentMaxCount - 1) := by
  have hended : ∀ l ∈ lines.map (· ++ [packetTerm]), Ended isNewline l := fun l hl => by
    obtain ⟨line, hline, rfl⟩ := List.mem_map.mp hl
    exact ⟨line, packetTerm, rfl, rfl, not_isNewline_of_plain (h line hline).text.1.plain⟩
  have hsplit := readLines_flatten_ended (show 0 < 1023 by decide) hended []
  rw [List.append_nil, readLines_nil, List.append_nil] at hsplit
  have hread : ((fgetsAll 1024 (lines.flatMap (· ++ [packetTerm]))).map stripNewline).filter
      (fun line => !strIsBlank line) = lines := by
    unfold fgetsAll
    rw [List.flatMap_def, hsplit, List.flatMap_map, List.map_flatMap, List.map_flatMap, List.filter_flatMap]
    exact (List.flatMap_congr fun line hline => (h line hline).read).trans (List.flatMap_singleton' lines)
  unfold keptRecords
  rw [hread, foldl_pushRecord (by decide) fun line hline => (h line hline).text.2.2]

/-- The records kept of the file, and the new one. -/
theorem HistoryText.push {file : Option (List Byte)} (h : HistoryText file) (io : Io) {record : Str}
    (hrecord : IsRecord record) :
    HistoryText (some (recentText (((io.read file).map keptRecords).getD []) record)) := by
  have hkept : ∃ kept, ((io.read file).map keptRecords).getD [] = kept ∧ (∀ line ∈ kept, IsRecord line) ∧
      kept.length ≤ 19 := by
    refine ⟨_, rfl, ?_⟩
    cases hread : io.read file with
    | none => exact ⟨fun line hline => absurd hline List.not_mem_nil, Nat.zero_le _⟩
    | some text =>
      obtain ⟨lines, htext, -, hlines⟩ := h
      have hfile : text = contents file := by
        unfold Io.read at hread
        split at hread
        · rw [hread]; rfl
        · cases hread
      rw [hfile, htext, Option.map_some, Option.getD_some, keptRecords_lines hlines]
      exact ⟨fun line hline => hlines line ((rtake_suffix _ _).subset hline),
        by rw [length_rtake]; exact Nat.min_le_left _ _⟩
  obtain ⟨kept, heq, hrecords, hlen⟩ := hkept
  rw [heq]
  refine ⟨kept ++ [record], ?_, ?_, fun line hline => ?_⟩
  · show recentText kept record = _
    unfold recentText
    rw [List.flatMap_append, List.flatMap_singleton, List.append_assoc]
  · rw [List.length_append, List.length_singleton]
    exact Nat.succ_le_succ hlen
  · rcases List.mem_append.mp hline with hline | hline
    · exact hrecords line hline
    · rw [List.mem_singleton.mp hline]
      exact hrecord

theorem WellFormed.recentAdd {fs : UserFiles} (h : WellFormed fs) (io : Io) {type keyword ts : Str}
    (hmem : type ∈ recentTypes) (htime : isTimestamp ts = true) :
    WellFormed (serverRecentAdd io fs type keyword ts) := by
  by_cases haccepts : recentAccepts type keyword = true
  · have hwritten := h.recent.push io ⟨type, keyword, ts, hmem, haccepts, htime, rfl⟩
    have hremoved : HistoryText (if io.remove then none else fs.recent) := by
      split
      · exact historyText_none
      · exact h.recent
    unfold serverRecentAdd
    rw [if_neg (by rw [haccepts]; decide)]
    cases hread : io.read fs.recent with
    | none | some _ =>
      rw [hread] at hwritten
      dsimp only
      split
      · exact h
      · split
        · exact ⟨h.favorites, h.favoritesTmp, hwritten, historyText_none⟩
        · refine ⟨h.favorites, h.favoritesTmp, hremoved, ?_⟩
          dsimp only
          split
          · exact historyText_none
          · exact hwritten
  · unfold serverRecentAdd
    rw [if_pos (by simpa using haccepts)]
    exact h

/-! ## One request -/

/-- A request changes the files as one of the two handlers of favourites does, as
`save_recent_search` does, or not at all. -/
theorem routeRequest_files (data : AppData D) (env : Env) (fs : UserFiles) (request : List Byte) (size : Nat) :
    (∃ body, (routeRequest data env fs request size).2 = (handleFavoriteAdd env.io data fs body size).2) ∨
    (∃ body, (routeRequest data env fs request size).2 = (handleFavoriteDelete env.io fs body size).2) ∨
    (∃ type ∈ recentTypes, ∃ code body,
      (routeRequest data env fs request size).2 = saveRecentSearch env fs code type body) ∨
    (routeRequest data env fs request size).2 = fs := by
  cases hsearch : searchType (splitRequest request).1 with
  | some type => exact .inr (.inr (.inl ⟨type, searchType_mem hsearch, _, _, routeRequest_search hsearch⟩))
  | none =>
    cases hop : favoriteOp request with
    | none => exact .inr (.inr (.inr (routeRequest_other hop hsearch)))
    | some op =>
      unfold favoriteOp at hop
      unfold routeRequest
      dsimp only at hop ⊢
      generalize splitRequest request = parts at hop ⊢
      obtain ⟨type, body⟩ := parts
      dsimp only at hop ⊢
      split at hop
      · rename_i htype
        subst htype
        exact .inl ⟨body, rfl⟩
      · split at hop
        · rename_i htype
          subst htype
          exact .inr (.inl ⟨body, rfl⟩)
        · cases hop

theorem WellFormed.routeRequest {fs : UserFiles} (h : WellFormed fs) (data : AppData D) {env : Env}
    (htime : isTimestamp env.now = true) (request : List Byte) (size : Nat) :
    WellFormed (Transit.routeRequest data env fs request size).2 := by
  obtain ⟨body, hfiles⟩ | ⟨body, hfiles⟩ | ⟨type, hmem, code, body, hfiles⟩ | hfiles :=
    routeRequest_files data env fs request size
  · rw [hfiles]
    exact h.favoriteAdd env.io data body size
  · rw [hfiles]
    exact h.favoriteDelete env.io body size
  · rw [hfiles]
    unfold saveRecentSearch
    split
    · exact h
    · exact h.recentAdd env.io hmem htime
  · rw [hfiles]
    exact h

/-! ## Runs -/

/-- Files with a property, and environments with one. -/
structure Session.Sound (E : Env → Prop) (P : UserFiles → Prop) (session : Session) : Prop where
  files : P session.files
  envs : ∀ k, E (session.envs k)

section

variable {data : AppData D} {E : Env → Prop} {P : UserFiles → Prop}
  (hstep : ∀ env fs request, E env → P fs → P (routeRequest data env fs request maxPacketSize).2)
include hstep

theorem Session.Sound.receive {h : Handler} (hs : h.session.Sound E P) (ch : Byte) :
    (h.receive data ch).1.session.Sound E P := by
  unfold Handler.receive
  dsimp only
  split
  · exact hs
  · split
    · exact ⟨hstep _ _ _ (hs.envs 0) hs.files, fun k => hs.envs (k + 1)⟩
    · exact hs

theorem Session.Sound.handleClient {h : Handler} (hs : h.session.Sound E P) (stream : List Byte) :
    (handleClient data h stream).2.session.Sound E P := by
  induction stream generalizing h with
  | nil => exact hs
  | cons ch stream ih =>
    rw [handleClient_cons]
    exact ih (hs.receive hstep ch)

/-- What every request keeps, whatever its bytes, the server keeps. -/
theorem Session.Sound.acceptLoop {session : Session} (hs : session.Sound E P) (connections : List Connection) :
    (acceptLoop data session connections).session.Sound E P := by
  induction connections generalizing session with
  | nil => exact hs
  | cons connection connections ih =>
    cases connection with
    | failed lastError => exact ih hs
    | client ip stream => exact ih (Session.Sound.handleClient (h := ⟨[], session⟩) hstep hs stream)

end

theorem length_flatMap_le {lines : List Str} {n : Nat} (h : ∀ line ∈ lines, line.length ≤ n) :
    (lines.flatMap (· ++ [packetTerm])).length ≤ lines.length * (n + 1) := by
  induction lines with
  | nil => exact Nat.zero_le _
  | cons line lines ih =>
    rw [List.forall_mem_cons] at h
    have hrest := ih h.2
    rw [List.flatMap_cons, List.length_append, List.length_append, List.length_singleton, List.length_cons,
      Nat.succ_mul]
    omega

theorem HistoryText.length_le {file : Option (List Byte)} (h : HistoryText file) :
    (contents file).length ≤ serverRecentMaxCount * 1024 := by
  obtain ⟨lines, htext, hcount, hlines⟩ := h
  rw [htext]
  exact Nat.le_trans (length_flatMap_le fun line hline => (hlines line hline).text.2.2) (Nat.mul_le_mul_right _ hcount)

/-- Any clients, any bytes, any file operations failing: files that are well
formed stay so, and the file of searches holds at most 20 KiB. -/
theorem serverRun_wellFormed (data : AppData D) (session : Session) (connections : List Connection)
    (h : WellFormed session.files) (htime : ∀ k, isTimestamp (session.envs k).now = true) :
    let after := (serverRun data session connections).session.files
    WellFormed after ∧ (contents after.recent).length ≤ 20 * 1024 := by
  have hsound : session.Sound (fun env => isTimestamp env.now = true) WellFormed := ⟨h, htime⟩
  have hafter : WellFormed (serverRun data session connections).session.files :=
    (hsound.acceptLoop (fun env fs request htime hfs => hfs.routeRequest data htime request maxPacketSize)
      connections).files
  exact ⟨hafter, hafter.recent.length_le⟩

/-- An environment in which the original is removed and the new file is lost. -/
def losingEnvs : Nat → Env := fun _ => ⟨⟨true, true, true, false, true⟩, true, utf8 "2024-01-01 09:30:00"⟩

theorem serverRun_wellFormed_losing :
    WellFormed (serverRun (crowdedData 0) ⟨⟨none, none, none, none⟩, losingEnvs⟩
      [.client (utf8 "127.0.0.1") (utf8 "FAVORITE_ADD_REQ|1:S:S\nFAVORITE_DELETE_REQ|1\n")]).session.files :=
  (serverRun_wellFormed (crowdedData 0) ⟨⟨none, none, none, none⟩, losingEnvs⟩ _
    ⟨favoritesText_none, favoritesText_none, historyText_none, historyText_none⟩
    fun _ => (by decide : isTimestamp (utf8 "2024-01-01 09:30:00") = true)).1

end Transit
