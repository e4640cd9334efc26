import Transit.Proof.Clients
import Transit.Proof.Favorites
import Transit.Proof.Remembered

/-!
# What the server remembers of its users

`UserState` are the favourites and the recent searches as lists, `userStep` is
what one request does to them, whatever it asks for. The files of the server are
the texts of these lists (`Keeps`) after every run of `server_run`: requests that
are neither searches nor changes of favourites leave both alone, and neither
list is touched by what belongs to the other. What a request about favourites is
answered depends on their list alone (`favoriteReply`, `routeRequest_reply`).

* `serverRun_userState`: any clients, one after the other, with any requests of
  at most 900 bytes, a connection cut in the middle of a request included, from
  any files that keep such lists;
* `shownNumber_run`: in every state that is reached, deleting the number shown
  deletes the favourite shown under it.
-/

namespace Transit

open Framework

variable {D : Type} [CDouble D]

/-- The favourites, and the recent searches, the oldest first. -/
structure UserState where
  favorites : List Row
  recent : List Row
  deriving DecidableEq

/-- The change of the favourites that a request asks for, if it asks for one. -/
def favoriteOp (request : List Byte) : Option FavoriteOp :=
  let (type, body) := splitRequest request
  if type = pktFavoriteAddReq then some (.add body)
  else if type = pktFavoriteDeleteReq then some (.delete body)
  else none

/-- How such a request is answered, these being the favourites before it; `saved`
tells whether there is a file of favourites. -/
def favoriteReply (data : AppData D) (saved : Bool) (favorites : List Row) : FavoriteOp → Reply
  | .add payload =>
    match favoriteAddFields payload with
    | none => invalidRequestReply maxPacketSize
    | some (type, id, name) =>
      if !favoriteTargetExists data type id name then
        message maxPacketSize pktFavoriteAddRes .notFound
          (utf8 "CSV 데이터에 없는 항목이라 즐겨찾기에 저장하지 않았습니다.")
      else if favorites.any fun f => f.1 == type && f.2.1 == id then
        message maxPacketSize pktFavoriteAddRes .ok (utf8 "이미 저장된 즐겨찾기입니다.")
      else
        message maxPacketSize pktFavoriteAddRes .ok
          (utf8 "즐겨찾기를 서버에 저장했습니다: " ++ favoriteTypeLabel type ++ utf8 " | " ++ id ++ utf8 " | " ++ name)
  | .delete payload =>
    match strToInt payload with
    | none => invalidRequestReply maxPacketSize
    | some k =>
      if k ≤ 0 then invalidRequestReply maxPacketSize
      else
        match favorites[k.toNat - 1]? with
        | none =>
          message maxPacketSize pktFavoriteDeleteRes .ok
            (if saved then utf8 "해당 번호의 즐겨찾기가 없습니다." else utf8 "저장된 즐겨찾기가 없습니다.")
        | some (type, id, name) =>
          message maxPacketSize pktFavoriteDeleteRes .ok
            (utf8 "즐겨찾기를 서버에서 삭제했습니다: " ++ favoriteTypeLabel type ++ utf8 " | " ++ id ++ utf8 " | " ++
              name)

/-- What a request is remembered as: a search that is answered with `ERR_OK`,
whose text the history takes. -/
def searchRecord (data : AppData D) (env : Env) (request : List Byte) : Option Row :=
  match searchType (splitRequest request).1 with
  | none => none
  | some recentType =>
    let keyword := recentKeyword recentType (splitRequest request).2
    if (routeRequest data env ⟨none, none, none, none⟩ request maxPacketSize).1.code = .ok ∧
        recentAccepts recentType keyword then
      some (recentType, keyword, env.now)
    else none

/-- What a request does to the lists: the last 20 searches are kept. -/
def userStep (data : AppData D) (env : Env) (s : UserState) (request : List Byte) : UserState :=
  match favoriteOp request, searchRecord data env request with
  | some op, _ => { s with favorites := favoriteStep data s.favorites op }
  | none, some row => { s with recent := (s.recent ++ [row]).rtake serverRecentMaxCount }
  | none, none => s

/-- Requests one after the other, each in its environment. -/
def userRun (data : AppData D) : (envs : Nat → Env) → UserState → List (List Byte) → UserState
  | _, s, [] => s
  | envs, s, request :: rest =>
    userRun data (fun k => envs (k + 1)) (userStep data (envs 0) s request) rest

/-- The files hold these lists. -/
structure Keeps (fs : UserFiles) (s : UserState) : Prop where
  favorites : Stores fs s.favorites
  recent : contents fs.recent = rowsText s.recent
  calls : ∃ calls, s.recent = history calls

/-- An environment in which every file operation succeeds and the clock can be read. -/
structure Env.Good (env : Env) : Prop where
  io : env.io = .allOk
  time : isTimestamp env.now = true

/-! ## Requests that change nothing -/

theorem Stores.congr {fs fs' : UserFiles} {favorites : List Row} (h : Stores fs favorites)
    (heq : fs'.favorites = fs.favorites) : Stores fs' favorites :=
  ⟨by rw [heq]; exact h.file, h.fields, h.nodup⟩

/-- What a request about favourites does is what its handler does. -/
theorem routeRequest_favorite {data : AppData D} {env : Env} {fs : UserFiles} {request : List Byte}
    {op : FavoriteOp} (h : favoriteOp request = some op) (hio : env.io = .allOk) :
    (routeRequest data env fs request maxPacketSize).2 = favoriteRequest data fs op := by
  unfold routeRequest
  dsimp only
  unfold favoriteOp at h
  dsimp only at h
  rw [hio]
  generalize splitRequest request = parts at h ⊢
  obtain ⟨type, body⟩ := parts
  dsimp only at h ⊢
  split at h
  · cases h
    subst_vars
    rfl
  · split at h
    · cases h
      subst_vars
      rfl
    · cases h

/-- A request that is neither a search nor about favourites leaves the files alone. -/
theorem routeRequest_other {data : AppData D} {env : Env} {fs : UserFiles} {request : List Byte} {size : Nat}
    (hop : favoriteOp request = none) (hsearch : searchType (splitRequest request).1 = none) :
    (routeRequest data env fs request size).2 = fs := by
  unfold routeRequest
  dsimp only
  unfold favoriteOp at hop
  dsimp only at hop
  generalize splitRequest request = parts at hop hsearch ⊢
  obtain ⟨type, body⟩ := parts
  dsimp only at hop hsearch ⊢
  split at hop
  · cases hop
  · rename_i hadd
    split at hop
    · cases hop
    · rename_i hdelete
      unfold searchType at hsearch
      repeat' split at hsearch
      all_goals try cases hsearch
      rename_i hstop hbus hsubway htransfer hfacility
      rw [if_neg hstop, if_neg hbus, if_neg hsubway, if_neg htransfer, if_neg hfacility, if_neg hadd, if_neg hdelete]
      repeat' split
      all_goals rfl

/-- The code of a search does not depend on the files. -/
theorem routeRequest_code {data : AppData D} {env : Env} {fs fs' : UserFiles} {request : List Byte} {size : Nat}
    {recentType : Str} (h : searchType (splitRequest request).1 = some recentType) :
    (routeRequest data env fs request size).1 = (routeRequest data env fs' request size).1 := by
  unfold routeRequest
  dsimp only
  generalize splitRequest request = parts at h ⊢
  obtain ⟨type, body⟩ := parts
  unfold searchType at h
  dsimp only at h ⊢
  repeat' split at h
  all_goals cases h
  all_goals subst_vars
  all_goals rfl

/-! ## Answers about favourites -/

section Replies

variable {fs : UserFiles} {favorites : List Row}

omit [CDouble D] in
theorem reply_add (h : Stores fs favorites) (data : AppData D) (payload : Str) :
    (handleFavoriteAdd .allOk data fs payload maxPacketSize).1 =
      favoriteReply data fs.favorites.isSome favorites (.add payload) := by
  unfold favoriteReply handleFavoriteAdd
  dsimp only
  cases favoriteAddFields payload with
  | none => rfl
  | some row =>
    obtain ⟨type, id, name⟩ := row
    dsimp only
    rw [favoriteExists_eq h]
    by_cases htarget : (!favoriteTargetExists data type id name) = true
    · rw [if_pos htarget, if_pos htarget]
    · rw [if_neg htarget, if_neg htarget]
      by_cases hexists : (favorites.any fun f => f.1 == type && f.2.1 == id) = true
      · rw [if_pos hexists, if_pos hexists]
      · rw [if_neg hexists, if_neg hexists]
        rfl

theorem deletedText_rowBody {row : Row} (h : RowText row) :
    deletedText (rowBody row) = utf8 "즐겨찾기를 서버에서 삭제했습니다: " ++ favoriteTypeLabel row.1 ++ utf8 " | " ++
      row.2.1 ++ utf8 " | " ++ row.2.2 := by
  have hne : rowBody row ≠ [] := by simp [rowBody]
  unfold deletedText
  rw [if_neg hne, show rowBody row = row.1 ++ fieldSep :: (row.2.1 ++ fieldSep :: row.2.2) by simp [rowBody],
    cutAt_append h.typeSep]
  dsimp only
  rw [cutAt_append h.idSep]

/-- The line that the delete loop takes out of a file of rows. -/
theorem deletedLine_rows (hrows : ∀ row ∈ favorites, FileRow row) {file : List Byte} (hfile : file = rowsText favorites)
    {k : Int} (hpos : 0 < k) :
    (deleteLoop k (fgetsAll 1024 file) 1).2 = (favorites[k.toNat - 1]?).map rowBody := by
  have hlines : storedLines file = favorites.map rowLine := by
    rw [hfile, storedLines_rowsText hrows]
  have hloop := congrArg Prod.snd (deleteLoop_eq (fgetsAll 1024 file) 1 (k.toNat - 1))
  rw [show (1 : Int) + (k.toNat - 1 : Nat) = k by omega] at hloop
  refine hloop.trans ?_
  show (storedLines file)[k.toNat - 1]?.map stripNewline = _
  rw [hlines, List.getElem?_map, Option.map_map]
  cases hrow : favorites[k.toNat - 1]? with
  | none => rfl
  | some row => exact congrArg some (hrows row (List.mem_of_getElem? hrow)).rowText.stripNewline_rowLine

omit [CDouble D] in
theorem reply_delete (h : Stores fs favorites) (data : AppData D) (payload : Str) :
    (handleFavoriteDelete .allOk fs payload maxPacketSize).1 =
      favoriteReply data fs.favorites.isSome favorites (.delete payload) := by
  unfold favoriteReply handleFavoriteDelete
  dsimp only
  cases strToInt payload with
  | none => rfl
  | some k =>
    dsimp only
    by_cases hpos : k ≤ 0
    · rw [if_pos hpos, if_pos hpos]
    rw [if_neg hpos, if_neg hpos]
    have hfile := h.file
    cases hf : fs.favorites with
    | none =>
      rw [hf] at hfile
      rw [rowsText_eq_nil.mp (show rowsText favorites = [] from hfile.symm)]
      rfl
    | some file =>
      rw [hf] at hfile
      have hloop := deletedLine_rows h.rows (show file = rowsText favorites from hfile) (show 0 < k by omega)
      have hread : Io.allOk.read (some file) = some file := rfl
      rw [hread]
      dsimp only
      rw [if_neg (by decide)]
      generalize deleteLoop k (fgetsAll 1024 file) 1 = result at hloop ⊢
      obtain ⟨written, deleted⟩ := result
      cases hrow : favorites[k.toNat - 1]? with
      | none =>
        obtain rfl : deleted = none := hloop.trans (by rw [hrow]; rfl)
        rfl
      | some row =>
        obtain rfl : deleted = some (rowBody row) := hloop.trans (by rw [hrow]; rfl)
        obtain ⟨type, id, name⟩ := row
        dsimp only
        rw [if_neg (by decide), if_neg (by decide),
          deletedText_rowBody (h.rows _ (List.mem_of_getElem? hrow)).rowText]

/-- A request about favourites is answered as its list asks for. -/
theorem routeRequest_reply {data : AppData D} {env : Env} {request : List Byte} {op : FavoriteOp}
    (h : Stores fs favorites) (hop : favoriteOp request = some op) (hio : env.io = .allOk) :
    (routeRequest data env fs request maxPacketSize).1 =
      favoriteReply data fs.favorites.isSome favorites op := by
  unfold routeRequest
  dsimp only
  unfold favoriteOp at hop
  dsimp only at hop
  rw [hio]
  generalize splitRequest request = parts at hop ⊢
  obtain ⟨type, body⟩ := parts
  dsimp only at hop ⊢
  split at hop
  · cases hop
    subst_vars
    exact reply_add h data body
  · split at hop
    · cases hop
      subst_vars
      exact reply_delete h data body
    · cases hop

end Replies

/-! ## One request -/

omit [CDouble D] in
theorem favoriteRequest_recent (data : AppData D) (fs : UserFiles) (op : FavoriteOp) :
    (favoriteRequest data fs op).recent = fs.recent := by
  cases op with
  | add payload =>
    unfold favoriteRequest handleFavoriteAdd
    dsimp only
    repeat' split
    all_goals rfl
  | delete payload =>
    unfold favoriteRequest handleFavoriteDelete
    dsimp only
    repeat' split
    all_goals rfl

theorem serverRecentAdd_favorites (io : Io) (fs : UserFiles) (type keyword ts : Str) :
    (serverRecentAdd io fs type keyword ts).favorites = fs.favorites := by
  unfold serverRecentAdd
  dsimp only
  repeat' split
  all_goals rfl

/-- What the history takes of a search that found something. -/
theorem saveRecentSearch_accepted {env : Env} (henv : env.Good) {fs : UserFiles} {recentType body : Str}
    (hmem : recentType ∈ recentTypes) (h : recentAccepts recentType (recentKeyword recentType body) = true) :
    saveRecentSearch env fs .ok recentType body =
      serverRecentAdd .allOk fs recentType (recentKeyword recentType body) env.now := by
  have hbody : strIsBlank body = false := by
    cases hblank : strIsBlank body with
    | false => rfl
    | true =>
      unfold recentAccepts at h
      rw [recentKeyword_blank recentType hblank] at h
      simp at h
  unfold saveRecentSearch
  rw [if_neg (by rw [(recentType_spec hmem).2.1, hbody]; simp), henv.io]

/-- A search as the call of `server_recent_add` that it leads to. -/
theorem searchRecord_call {data : AppData D} {env : Env} {request : List Byte} {row : Row} (henv : env.Good)
    (h : searchRecord data env request = some row)
    (hlen : ∀ recentType, (recentKeyword recentType (splitRequest request).2).length ≤ 990) (fs : UserFiles) :
    ∃ call : RecentCall, call.accepted = true ∧ call.row = row ∧
      (routeRequest data env fs request maxPacketSize).2 = recentAdd fs call := by
  unfold searchRecord at h
  cases htype : searchType (splitRequest request).1 with
  | none => rw [htype] at h; cases h
  | some recentType =>
    rw [htype] at h
    dsimp only at h
    split at h
    · rename_i hc
      obtain ⟨hcode, haccepts⟩ := hc
      cases h
      have hmem := searchType_mem htype
      have hdelim : containsPacketFieldDelim (recentKeyword recentType (splitRequest request).2) = false := by
        unfold recentAccepts at haccepts
        simp only [Bool.not_eq_true', Bool.or_eq_false_iff] at haccepts
        exact haccepts.2
      refine ⟨⟨recentType, recentKeyword recentType (splitRequest request).2, env.now, hmem,
        (not_mem_of_containsPacketFieldDelim hdelim).2.2.2.2.2, hlen recentType, henv.time⟩, ?_, rfl, ?_⟩
      · rw [← RecentCall.recentAccepts_eq]
        exact haccepts
      · rw [@routeRequest_code _ _ data env _ fs _ _ _ htype] at hcode
        rw [routeRequest_search htype, hcode, saveRecentSearch_accepted henv hmem haccepts]
        rfl
    · cases h

/-- Other searches leave the files alone. -/
theorem routeRequest_notRecorded {data : AppData D} {env : Env} {request : List Byte} {recentType : Str}
    (htype : searchType (splitRequest request).1 = some recentType) (h : searchRecord data env request = none)
    (fs : UserFiles) : (routeRequest data env fs request maxPacketSize).2 = fs := by
  unfold searchRecord at h
  rw [htype] at h
  dsimp only at h
  split at h
  · cases h
  · rename_i hc
    rw [@routeRequest_code _ _ data env _ fs _ _ _ htype, not_and_or] at hc
    rw [routeRequest_search htype]
    unfold saveRecentSearch
    rcases hc with hcode | hrefused
    · rw [if_pos (.inl hcode)]
    · split
      · rfl
      · unfold serverRecentAdd
        rw [if_pos (by simpa using hrefused)]

/-- The text of a search is at most one byte longer than the request has it. -/
theorem length_recentKeyword_le (recentType body : Str) :
    (recentKeyword recentType body).length ≤ body.length + 1 := by
  have hpair : ∀ sepText : Str, sepText.length ≤ 2 → ∀ n,
      (makeRecentPairText body sepText n).length ≤ body.length + 1 := by
    intro sepText hsep n
    have hcopy : (safeStrcpy (maxFieldLen * 2) body).length ≤ body.length := List.length_take_le' _ _
    unfold makeRecentPairText
    cases hcut : cutAt itemSep (safeStrcpy (maxFieldLen * 2) body) with
    | none => exact Nat.le_succ_of_le (List.length_take_le' _ _)
    | some parts =>
      obtain ⟨left, right⟩ := parts
      have hsum := congrArg List.length (cutAt_eq_some.mp hcut).1
      rw [List.length_append, List.length_cons] at hsum
      have hleft := length_strTrim_le left
      have hright := length_strTrim_le right
      refine Nat.le_trans (List.length_take_le' _ _) ?_
      simp only [List.length_append]
      omega
  unfold recentKeyword
  split
  · exact hpair _ (by decide) _
  · split
    · exact hpair _ (by decide) _
    · exact Nat.le_succ_of_le (Nat.le_trans (length_strTrim_le _) (List.length_take_le' _ _))

theorem length_splitRequest_le (request : List Byte) : (splitRequest request).2.length ≤ request.length := by
  have hpacket : (stripNewline (safeStrcpy maxPacketSize (cstr request))).length ≤ request.length :=
    Nat.le_trans (length_stripNewline_le _) (Nat.le_trans (List.length_take_le' _ _)
      (List.takeWhile_prefix _).length_le)
  unfold splitRequest
  dsimp only
  split
  · exact Nat.zero_le _
  · rename_i type body hcut
    have hsum := congrArg List.length (cutAt_eq_some.mp hcut).1
    rw [List.length_append, List.length_cons] at hsum
    dsimp only
    omega

/-- One request takes files that keep the lists to files that keep the new ones. -/
theorem Keeps.step {fs : UserFiles} {s : UserState} (h : Keeps fs s) (data : AppData D) {env : Env} (henv : env.Good)
    {request : List Byte} (hlen : request.length ≤ 900) :
    Keeps (routeRequest data env fs request maxPacketSize).2 (userStep data env s request) := by
  have hkeyword : ∀ recentType, (recentKeyword recentType (splitRequest request).2).length ≤ 990 := fun recentType => by
    have h1 := length_recentKeyword_le recentType (splitRequest request).2
    have h2 := length_splitRequest_le request
    omega
  unfold userStep
  cases hop : favoriteOp request with
  | some op =>
    rw [routeRequest_favorite hop henv.io]
    exact ⟨(h.favorites.request data op).1, by rw [favoriteRequest_recent]; exact h.recent, h.calls⟩
  | none =>
    cases hrecord : searchRecord data env request with
    | some row =>
      obtain ⟨call, haccepted, rfl, hfiles⟩ := searchRecord_call henv hrecord hkeyword fs
      obtain ⟨calls, hcalls⟩ := h.calls
      have hhistory : (s.recent ++ [call.row]).rtake serverRecentMaxCount = history (calls ++ [call]) := by
        rw [history_append, if_pos haccepted, hcalls]
        exact List.rtake_concat_succ ..
      rw [hfiles]
      refine ⟨h.favorites.congr (serverRecentAdd_favorites ..), ?_, calls ++ [call], hhistory⟩
      show contents (recentAdd fs call).recent = rowsText ((s.recent ++ [call.row]).rtake serverRecentMaxCount)
      rw [hhistory]
      exact contents_recentAdd call (by rw [h.recent, hcalls])
    | none =>
      cases htype : searchType (splitRequest request).1 with
      | none =>
        rw [routeRequest_other hop htype]
        exact h
      | some recentType =>
        rw [routeRequest_notRecorded htype hrecord]
        exact h

/-! ## Whole runs -/

/-- A client's connection: its requests, and what it had sent of one more when
the connection broke. -/
structure Visit where
  ip : Str
  requests : List (List Byte)
  cut : List Byte
  isLine : ∀ r ∈ requests, IsLine isNewline 900 r
  unfinished : ∀ b ∈ cut, isNewline b = false
  fits : cut.length < maxPacketSize

def Visit.connection (v : Visit) : Connection := .client v.ip (v.requests.flatten ++ v.cut)

theorem acceptLoop_visit (data : AppData D) (v : Visit) (session : Session) :
    (acceptLoop data session [v.connection]).session = servedSession data session v.requests := by
  have hsize : maxPacketSize = 32768 := rfl
  have hlines : ∀ r ∈ v.requests, IsLine isNewline (maxPacketSize - 1) r := fun r hr =>
    ⟨(v.isLine r hr).ended, by have := (v.isLine r hr).fits; omega⟩
  unfold Visit.connection
  rw [acceptLoop_client, handleClient_served data hlines v.unfinished v.fits]

theorem userRun_append (data : AppData D) (envs : Nat → Env) (s : UserState) (as bs : List (List Byte)) :
    userRun data envs s (as ++ bs) = userRun data (fun k => envs (k + as.length)) (userRun data envs s as) bs := by
  induction as generalizing envs s with
  | nil => rfl
  | cons a as ih =>
    rw [List.cons_append, userRun, userRun, ih]
    rfl

theorem envs_servedSession (data : AppData D) (session : Session) (requests : List (List Byte)) (k : Nat) :
    (servedSession data session requests).envs k = session.envs (k + requests.length) := by
  induction requests generalizing session with
  | nil => rfl
  | cons request requests ih =>
    refine (ih _).trans ?_
    show session.envs (k + requests.length + 1) = _
    rw [List.length_cons, Nat.add_assoc]

/-- Requests served one after the other leave files that keep the lists they make. -/
theorem Keeps.served (data : AppData D) {session : Session} (henvs : ∀ k, (session.envs k).Good) {s : UserState}
    (h : Keeps session.files s) {requests : List (List Byte)} (hlen : ∀ r ∈ requests, r.length ≤ 900) :
    Keeps (servedSession data session requests).files (userRun data session.envs s requests) := by
  induction requests generalizing session s with
  | nil => exact h
  | cons request requests ih =>
    have hstep : Keeps (session.route data request).2.files (userStep data (session.envs 0) s request) :=
      h.step data (henvs 0) (hlen request (List.mem_cons_self ..))
    exact ih (fun k => henvs (k + 1)) hstep fun r hr => hlen r (List.mem_cons_of_mem _ hr)

/-- Files that are absent or empty keep empty lists. -/
theorem keeps_nil {fs : UserFiles} (hfavorites : contents fs.favorites = []) (hrecent : contents fs.recent = []) :
    Keeps fs ⟨[], []⟩ :=
  ⟨⟨hfavorites, fun row hrow => (by cases hrow), List.nodup_nil⟩, hrecent, [], rfl⟩

/-- The files that visits leave. -/
theorem keeps_serverRun (data : AppData D) {session : Session} {s₀ : UserState} (hstart : Keeps session.files s₀)
    (henvs : ∀ k, (session.envs k).Good) (visits : List Visit) :
    Keeps (serverRun data session (visits.map Visit.connection)).session.files
      (userRun data session.envs s₀ (visits.flatMap Visit.requests)) := by
  have hshort : ∀ r ∈ visits.flatMap Visit.requests, r.length ≤ 900 := fun r hr => by
    obtain ⟨v, -, hr⟩ := List.mem_flatMap.mp hr
    exact (v.isLine r hr).fits
  have hserved : (serverRun data session (visits.map Visit.connection)).session =
      servedSession data session (visits.flatMap Visit.requests) :=
    acceptLoop_served data (acceptLoop_visit data) visits session
  rw [hserved]
  exact hstart.served data henvs hshort

/-- From files that keep a list of favourites and of searches, after any
connections with any requests of at most 900 bytes, all file operations
succeeding: the files are the texts of the lists as these requests change them
one by one. The list of the searches shows all of them, the newest first; that
of the favourites shows the first of them, as many as the response has room for,
and all where it leaves two bytes more. -/
theorem serverRun_userState (data : AppData D) (session : Session) {s₀ : UserState} (hstart : Keeps session.files s₀)
    (visits : List Visit) (henvs : ∀ k, (session.envs k).Good) :
    let s := userRun data session.envs s₀ (visits.flatMap Visit.requests)
    let after := (serverRun data session (visits.map Visit.connection)).session.files
    Keeps after s ∧ shownEntries (favoriteListing after) <+: s.favorites ∧
      shownEntries (favoriteListing after) = listedFavorites s.favorites ∧
      ((wholeListing s.favorites).length ≤ maxPacketSize - 3 →
        shownEntries (favoriteListing after) = s.favorites) ∧
      shownEntries (recentListing after) = s.recent.reverse := by
  intro s after
  have hkeeps : Keeps after s := keeps_serverRun data hstart henvs visits
  have hshown := shownEntries_of_stores hkeeps.favorites
  obtain ⟨calls, hcalls⟩ := hkeeps.calls
  refine ⟨hkeeps, ?_, hshown, fun hlen => ?_, ?_⟩
  · rw [hshown]
    exact prefix_listedRows _ _ _ _
  · rw [hshown, listedFavorites_eq hkeeps.favorites.fields hlen]
  · rw [hcalls]
    exact shownEntries_recentListing calls (by rw [hkeeps.recent, hcalls])

/-- A client that searches a stop, adds two favourites, and is cut off while it asks for the list. -/
def addingVisit : Visit where
  ip := utf8 "127.0.0.1"
  requests := [utf8 "STOP_SEARCH_REQ|S\n", utf8 "FAVORITE_ADD_REQ|1:S:S\n", utf8 "FAVORITE_ADD_REQ|2:1:Work\n"]
  cut := utf8 "FAVORITE_LIST"
  isLine := by
    have hline : ∀ body : List Byte, Plain body → body.length < 900 → IsLine isNewline 900 (body ++ [packetTerm]) :=
      fun body hbody hlen => ⟨⟨body, packetTerm, rfl, rfl, not_isNewline_of_plain hbody⟩, by
        rw [List.length_append, List.length_singleton]; omega⟩
    refine List.forall_mem_cons.mpr ⟨hline (utf8 "STOP_SEARCH_REQ|S") (by decide) (by decide),
      List.forall_mem_cons.mpr ⟨hline (utf8 "FAVORITE_ADD_REQ|1:S:S") (by decide) (by decide),
        List.forall_mem_singleton.mpr (hline (utf8 "FAVORITE_ADD_REQ|2:1:Work") (by decide) (by decide))⟩⟩
  unfinished := not_isNewline_of_plain (by decide)
  fits := by decide

/-- Environments without a failure, at the same time. -/
def goodEnvs : Nat → Env := fun _ => ⟨.allOk, true, utf8 "2024-01-01 09:30:00"⟩

theorem good_goodEnvs (k : Nat) : (goodEnvs k).Good :=
  ⟨rfl, (by decide : isTimestamp (utf8 "2024-01-01 09:30:00") = true)⟩

theorem serverRun_userState_adding :
    let after := (serverRun (crowdedData 0) ⟨⟨none, none, none, none⟩, goodEnvs⟩
      ([addingVisit].map Visit.connection)).session.files
    shownEntries (favoriteListing after) = [(utf8 "stop", utf8 "S", utf8 "S"), (utf8 "bus", utf8 "1", utf8 "Work")] ∧
      shownEntries (recentListing after) = [(utf8 "stop", utf8 "S", utf8 "2024-01-01 09:30:00")] := by
  obtain ⟨-, -, -, hfavorites, hrecent⟩ := serverRun_userState (crowdedData 0) ⟨⟨none, none, none, none⟩, goodEnvs⟩
    (keeps_nil rfl rfl) [addingVisit] good_goodEnvs
  exact ⟨(hfavorites (by decide +kernel)).trans (by decide +kernel), hrecent.trans (by decide +kernel)⟩

/-! ## The number shown -/

/-- Behind rows that are all listed, more rows change nothing of them. -/
theorem listedRows_append {size used count : Nat} {rows : List Row} (h : listedRows size used count rows = rows)
    (more : List Row) : rows <+: listedRows size used count (rows ++ more) := by
  induction rows generalizing used count with
  | nil => exact List.nil_prefix
  | cons row rows ih =>
    rw [List.cons_append]
    unfold listedRows at h ⊢
    split at h
    · cases h
    · rename_i hroom
      rw [if_neg hroom]
      exact List.cons_prefix_cons.mpr ⟨rfl, ih (List.cons.inj h).2⟩

/-- What is listed is listed without the others too. -/
theorem listedRows_listedRows (size used count : Nat) (rows : List Row) :
    listedRows size used count (listedRows size used count rows) = listedRows size used count rows := by
  induction rows generalizing used count with
  | nil => rfl
  | cons row rows ih =>
    by_cases hfull : used + (listItem row).length + 4 ≥ size
    · have hnil : listedRows size used count (row :: rows) = [] := if_pos hfull
      rw [hnil]
      rfl
    · have hcons : listedRows size used count (row :: rows) = row :: listedRows size
          (used + (if count > 0 then 1 else 0) + (listItem row).length) (count + 1) rows := if_neg hfull
      rw [hcons]
      exact (if_neg hfull).trans (congrArg (row :: ·) (ih _ _))

/-- When a row that is listed goes, the others that are listed stay. -/
theorem eraseIdx_listedRows (size used count : Nat) (rows : List Row) {k : Nat}
    (hk : k < (listedRows size used count rows).length) :
    (listedRows size used count rows).eraseIdx k <+: listedRows size used count (rows.eraseIdx k) := by
  obtain ⟨more, hmore⟩ := prefix_listedRows size used count rows
  have hall := listedRows_of_sublist (List.eraseIdx_sublist (listedRows size used count rows) k) (Nat.le_refl used)
    (Nat.le_refl count) (listedRows_listedRows size used count rows)
  have hrows : rows.eraseIdx k = (listedRows size used count rows).eraseIdx k ++ more := by
    conv_lhs => rw [← hmore]
    exact List.eraseIdx_append_of_lt_length hk more
  rw [hrows]
  exact listedRows_append hall more

/-- From files that keep a list of favourites and of searches, in every state
that the server is left in: the client that sees an entry under a number and
deletes that number deletes this entry, and no other; all others that were shown
are still shown, in their order. -/
theorem shownNumber_run (data : AppData D) (session : Session) {s₀ : UserState} (hstart : Keeps session.files s₀)
    (visits : List Visit) (henvs : ∀ k, (session.envs k).Good) (k : Nat) (entry : Row) :
    let s := userRun data session.envs s₀ (visits.flatMap Visit.requests)
    let after := (serverRun data session (visits.map Visit.connection)).session.files
    (shownEntries (favoriteListing after))[k]? = some entry →
      s.favorites[k]? = some entry ∧
      Keeps (deleteShown after k) { s with favorites := s.favorites.eraseIdx k } ∧
      (shownEntries (favoriteListing after)).eraseIdx k <+: shownEntries (favoriteListing (deleteShown after k)) := by
  intro s after hentry
  have hkeeps : Keeps after s := keeps_serverRun data hstart henvs visits
  have hlt := length_shownEntries_lt (favoriteListing after)
  have hsize : maxPacketSize = 32768 := rfl
  rw [shownEntries_of_stores hkeeps.favorites] at hentry hlt ⊢
  have hk := (List.getElem?_eq_some_iff.mp hentry).1
  obtain ⟨more, hmore⟩ : listedFavorites s.favorites <+: s.favorites := prefix_listedRows _ _ _ _
  have hrow : s.favorites[k]? = some entry := by
    rw [← hmore, List.getElem?_append_left hk]
    exact hentry
  have hdelete : favoriteStep data s.favorites (.delete (fmtNat (k + 1))) = s.favorites.eraseIdx k := by
    have hlen := (List.getElem?_eq_some_iff.mp hrow).1
    unfold favoriteStep
    dsimp only
    rw [strToInt_fmtNat (by omega)]
    dsimp only
    rw [if_pos (by omega)]
    rfl
  have hstores := (hkeeps.favorites.request data (.delete (fmtNat (k + 1)))).1
  rw [hdelete] at hstores
  have hafter : Keeps (deleteShown after k) { s with favorites := s.favorites.eraseIdx k } :=
    ⟨hstores, (congrArg contents (favoriteRequest_recent data after (.delete (fmtNat (k + 1))))).trans hkeeps.recent,
      hkeeps.calls⟩
  refine ⟨hrow, hafter, ?_⟩
  rw [shownEntries_of_stores hafter.favorites]
  exact eraseIdx_listedRows _ _ _ _ hk

/-- A server that has one favourite from before. -/
def restarted : Session := ⟨⟨some (utf8 "station|T|Metro\n"), none, none, none⟩, goodEnvs⟩

theorem keeps_restarted : Keeps restarted.files ⟨[(utf8 "station", utf8 "T", utf8 "Metro")], []⟩ :=
  ⟨⟨by decide, List.forall_mem_singleton.mpr
    ⟨by decide, by decide, by decide, by decide, by decide, by decide, by decide⟩, by decide⟩, rfl, [], rfl⟩

theorem shownNumber_run_adding :
    let after := (serverRun (crowdedData 0) restarted ([addingVisit].map Visit.connection)).session.files
    Keeps (deleteShown after 1) ⟨[(utf8 "station", utf8 "T", utf8 "Metro"), (utf8 "bus", utf8 "1", utf8 "Work")],
        [(utf8 "stop", utf8 "S", utf8 "2024-01-01 09:30:00")]⟩ ∧
      [(utf8 "station", utf8 "T", utf8 "Metro"), (utf8 "bus", utf8 "1", utf8 "Work")] <+:
        shownEntries (favoriteListing (deleteShown after 1)) := by
  intro after
  have hshown : shownEntries (favoriteListing after) = [(utf8 "station", utf8 "T", utf8 "Metro"),
      (utf8 "stop", utf8 "S", utf8 "S"), (utf8 "bus", utf8 "1", utf8 "Work")] := by decide +kernel
  have hs : userRun (crowdedData 0) restarted.envs ⟨[(utf8 "station", utf8 "T", utf8 "Metro")], []⟩
      ([addingVisit].flatMap Visit.requests) = ⟨[(utf8 "station", utf8 "T", utf8 "Metro"),
        (utf8 "stop", utf8 "S", utf8 "S"), (utf8 "bus", utf8 "1", utf8 "Work")],
        [(utf8 "stop", utf8 "S", utf8 "2024-01-01 09:30:00")]⟩ := by decide +kernel
  obtain ⟨-, hkeeps, hrest⟩ := shownNumber_run (crowdedData 0) restarted keeps_restarted [addingVisit] good_goodEnvs 1
    (utf8 "stop", utf8 "S", utf8 "S") (by rw [hshown]; rfl)
  rw [hs] at hkeeps
  rw [hshown] at hrest
  exact ⟨hkeeps, hrest⟩

end Transit
