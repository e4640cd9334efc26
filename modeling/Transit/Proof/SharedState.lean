import Transit.Proof.PairRequests
import Transit.Proof.UserState

/-!
# The lists that several clients share

The files of the server are the same for all clients. In whatever order they and
the server go on, what a client reads is what a server answers that has served
the requests of the clients ahead of it and its own so far, one after the other:

* `clients_sharedState`: the lists that a client is shown, and the answers about
  favourites, are those of the lists of that moment; other answers do not depend
  on what anybody has stored;
* `clients_deleteShown`: no other client comes between the list that a client is
  shown and the deletion of an entry of it.
-/

namespace Transit

open Framework

variable {D : Type} [CDouble D]

/-- The requests whose answers depend on the user's files. -/
def readsFiles (request : List Byte) : Prop :=
  (splitRequest request).1 ∈ [pktFavoriteAddReq, pktFavoriteListReq, pktFavoriteDeleteReq, pktRecentListReq]

/-! ## What the menus send is short -/

theorem length_requestLine_le (packet body : Str) :
    (requestLine packet body).length ≤ packet.length + body.length + 2 := by
  refine Nat.le_trans (List.length_take_le' _ _) ?_
  simp only [List.length_append, List.length_singleton]
  omega

/-- Requests of at most 900 bytes. -/
def Short (requests : List Str) : Prop := ∀ r ∈ requests, r.length ≤ 900

theorem short_nil : Short [] := fun r hr => (by cases hr)

theorem short_one {packet body : Str} (hp : packet.length ≤ 64) (hb : body.length ≤ 600) :
    Short [requestLine packet body] := by
  intro r hr
  have hlen := length_requestLine_le packet body
  rw [List.mem_singleton.mp hr]
  omega

theorem Short.append {as bs : List Str} (ha : Short as) (hb : Short bs) : Short (as ++ bs) :=
  fun r hr => (List.mem_append.mp hr).elim (ha r) (hb r)

theorem short_ite {c : Prop} [Decidable c] {a b : List Str × List Byte} (ha : Short a.1) (hb : Short b.1) :
    Short (if c then a else b).1 := by
  by_cases hc : c
  · rw [if_pos hc]; exact ha
  · rw [if_neg hc]; exact hb

theorem readLinePrompt_length {size : Nat} (hs : 1 < size) {console : List Byte} {p : Str × List Byte}
    (h : readLinePrompt size console = some p) : p.1.length ≤ size - 1 := (readLinePrompt_spec hs h).2.1

theorem short_runSingleKeywordMenu {requestType : Str} (hlen : requestType.length ≤ 64) (console : List Byte) :
    Short (runSingleKeywordMenu requestType 256 console).1 := by
  unfold runSingleKeywordMenu readNonemptyInput
  cases h : readLinePrompt 256 console with
  | none => exact short_nil
  | some p =>
    have hp := readLinePrompt_length (by decide) h
    dsimp only
    by_cases hblank : strIsBlank p.1 = true
    · rw [if_pos hblank]
      exact short_nil
    · rw [if_neg hblank]
      exact short_one hlen (by omega)

theorem short_pair {packet a b : Str} (hp : packet.length ≤ 64) (ha : a.length ≤ 255) (hb : b.length ≤ 255) :
    Short [requestLine packet (a ++ [itemSep] ++ b)] := by
  refine short_one hp ?_
  simp only [List.length_append, List.length_singleton]
  omega

theorem short_runRouteSearchMenu (console : List Byte) : Short (runRouteSearchMenu 256 console).1 := by
  unfold runRouteSearchMenu
  cases h : readLinePrompt 256 console with
  | none => exact short_nil
  | some p =>
    dsimp only
    cases h' : readLinePrompt 256 p.2 with
    | none => exact short_nil
    | some q =>
      exact short_ite short_nil (short_pair (by decide) (readLinePrompt_length (by decide) h)
        (readLinePrompt_length (by decide) h'))

theorem short_runFacilityMenu (console : List Byte) : Short (runFacilityMenu 256 console).1 := by
  unfold runFacilityMenu
  cases h : readLinePrompt 256 console with
  | none => exact short_nil
  | some p =>
    dsimp only
    cases h' : readLinePrompt 256 p.2 with
    | none => exact short_nil
    | some q =>
      refine short_ite short_nil (short_pair (by decide) (readLinePrompt_length (by decide) h) ?_)
      split
      · exact List.length_take_le _ _
      · exact readLinePrompt_length (by decide) h'

theorem short_runFavoriteAddMenu (console : List Byte) : Short (runFavoriteAddMenu console).1 := by
  unfold runFavoriteAddMenu
  cases h : readLinePrompt 64 console with
  | none => exact short_nil
  | some p =>
    dsimp only
    cases h' : readLinePrompt 128 p.2 with
    | none => exact short_nil
    | some q =>
      dsimp only
      cases h'' : readLinePrompt 128 q.2 with
      | none => exact short_nil
      | some s =>
        have hp := readLinePrompt_length (by decide) h
        have hq := readLinePrompt_length (by decide) h'
        have hs := readLinePrompt_length (by decide) h''
        show Short (favoriteAdd p.1 q.1 s.1)
        unfold favoriteAdd
        split
        · exact short_nil
        · refine short_one (by decide) ?_
          simp only [List.length_append, List.length_singleton]
          omega

theorem short_favoriteList : Short favoriteList := short_one (by decide) (by decide)

theorem short_recentList : Short recentList := short_one (by decide) (by decide)

theorem short_runFavoriteDeleteMenu (console : List Byte) : Short (runFavoriteDeleteMenu 256 console).1 := by
  unfold runFavoriteDeleteMenu
  cases readLinePrompt 256 console with
  | none => exact short_favoriteList
  | some p =>
    dsimp only
    cases hi : strToInt p.1 with
    | none => exact short_favoriteList
    | some index =>
      refine short_favoriteList.append ?_
      unfold favoriteDelete
      split
      · exact short_nil
      · exact short_one (by decide) (Nat.le_trans (length_fmtInt (isInt32_strToInt hi)) (by decide))

theorem short_menuChoice (choice : Str) (console : List Byte) : Short (menuChoice choice console).1 := by
  unfold menuChoice
  apply short_ite (short_runSingleKeywordMenu (by decide) console)
  apply short_ite (short_runSingleKeywordMenu (by decide) console)
  apply short_ite (short_runSingleKeywordMenu (by decide) console)
  apply short_ite (short_runRouteSearchMenu console)
  apply short_ite (short_runFacilityMenu console)
  apply short_ite short_favoriteList
  apply short_ite (short_runFavoriteAddMenu console)
  apply short_ite (short_runFavoriteDeleteMenu console)
  exact short_ite short_recentList short_nil

theorem short_menuLoopAux (fuel : Nat) (console : List Byte) : Short (menuLoopAux fuel console) := by
  induction fuel generalizing console with
  | zero => exact short_nil
  | succ fuel ih =>
    unfold menuLoopAux
    split
    · exact short_nil
    · rename_i choice rest _
      split
      · exact short_nil
      · exact (short_menuChoice choice rest).append (ih _)

/-- Whatever is typed, the requests that the client sends are lines of at most 900 bytes. -/
theorem clientRequests_short (console : List Byte) : ∀ r ∈ clientRequests console, IsLine isNewline 900 r := by
  intro r hr
  refine ⟨(clientRequests_isLine console r hr).ended, ?_⟩
  rcases List.mem_cons.mp hr with rfl | hr
  · decide
  · exact short_menuLoopAux _ _ r hr

/-! ## Answers that do not depend on the files -/

theorem routeRequest_withoutFiles {data : AppData D} {env : Env} {request : List Byte} {size : Nat}
    (h : ¬ readsFiles request) (fs fs' : UserFiles) :
    (routeRequest data env fs request size).1 = (routeRequest data env fs' request size).1 := by
  unfold readsFiles at h
  unfold routeRequest
  dsimp only
  generalize splitRequest request = parts at h ⊢
  obtain ⟨type, body⟩ := parts
  simp only [List.mem_cons, List.not_mem_nil, or_false, not_or] at h
  obtain ⟨hadd, hlist, hdelete, hrecent⟩ := h
  dsimp only
  rw [if_neg hadd, if_neg hlist, if_neg hdelete, if_neg hrecent, if_neg hadd, if_neg hlist, if_neg hdelete,
    if_neg hrecent]
  repeat' split
  all_goals rfl

theorem routeRequest_favoriteList {data : AppData D} {env : Env} {fs : UserFiles} {request : List Byte} {size : Nat}
    (h : (splitRequest request).1 = pktFavoriteListReq) :
    (routeRequest data env fs request size).1 = handleFavoriteList env.io fs size := by
  unfold routeRequest
  dsimp only
  rw [h]
  rfl

theorem splitRequest_favoriteList : splitRequest (requestLine pktFavoriteListReq []) = (pktFavoriteListReq, []) := by
  decide +kernel

/-! ## The answers that are read -/

theorem servedBefore_short (consoles : List (List Byte)) (i j : Nat) :
    ∀ r ∈ servedBefore consoles i j, r.length ≤ 900 := by
  intro r hr
  rcases List.mem_append.mp hr with hr | hr
  · obtain ⟨console, -, hr⟩ := List.mem_flatMap.mp hr
    exact (clientRequests_short console r hr).fits
  · exact (clientRequests_short _ r (List.mem_of_mem_take hr)).fits

section Shared

variable {files : CsvFiles} {session : Session} {consoles : List (List Byte)} {turns : List HallTurn} {i j : Nat}
  {console request response : List Byte} {w : World Byte Handler Event} {s₀ : UserState}

/-- What a client reads is routed with the files that keep the lists of that moment. -/
theorem hallAfter_routed (hconsole : consoles[i]? = some console)
    (hw : (hallAfter (D := D) files session consoles turns).worlds[i]? = some w)
    (hrequest : (clientRequests console)[j]? = some request) (hgot : w.got[j]? = some response) :
    let data := (dataLoaderLoad files : AppData D × Bool).1
    let served := servedBefore consoles i j
    response = (routeRequest data (session.envs served.length) (servedSession data session served).files request
      maxPacketSize).1.response := by
  intro data served
  have henv : (servedSession data session served).envs 0 = session.envs served.length := by
    rw [← Nat.zero_add served.length]
    exact envs_servedSession data session served 0
  rw [← henv]
  exact hallAfter_got hconsole hw hrequest hgot

/-- What a list of favourites shows. -/
theorem shownEntries_routed {data : AppData D} {env : Env} {fs : UserFiles} {s : UserState} (h : Keeps fs s)
    (hio : env.io = .allOk) (hrequest : (splitRequest request).1 = pktFavoriteListReq) :
    shownEntries (routeRequest data env fs request maxPacketSize).1.response = listedFavorites s.favorites := by
  rw [routeRequest_favoriteList hrequest, hio]
  exact shownEntries_of_stores h.favorites

variable (files session consoles turns) in
/-- From files that keep a list of favourites and of searches, all file
operations succeeding, any clients and everything that is typed at them, in
whatever order they and the server go on: answer `j` of client `i`, as soon as it
has read it, is that of a server that has served all requests of the clients
ahead of it and its own first `j`, one after the other. A list of searches shows
the last 20 of these, a list of favourites as many of them as fit; a favourite is
added or deleted, or refused, as these favourites ask for; and what does not read
the files is answered as if nothing had been stored. -/
theorem clients_sharedState (hstart : Keeps session.files s₀) (henvs : ∀ k, (session.envs k).Good)
    (hconsole : consoles[i]? = some console)
    (hw : (hallAfter (D := D) files session consoles turns).worlds[i]? = some w)
    (hrequest : (clientRequests console)[j]? = some request) (hgot : w.got[j]? = some response) :
    let data := (dataLoaderLoad files : AppData D × Bool).1
    let served := servedBefore consoles i j
    let before := servedSession data session served
    let s := userRun data session.envs s₀ served
    response = (before.route data request).1 ∧ Keeps before.files s ∧
      ((splitRequest request).1 = pktRecentListReq → shownEntries response = s.recent.reverse) ∧
      ((splitRequest request).1 = pktFavoriteListReq →
        shownEntries response <+: s.favorites ∧ shownEntries response = listedFavorites s.favorites) ∧
      (∀ op, favoriteOp request = some op →
        response = (favoriteReply data before.files.favorites.isSome s.favorites op).response) ∧
      (¬ readsFiles request → ∀ fs,
        response = (routeRequest data (session.envs served.length) fs request maxPacketSize).1.response) := by
  intro data served before s
  have hkeeps : Keeps before.files s := hstart.served data henvs (servedBefore_short consoles i j)
  have hio := (henvs served.length).io
  have hrouted : response =
      (routeRequest data (session.envs served.length) before.files request maxPacketSize).1.response :=
    hallAfter_routed hconsole hw hrequest hgot
  refine ⟨hallAfter_got hconsole hw hrequest hgot, hkeeps, fun hrecents => ?_, fun hlist => ?_, fun op hop => ?_,
    fun hfree fs => ?_⟩
  · obtain ⟨calls, hcalls⟩ := hkeeps.calls
    rw [hrouted, routeRequest_recentList hrecents, hio, hcalls]
    exact shownEntries_recentListing calls (by rw [hkeeps.recent, hcalls])
  · rw [hrouted, shownEntries_routed hkeeps hio hlist]
    exact ⟨prefix_listedRows _ _ _ _, rfl⟩
  · rw [hrouted, routeRequest_reply hkeeps.favorites hop hio]
  · rw [hrouted, routeRequest_withoutFiles hfree before.files fs]

/-- A client adds a favourite to the one that was there; another, which has sent
its first request before that, has the favourites listed and deletes the second. -/
def sharingConsoles : List (List Byte) := [utf8 "7\nstop\nS\nS\n0\n", utf8 "8\n2\n"]

def sharingTurns : List HallTurn :=
  [.client 1, .client 0] ++ List.replicate 22 .server ++ List.replicate 22 (.client 0) ++ List.replicate 26 .server ++
    List.replicate 84 (.client 0) ++ List.replicate 24 .server ++ List.replicate 22 (.client 1) ++
    List.replicate 22 .server ++ List.replicate 50 (.client 1) ++ List.replicate 22 .server ++
    List.replicate 90 (.client 1)

def sharedListing : Str := utf8 "FAVORITE_LIST_RES|0|station:T:Metro;stop:S:S\n"

/-- The second client has read all of its answers. -/
theorem sharing_read : ∃ w, (hallAfter (D := ℚ) (crowdedFiles 0) restarted sharingConsoles
    sharingTurns).worlds[1]? = some w ∧ w.got[1]? = some sharedListing ∧ w.got.length = 3 ∧ w.reading = none := by
  have hread : ((hallAfter (D := ℚ) (crowdedFiles 0) restarted sharingConsoles sharingTurns).worlds[1]?.any fun w =>
      w.got[1]? == some sharedListing && w.got.length == 3 && w.reading.isNone) = true := by
    decide +kernel
  cases hw : (hallAfter (D := ℚ) (crowdedFiles 0) restarted sharingConsoles sharingTurns).worlds[1]? with
  | none => rw [hw] at hread; cases hread
  | some w =>
    rw [hw] at hread
    simp only [Option.any_some, Bool.and_eq_true, beq_iff_eq, Option.isNone_iff_eq_none] at hread
    exact ⟨w, rfl, hread.1.1, hread.1.2, hread.2⟩

theorem clients_sharedState_sharing :
    let data := (dataLoaderLoad (crowdedFiles 0) : AppData ℚ × Bool).1
    let served := servedBefore sharingConsoles 1 1
    sharedListing =
        ((servedSession data restarted served).route data (requestLine pktFavoriteListReq [])).1 ∧
      shownEntries sharedListing =
        listedFavorites (userRun data goodEnvs ⟨[(utf8 "station", utf8 "T", utf8 "Metro")], []⟩ served).favorites := by
  obtain ⟨w, hw, hgot, -⟩ := sharing_read
  obtain ⟨hresponse, -, -, hlisted, -⟩ := clients_sharedState (crowdedFiles 0) restarted sharingConsoles sharingTurns
    keeps_restarted good_goodEnvs rfl hw (by decide +kernel : _ = some (requestLine pktFavoriteListReq [])) hgot
  exact ⟨hresponse, (hlisted (congrArg Prod.fst splitRequest_favoriteList)).2⟩

/-! ## Deleting what is shown -/

/-- A list changes nothing. -/
theorem userStep_favoriteList (data : AppData D) (env : Env) (s : UserState) :
    userStep data env s (requestLine pktFavoriteListReq []) = s := by
  have hop : favoriteOp (requestLine pktFavoriteListReq []) = none := by
    unfold favoriteOp
    rw [splitRequest_favoriteList]
    rfl
  have hrecord : searchRecord data env (requestLine pktFavoriteListReq []) = none := by
    unfold searchRecord
    rw [splitRequest_favoriteList]
    rfl
  unfold userStep
  rw [hop, hrecord]

/-- What the delete menu sends for number `k + 1`. -/
theorem favoriteOp_favoriteDelete {k : Nat} (hsize : k + 1 < 2 ^ 31) {request : List Byte}
    (h : request ∈ favoriteDelete ((k : Int) + 1)) : favoriteOp request = some (.delete (fmtNat (k + 1))) := by
  have hpacket : PacketName pktFavoriteDeleteReq :=
    ⟨by decide, by decide, by decide, 70, pktFavoriteDeleteReq.tail, by decide, by decide⟩
  have hrequest : request = requestLine pktFavoriteDeleteReq (fmtNat (k + 1)) := by
    unfold favoriteDelete at h
    rw [if_neg (by omega)] at h
    exact List.mem_singleton.mp h
  have hdigits := isdigit_fmtNat (k + 1)
  have hnumber : ConsoleInput 256 (fmtNat (k + 1)) := by
    have hlen := @length_fmtNat (k + 1) 10 (by omega) (by omega)
    refine ⟨plain_fmtInt ((k + 1 : Nat) : Int), fun hm => ?_, fun b hb => ?_, by omega⟩
    · exact absurd (hdigits 0 hm) (by decide)
    · exact (digit_spec (hdigits b (List.mem_of_getLast? hb))).1
  have hlen := hnumber.fits
  unfold favoriteOp
  rw [hrequest, splitRequest_requestLine hpacket hnumber.noNul hnumber.stripNewline_eq (by omega)]
  rfl

omit [CDouble D] in
theorem favoriteStep_number (data : AppData D) (favorites : List Row) {k : Nat} (hk : k < favorites.length)
    (hsize : k + 1 < 2 ^ 31) :
    favoriteStep data favorites (.delete (fmtNat (k + 1))) = favorites.eraseIdx k := by
  unfold favoriteStep
  dsimp only
  rw [strToInt_fmtNat hsize]
  dsimp only
  rw [if_pos (by omega)]
  rfl

/-- The requests before the next one of the client. -/
theorem servedBefore_succ (hconsole : consoles[i]? = some console)
    (hrequest : (clientRequests console)[j]? = some request) :
    servedBefore consoles i (j + 1) = servedBefore consoles i j ++ [request] := by
  unfold servedBefore
  rw [hconsole, Option.getD_some, List.take_add_one, hrequest, List.append_assoc]
  rfl

omit [CDouble D] in
theorem favoriteReply_number (data : AppData D) (saved : Bool) {favorites : List Row} {k : Nat} {entry : Row}
    (hrow : favorites[k]? = some entry) (hsize : k + 1 < 2 ^ 31) :
    favoriteReply data saved favorites (.delete (fmtNat (k + 1))) = message maxPacketSize pktFavoriteDeleteRes .ok
      (utf8 "즐겨찾기를 서버에서 삭제했습니다: " ++ favoriteTypeLabel entry.1 ++ utf8 " | " ++ entry.2.1 ++ utf8 " | " ++
        entry.2.2) := by
  obtain ⟨type, id, name⟩ := entry
  unfold favoriteReply
  dsimp only
  rw [strToInt_fmtNat hsize]
  dsimp only
  rw [if_neg (by omega), show ((k + 1 : Nat) : Int).toNat - 1 = k by omega, hrow]

theorem userRun_favoriteList (data : AppData D) (envs : Nat → Env) (s : UserState) (served : List (List Byte)) :
    userRun data envs s (served ++ [requestLine pktFavoriteListReq []]) = userRun data envs s served := by
  rw [userRun_append, userRun, userRun, userStep_favoriteList]

/-- A deletion after these requests. -/
theorem userRun_favoriteDelete (data : AppData D) (envs : Nat → Env) (s : UserState) (served : List (List Byte))
    {k : Nat} {deletion : List Byte} (hop : favoriteOp deletion = some (.delete (fmtNat (k + 1))))
    (hk : k < (userRun data envs s served).favorites.length) (hsize : k + 1 < 2 ^ 31) :
    userRun data envs s (served ++ [deletion]) =
      { userRun data envs s served with favorites := (userRun data envs s served).favorites.eraseIdx k } := by
  rw [userRun_append, userRun, userRun]
  unfold userStep
  rw [hop]
  dsimp only
  rw [favoriteStep_number data _ hk hsize]

/-- No favourite is kept twice. -/
theorem Keeps.not_mem_eraseIdx {fs : UserFiles} {s : UserState} (h : Keeps fs s) {k : Nat} {entry : Row}
    (hrow : s.favorites[k]? = some entry) : entry ∉ s.favorites.eraseIdx k := by
  have hnodup : s.favorites.Nodup := h.favorites.nodup.of_map _
  intro hm
  obtain ⟨m, hm, hne, heq⟩ := List.mem_eraseIdx_iff_getElem.mp hm
  exact hne ((List.Nodup.getElem_inj_iff hnodup).mp (heq.trans (List.getElem?_eq_some_iff.mp hrow).2.symm))

variable (files session consoles turns) in
/-- From files that keep a list of favourites and of searches, all file
operations succeeding, any clients and everything that is typed at them, in
whatever order they and the server go on: when a client is shown its favourites
and then asks to delete number `k + 1`, the entry that it was shown under this
number was the one of this number in the file when the list was made, and when
the deletion is served, the file loses this entry and no other, whatever the
other clients ask for in the meantime; the others that were shown are shown
again. The answer to the deletion names the entry, and when the client has read
it, the server has these files. -/
theorem clients_deleteShown (hstart : Keeps session.files s₀) (henvs : ∀ k, (session.envs k).Good)
    (hconsole : consoles[i]? = some console)
    (hw : (hallAfter (D := D) files session consoles turns).worlds[i]? = some w)
    (hlist : (clientRequests console)[j]? = some request) (hrequest : request ∈ favoriteList)
    (hgot : w.got[j]? = some response) {k : Nat} {entry : Row} (hentry : (shownEntries response)[k]? = some entry)
    {deletion : List Byte} (hnext : (clientRequests console)[j + 1]? = some deletion)
    (hdeletion : deletion ∈ favoriteDelete ((k : Int) + 1)) :
    let data := (dataLoaderLoad files : AppData D × Bool).1
    let before := servedSession data session (servedBefore consoles i j)
    let after := servedSession data session (servedBefore consoles i (j + 2))
    let s := userRun data session.envs s₀ (servedBefore consoles i j)
    Keeps before.files s ∧ s.favorites[k]? = some entry ∧
      Keeps after.files { s with favorites := s.favorites.eraseIdx k } ∧ entry ∉ s.favorites.eraseIdx k ∧
      (shownEntries response).eraseIdx k <+: shownEntries (favoriteListing after.files) ∧
      (∀ answer, w.got[j + 1]? = some answer → answer = (message maxPacketSize pktFavoriteDeleteRes .ok
        (utf8 "즐겨찾기를 서버에서 삭제했습니다: " ++ favoriteTypeLabel entry.1 ++ utf8 " | " ++ entry.2.1 ++
          utf8 " | " ++ entry.2.2)).response) ∧
      (w.got.length = j + 2 → w.reading = none → w.server.session = after) := by
  intro data before after s
  have hkeeps : Keeps before.files s := hstart.served data henvs (servedBefore_short consoles i j)
  have hsize : maxPacketSize = 32768 := rfl
  obtain rfl : request = requestLine pktFavoriteListReq [] := List.mem_singleton.mp hrequest
  have hshown : shownEntries response = listedFavorites s.favorites :=
    (congrArg shownEntries (hallAfter_routed hconsole hw hlist hgot)).trans
      (shownEntries_routed hkeeps (henvs _).io (congrArg Prod.fst splitRequest_favoriteList))
  have hlt := length_shownEntries_lt response
  have hk := (List.getElem?_eq_some_iff.mp hentry).1
  rw [hshown] at hentry hk hlt ⊢
  have hrow : s.favorites[k]? = some entry := getElem?_of_prefix (prefix_listedRows _ _ _ _) hentry
  have hlen := (List.getElem?_eq_some_iff.mp hrow).1
  have hop := favoriteOp_favoriteDelete (show k + 1 < 2 ^ 31 by omega) hdeletion
  -- the list leaves everything as it is, and the deletion comes right after it
  have hsame : userRun data session.envs s₀ (servedBefore consoles i (j + 1)) = s := by
    rw [servedBefore_succ hconsole hlist]
    exact userRun_favoriteList data session.envs s₀ _
  have hafter : Keeps after.files { s with favorites := s.favorites.eraseIdx k } := by
    have hstep := userRun_favoriteDelete data session.envs s₀ (servedBefore consoles i (j + 1)) hop
      (by rw [hsame]; exact hlen) (by omega)
    rw [← servedBefore_succ hconsole hnext, hsame] at hstep
    rw [← hstep]
    exact hstart.served data henvs (servedBefore_short consoles i (j + 2))
  refine ⟨hkeeps, hrow, hafter, hkeeps.not_mem_eraseIdx hrow, ?_, fun answer hanswer => ?_, fun hread hn => ?_⟩
  · rw [shownEntries_of_stores hafter.favorites]
    exact eraseIdx_listedRows _ _ _ _ hk
  · have hmid : Keeps (servedSession data session (servedBefore consoles i (j + 1))).files s := by
      rw [← hsame]
      exact hstart.served data henvs (servedBefore_short consoles i (j + 1))
    rw [hallAfter_routed hconsole hw hnext hanswer, routeRequest_reply hmid.favorites hop (henvs _).io,
      favoriteReply_number data _ hrow (by omega)]
  · have hne : w.got ≠ [] := fun hnil => by
      rw [hnil] at hread
      cases hread
    rw [hallAfter_session hconsole hw hne hn, hread]

/-- The second client reads that the favourite of the first is deleted, and the server keeps the other one. -/
theorem clients_deleteShown_sharing :
    ∃ w : World Byte Handler Event,
      (hallAfter (D := ℚ) (crowdedFiles 0) restarted sharingConsoles sharingTurns).worlds[1]? = some w ∧
        Keeps w.server.session.files ⟨[(utf8 "station", utf8 "T", utf8 "Metro")], []⟩ := by
  obtain ⟨w, hw, hgot, hlen, hn⟩ := sharing_read
  refine ⟨w, hw, ?_⟩
  obtain ⟨-, -, hkeeps, -, -, -, hserver⟩ := clients_deleteShown (crowdedFiles 0) restarted sharingConsoles sharingTurns
    keeps_restarted good_goodEnvs rfl hw (by decide +kernel : _ = some (requestLine pktFavoriteListReq []))
    (List.mem_singleton_self _) hgot
    (by decide +kernel : (shownEntries sharedListing)[1]? = some (utf8 "stop", utf8 "S", utf8 "S"))
    (by decide +kernel : _ = some (requestLine pktFavoriteDeleteReq (utf8 "2"))) (by decide +kernel)
  have hs : userRun (dataLoaderLoad (crowdedFiles 0) : AppData ℚ × Bool).1 restarted.envs
      ⟨[(utf8 "station", utf8 "T", utf8 "Metro")], []⟩ (servedBefore sharingConsoles 1 1) =
        ⟨[(utf8 "station", utf8 "T", utf8 "Metro"), (utf8 "stop", utf8 "S", utf8 "S")], []⟩ := by decide +kernel
  rw [hserver hlen hn]
  rw [hs] at hkeeps
  exact hkeeps

end Shared

end Transit
