import Transit.Client.Menu
import Transit.Proof.Buffers
import Transit.Proof.FileLines
import Transit.Proof.Trimming

/-!
# What the menus send

Whatever is typed, every request the client builds is one line that fits the
server's buffer (`clientRequests_isLine`), and the menu loop ends with the
console input (`menuLoop_eq`).
-/

namespace Transit

open Framework

/-- A request on the wire. -/
abbrev Request (r : List Byte) : Prop := IsLine isNewline (maxPacketSize - 1) r

/-- What a menu gives back: requests, and no more input than there was. -/
structure Sends (console : List Byte) (result : List Str × List Byte) : Prop where
  requests : ∀ r ∈ result.1, Request r
  rest : result.2.length ≤ console.length

theorem Sends.silent {console rest : List Byte} (h : rest.length ≤ console.length) : Sends console ([], rest) :=
  ⟨fun _ hr => (by cases hr), h⟩

theorem Sends.one {console rest : List Byte} {r : Str} (hr : Request r) (h : rest.length ≤ console.length) :
    Sends console ([r], rest) :=
  ⟨fun _ hmem => List.mem_singleton.mp hmem ▸ hr, h⟩

theorem readLinePrompt_spec {size : Nat} (hs : 1 < size) {console rest : List Byte} {s : Str}
    (h : readLinePrompt size console = some (s, rest)) :
    Plain s ∧ s.length ≤ size - 1 ∧ rest.length < console.length := by
  unfold readLinePrompt fgets at h
  by_cases hnil : console = []
  · rw [if_pos hnil] at h; cases h
  · rw [if_neg hnil] at h
    cases h
    have hcut : (cstr (readLine isNewline (size - 1) console).1).length ≤ size - 1 :=
      Nat.le_trans (List.takeWhile_prefix _).length_le (length_readLine_le ..)
    refine ⟨(plain_stripNewline (cstr_interior (readLine_interior _ _))).strTrim, ?_,
      length_readLine_snd_lt (show 0 < size - 1 by omega) hnil⟩
    exact Nat.le_trans (length_strTrim_le _) (Nat.le_trans (length_stripNewline_le _) hcut)

theorem request_requestLine {packet body : Str} (hp : Plain packet) (hb : Plain body)
    (hlen : packet.length + body.length ≤ maxPacketSize - 3) : Request (requestLine packet body) := by
  have hsize : maxPacketSize = 32768 := rfl
  have hfits : (packet ++ [fieldSep] ++ body ++ [packetTerm]).length ≤ maxPacketSize - 1 := by
    simp only [List.length_append, List.length_singleton]
    omega
  rw [requestLine, snprintf_of_le hfits]
  have hplain : Plain (packet ++ [fieldSep] ++ body) :=
    plain_append.mpr ⟨plain_append.mpr ⟨hp, by decide⟩, hb⟩
  exact ⟨⟨_, packetTerm, rfl, rfl, not_isNewline_of_plain hplain⟩, hfits⟩

/-! ## The menus -/

theorem sends_runSingleKeywordMenu {requestType : Str} (ht : Plain requestType) (hlen : requestType.length ≤ 64)
    (console : List Byte) : Sends console (runSingleKeywordMenu requestType 256 console) := by
  have hsize : maxPacketSize = 32768 := rfl
  unfold runSingleKeywordMenu readNonemptyInput
  cases h : readLinePrompt 256 console with
  | none => exact .silent (Nat.le_refl _)
  | some p =>
    obtain ⟨hp, hn, hrest⟩ := readLinePrompt_spec (by decide) h
    dsimp only
    split
    · rename_i rest heq
      rw [Prod.mk.injEq] at heq
      exact .silent (by rw [← heq.2]; exact Nat.le_of_lt hrest)
    · rename_i keyword rest heq
      rw [Prod.mk.injEq] at heq
      have hkeyword : keyword = p.1 := by
        have := heq.1
        split at this
        · cases this
        · exact (Option.some.inj this).symm
      refine .one ?_ (by rw [← heq.2]; exact Nat.le_of_lt hrest)
      rw [hkeyword]
      exact request_requestLine ht hp (by omega)

/-- Two fields of one request, as `run_route_search_menu` and `run_facility_menu` join them. -/
theorem request_pair {packet a b : Str} (hp : Plain packet) (hlen : packet.length ≤ 64) (ha : Plain a)
    (hla : a.length ≤ 255) (hb : Plain b) (hlb : b.length ≤ 255) :
    Request (requestLine packet (a ++ [itemSep] ++ b)) := by
  have hsize : maxPacketSize = 32768 := rfl
  refine request_requestLine hp (plain_append.mpr ⟨plain_append.mpr ⟨ha, by decide⟩, hb⟩) ?_
  simp only [List.length_append, List.length_singleton]
  omega

theorem sends_runRouteSearchMenu (console : List Byte) : Sends console (runRouteSearchMenu 256 console) := by
  unfold runRouteSearchMenu
  cases h : readLinePrompt 256 console with
  | none => exact .silent (Nat.le_refl _)
  | some p =>
    obtain ⟨hp, hn, hrest⟩ := readLinePrompt_spec (by decide) h
    dsimp only
    cases h' : readLinePrompt 256 p.2 with
    | none => exact .silent (Nat.le_of_lt hrest)
    | some q =>
      obtain ⟨hq, hm, hrest'⟩ := readLinePrompt_spec (by decide) h'
      dsimp only
      split
      · exact .silent (by omega)
      · exact .one (request_pair (by decide) (by decide) hp hn hq hm) (by omega)

theorem sends_runFacilityMenu (console : List Byte) : Sends console (runFacilityMenu 256 console) := by
  unfold runFacilityMenu
  cases h : readLinePrompt 256 console with
  | none => exact .silent (Nat.le_refl _)
  | some p =>
    obtain ⟨hp, hn, hrest⟩ := readLinePrompt_spec (by decide) h
    dsimp only
    cases h' : readLinePrompt 256 p.2 with
    | none => exact .silent (Nat.le_of_lt hrest)
    | some q =>
      obtain ⟨hq, hm, hrest'⟩ := readLinePrompt_spec (by decide) h'
      dsimp only
      split
      · exact .silent (by omega)
      · refine .one (request_pair (by decide) (by decide) hp hn ?_ ?_) (by omega) <;> split
        · exact (by decide : Plain (safeStrcpy 256 (utf8 "all")))
        · exact hq
        · exact (by decide : (safeStrcpy 256 (utf8 "all")).length ≤ 255)
        · exact hm

theorem request_favoriteAdd {type id name : Str} (ht : Plain type) (hi : Plain id) (hn : Plain name)
    (hlen : type.length + id.length + name.length ≤ 1024) : ∀ r ∈ favoriteAdd type id name, Request r := by
  have hsize : maxPacketSize = 32768 := rfl
  have hpacket : pktFavoriteAddReq.length = 16 := by decide
  unfold favoriteAdd
  intro r hr
  split at hr
  · cases hr
  · rw [List.mem_singleton.mp hr]
    refine request_requestLine (by decide) (plain_append.mpr ⟨plain_append.mpr ⟨plain_append.mpr
      ⟨plain_append.mpr ⟨ht, by decide⟩, hi⟩, by decide⟩, hn⟩) ?_
    simp only [List.length_append, List.length_singleton]
    omega

theorem sends_runFavoriteAddMenu (console : List Byte) : Sends console (runFavoriteAddMenu console) := by
  unfold runFavoriteAddMenu
  cases h : readLinePrompt 64 console with
  | none => exact .silent (Nat.le_refl _)
  | some p =>
    obtain ⟨hp, hn, hrest⟩ := readLinePrompt_spec (by decide) h
    dsimp only
    cases h' : readLinePrompt 128 p.2 with
    | none => exact .silent (Nat.le_of_lt hrest)
    | some q =>
      obtain ⟨hq, hm, hrest'⟩ := readLinePrompt_spec (by decide) h'
      dsimp only
      cases h'' : readLinePrompt 128 q.2 with
      | none => exact .silent (by omega)
      | some s =>
        obtain ⟨hs, hk, hrest''⟩ := readLinePrompt_spec (by decide) h''
        exact ⟨request_favoriteAdd hp hq hs (by omega), by dsimp only; omega⟩

theorem request_list {packet : Str} (hp : Plain packet) (hlen : packet.length ≤ 64) :
    ∀ r ∈ [requestLine packet []], Request r := by
  have hsize : maxPacketSize = 32768 := rfl
  intro r hr
  rw [List.mem_singleton.mp hr]
  exact request_requestLine hp plain_nil (by rw [List.length_nil]; omega)

theorem isInt32_strToInt {s : Str} {n : Int} (h : strToInt s = some n) : IsInt32 n := by
  unfold strToInt at h
  split at h
  · cases h
  · dsimp only at h
    split at h <;> cases h
    exact isInt32_toInt32 _

theorem request_favoriteDelete {index : Int} (hi : IsInt32 index) : ∀ r ∈ favoriteDelete index, Request r := by
  have hsize : maxPacketSize = 32768 := rfl
  have hpacket : pktFavoriteDeleteReq.length = 19 := by decide
  unfold favoriteDelete
  intro r hr
  split at hr
  · cases hr
  · rw [List.mem_singleton.mp hr]
    have hlen := length_fmtInt hi
    exact request_requestLine (by decide) (plain_fmtInt _) (by omega)

theorem sends_runFavoriteDeleteMenu (console : List Byte) :
    Sends console (runFavoriteDeleteMenu 256 console) := by
  have hlist : ∀ r ∈ [requestLine pktFavoriteListReq []], Request r := request_list (by decide) (by decide)
  unfold runFavoriteDeleteMenu
  cases h : readLinePrompt 256 console with
  | none => exact ⟨hlist, Nat.le_refl _⟩
  | some p =>
    obtain ⟨-, -, hrest⟩ := readLinePrompt_spec (by decide) h
    dsimp only
    cases hi : strToInt p.1 with
    | none => exact ⟨hlist, Nat.le_of_lt hrest⟩
    | some index =>
      refine ⟨fun r hr => ?_, Nat.le_of_lt hrest⟩
      rcases List.mem_append.mp hr with hr | hr
      · exact hlist r hr
      · exact request_favoriteDelete (isInt32_strToInt hi) r hr

theorem sends_ite {c : Prop} [Decidable c] {console : List Byte} {a b : List Str × List Byte}
    (ha : Sends console a) (hb : Sends console b) : Sends console (if c then a else b) := by
  by_cases hc : c
  · rw [if_pos hc]; exact ha
  · rw [if_neg hc]; exact hb

theorem sends_menuChoice (choice : Str) (console : List Byte) : Sends console (menuChoice choice console) := by
  unfold menuChoice
  refine sends_ite (sends_runSingleKeywordMenu (by decide) (by decide) console) ?_
  refine sends_ite (sends_runSingleKeywordMenu (by decide) (by decide) console) ?_
  refine sends_ite (sends_runSingleKeywordMenu (by decide) (by decide) console) ?_
  refine sends_ite (sends_runRouteSearchMenu console) ?_
  refine sends_ite (sends_runFacilityMenu console) ?_
  refine sends_ite ⟨request_list (by decide) (by decide), Nat.le_refl _⟩ ?_
  refine sends_ite (sends_runFavoriteAddMenu console) ?_
  refine sends_ite (sends_runFavoriteDeleteMenu console) ?_
  exact sends_ite ⟨request_list (by decide) (by decide), Nat.le_refl _⟩ (.silent (Nat.le_refl _))

/-! ## The loop -/

/-- More rounds than there are bytes to read change nothing. -/
theorem menuLoopAux_eq {fuel : Nat} {console : List Byte} (h : console.length ≤ fuel) :
    menuLoopAux fuel console = menuLoop console := by
  have key : ∀ n (m : Nat) (console : List Byte), console.length ≤ n → console.length ≤ m →
      menuLoopAux n console = menuLoopAux m console := by
    intro n
    induction n with
    | zero =>
      intro m console hn hm
      rw [List.length_eq_zero_iff.mp (Nat.le_zero.mp hn)]
      cases m <;> rfl
    | succ n ih =>
      intro m console hn hm
      cases m with
      | zero => rw [List.length_eq_zero_iff.mp (Nat.le_zero.mp hm)]; rfl
      | succ m =>
        unfold menuLoopAux
        cases hr : readLinePrompt 16 console with
        | none => rfl
        | some p =>
          obtain ⟨-, -, hrest⟩ := readLinePrompt_spec (by decide) hr
          have hlen := (sends_menuChoice p.1 p.2).rest
          dsimp only
          rw [ih m (menuChoice p.1 p.2).2 (by omega) (by omega)]
  exact key fuel console.length console h (Nat.le_refl _)

/-- One round of the loop of `menu_loop`. -/
theorem menuLoop_eq (console : List Byte) : menuLoop console =
    match readLinePrompt 16 console with
    | none => []
    | some (choice, console) =>
      if choice = utf8 "0" then []
      else (menuChoice choice console).1 ++ menuLoop (menuChoice choice console).2 := by
  rw [← menuLoopAux_eq (Nat.le_succ console.length), menuLoopAux]
  cases hr : readLinePrompt 16 console with
  | none => rfl
  | some p =>
    obtain ⟨-, -, hrest⟩ := readLinePrompt_spec (by decide) hr
    have hlen := (sends_menuChoice p.1 p.2).rest
    dsimp only
    rw [menuLoopAux_eq (show (menuChoice p.1 p.2).2.length ≤ console.length by omega)]

theorem request_menuLoopAux (fuel : Nat) (console : List Byte) : ∀ r ∈ menuLoopAux fuel console, Request r := by
  induction fuel generalizing console with
  | zero => intro r hr; cases hr
  | succ fuel ih =>
    intro r hr
    unfold menuLoopAux at hr
    split at hr
    · cases hr
    · rename_i choice rest _
      split at hr
      · cases hr
      · rcases List.mem_append.mp hr with hr | hr
        · exact (sends_menuChoice choice rest).requests r hr
        · exact ih _ r hr

/-- Every request of a run of the client is one line that the server takes whole. -/
theorem clientRequests_isLine (console : List Byte) : ∀ r ∈ clientRequests console, Request r := by
  intro r hr
  rcases List.mem_cons.mp hr with rfl | hr
  · have hplain : Plain (utf8 "HELLO|console_client") := by decide
    exact ⟨⟨utf8 "HELLO|console_client", packetTerm, by decide, rfl, not_isNewline_of_plain hplain⟩, by decide⟩
  · exact request_menuLoopAux _ _ r hr

end Transit
