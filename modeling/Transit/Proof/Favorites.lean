import Transit.Proof.DeleteNumbers
import Transit.Proof.Framing
import Transit.Proof.Records
import Transit.Proof.Trimming

/-!
# Favourites as a state machine

`favoriteStep` is what an addition or a deletion does to the list of
favourites; `favorites_run` shows that the file is the text of that list after
every sequence of requests, and that the client is shown the list, or the part
of it for which the response has room.
-/

namespace Transit

open Framework

variable {D : Type}

inductive FavoriteOp where
  | add (payload : Str)
  | delete (payload : Str)

/-- What a request does to the favourites (type, id and name of each). -/
def favoriteStep (data : AppData D) (favorites : List Row) : FavoriteOp → List Row
  | .add payload =>
    match favoriteAddFields payload with
    | none => favorites
    | some row =>
      if !favoriteTargetExists data row.1 row.2.1 row.2.2 then favorites
      else if favorites.any fun f => f.1 == row.1 && f.2.1 == row.2.1 then favorites
      else favorites ++ [row]
  | .delete payload =>
    match strToInt payload with
    | none => favorites
    | some k => if 1 ≤ k ∧ k ≤ favorites.length then favorites.eraseIdx (k.toNat - 1) else favorites

/-- The handlers, all their file operations succeeding. -/
def favoriteRequest (data : AppData D) (fs : UserFiles) : FavoriteOp → UserFiles
  | .add payload => (handleFavoriteAdd .allOk data fs payload maxPacketSize).2
  | .delete payload => (handleFavoriteDelete .allOk fs payload maxPacketSize).2

/-- The response that lists all of them. -/
def wholeListing (favorites : List Row) : Str :=
  header pktFavoriteListRes .ok ++ itemsText 0 favorites ++ [packetTerm]

/-- What is kept between two requests. -/
structure Stores (fs : UserFiles) (favorites : List Row) : Prop where
  file : contents fs.favorites = rowsText favorites
  fields : ∀ row ∈ favorites, FavoriteFields row.1 row.2.1 row.2.2
  nodup : (favorites.map fun row => (row.1, row.2.1)).Nodup

/-! ## One line of the file -/

/-- The types of favourites hold no separator either. -/
theorem type_spec {type : Str} (h : type ∈ [utf8 "stop", utf8 "bus", utf8 "station"]) :
    containsPacketFieldDelim type = false ∧ strIsBlank type = false ∧ type.length ≤ 7 := by
  have hall : ∀ type ∈ [utf8 "stop", utf8 "bus", utf8 "station"],
      containsPacketFieldDelim type = false ∧ strIsBlank type = false ∧ type.length ≤ 7 := by decide
  exact hall type h

variable {row : Row}

theorem fileRow_of_fields (h : FavoriteFields row.1 row.2.1 row.2.2) : FileRow row := by
  obtain ⟨htype, htypeBlank, htypeLen⟩ := type_spec h.type
  refine ⟨fileText_of_delim htype htypeBlank, fileText_of_delim h.id_delim h.id_blank,
    fileText_of_delim h.name_delim h.name_blank, (not_mem_of_containsPacketFieldDelim htype).1,
    (not_mem_of_containsPacketFieldDelim h.id_delim).1, stripNewline_of_delim h.name_delim, ?_⟩
  have hid := h.id_length
  have hname := h.name_length
  rw [length_rowLine]
  omega

theorem favoriteRow_rowLine (h : FavoriteFields row.1 row.2.1 row.2.2) : favoriteRow (rowLine row) = some row := by
  have hrow := fileRow_of_fields h
  unfold favoriteRow
  rw [hrow.rowText.stripNewline_rowLine, hrow.rowText.splitRecord_rowBody]
  dsimp only
  rw [hrow.type.notBlank, hrow.id.notBlank, hrow.name.notBlank]
  rfl

theorem sameFavorite_rowLine (h : FileRow row) (type id : Str) :
    sameFavorite type id (rowLine row) = (row.1 == type && row.2.1 == id) := by
  unfold sameFavorite
  rw [h.rowText.stripNewline_rowLine, h.rowText.splitRecord_rowBody]

/-- Its item is shown as it is. -/
theorem clean_row (h : FavoriteFields row.1 row.2.1 row.2.2) : Clean row := by
  obtain ⟨-, ht, htl, -⟩ := not_mem_of_containsPacketFieldDelim (type_spec h.type).1
  obtain ⟨-, hi, hil, -⟩ := not_mem_of_containsPacketFieldDelim h.id_delim
  obtain ⟨-, -, hnl, -⟩ := not_mem_of_containsPacketFieldDelim h.name_delim
  refine ⟨ht, hi, ?_, ?_⟩
  · simp only [listItem, List.mem_append, List.mem_singleton, not_or]
    exact ⟨⟨⟨⟨htl, by decide⟩, hil⟩, by decide⟩, hnl⟩
  · have h1 := (type_spec h.type).2.2
    have h2 := h.id_length
    have h3 := h.name_length
    rw [length_listItem]
    omega

/-! ## The file -/

variable {favorites : List Row}

theorem Stores.rows {fs : UserFiles} (h : Stores fs favorites) : ∀ row ∈ favorites, FileRow row :=
  fun row hrow => fileRow_of_fields (h.fields row hrow)

theorem favoriteRows_rowsText (h : ∀ row ∈ favorites, FavoriteFields row.1 row.2.1 row.2.2) :
    favoriteRows (rowsText favorites) = favorites := by
  unfold favoriteRows
  rw [fgetsAll_rowsText fun row hrow => fileRow_of_fields (h row hrow), List.filterMap_map]
  refine (List.filterMap_congr fun row hrow => ?_).trans List.filterMap_some
  exact favoriteRow_rowLine (h row hrow)

theorem favoriteExists_eq {fs : UserFiles} (h : Stores fs favorites) (type id : Str) :
    favoriteExists .allOk fs type id = favorites.any fun f => f.1 == type && f.2.1 == id := by
  have hany : (fgetsAll 1024 (contents fs.favorites)).any (sameFavorite type id) =
      favorites.any fun f => f.1 == type && f.2.1 == id := by
    rw [h.file, fgetsAll_rowsText h.rows, List.any_map, Bool.eq_iff_iff, List.any_eq_true, List.any_eq_true]
    exact exists_congr fun row => and_congr_right fun hrow => by
      rw [Function.comp_apply, sameFavorite_rowLine (h.rows row hrow)]
  rw [← hany]
  unfold favoriteExists Io.read
  cases fs.favorites <;> rfl

/-! ## One request -/

theorem Stores.add {fs : UserFiles} (h : Stores fs favorites) (data : AppData D) (payload : Str) :
    Stores (favoriteRequest data fs (.add payload)) (favoriteStep data favorites (.add payload)) ∧
      (favoriteStep data favorites (.add payload) = favorites →
        (favoriteRequest data fs (.add payload)).favorites = fs.favorites) := by
  unfold favoriteRequest favoriteStep handleFavoriteAdd
  dsimp only
  cases hfields : favoriteAddFields payload with
  | none => exact ⟨h, fun _ => rfl⟩
  | some row =>
    obtain ⟨type, id, name⟩ := row
    dsimp only
    by_cases htarget : (!favoriteTargetExists data type id name) = true
    · rw [if_pos htarget, if_pos htarget]
      exact ⟨h, fun _ => rfl⟩
    · rw [if_neg htarget, if_neg htarget, favoriteExists_eq h]
      by_cases hexists : (favorites.any fun f => f.1 == type && f.2.1 == id) = true
      · rw [if_pos hexists, if_pos hexists]
        exact ⟨h, fun _ => rfl⟩
      · rw [if_neg hexists, if_neg hexists, if_neg (by decide)]
        refine ⟨⟨?_, ?_, ?_⟩, fun hsame => ?_⟩
        · show contents fs.favorites ++ favoriteLine type id name = _
          rw [h.file, rowsText_append]
          exact congrArg _ (List.append_nil _).symm
        · intro row hrow
          rcases List.mem_append.mp hrow with hrow | hrow
          · exact h.fields row hrow
          · rw [List.mem_singleton.mp hrow]
            exact favoriteAddFields_spec hfields
        · rw [List.map_append, List.map_singleton, ← List.concat_eq_append]
          refine h.nodup.concat fun hm => hexists ?_
          obtain ⟨row, hrow, heq⟩ := List.mem_map.mp hm
          rw [Prod.mk.injEq] at heq
          exact List.any_eq_true.mpr ⟨row, hrow, by simp [heq.1, heq.2]⟩
        · exact absurd hsame (by simp)

theorem Stores.delete {fs : UserFiles} (h : Stores fs favorites) (data : AppData D) (payload : Str) :
    Stores (favoriteRequest data fs (.delete payload)) (favoriteStep data favorites (.delete payload)) ∧
      (favoriteStep data favorites (.delete payload) = favorites →
        (favoriteRequest data fs (.delete payload)).favorites = fs.favorites) := by
  have hlines : storedLines (contents fs.favorites) = favorites.map rowLine := by
    rw [h.file, storedLines_rowsText h.rows]
  have htarget : deleteTarget fs payload = match strToInt payload with
      | none => none
      | some k => if 1 ≤ k ∧ k ≤ favorites.length then some (k.toNat - 1) else none := by
    unfold deleteTarget
    rw [hlines, List.length_map]
    rfl
  unfold favoriteRequest favoriteStep
  dsimp only
  cases hk : strToInt payload with
  | none =>
    rw [hk] at htarget
    have hkept := @handleFavoriteDelete_kept .allOk fs payload maxPacketSize (.inl htarget)
    exact ⟨⟨by rw [hkept]; exact h.file, h.fields, h.nodup⟩, fun _ => hkept⟩
  | some k =>
    rw [hk] at htarget
    dsimp only at htarget ⊢
    by_cases hrange : 1 ≤ k ∧ k ≤ favorites.length
    · rw [if_pos hrange] at htarget ⊢
      obtain ⟨hnew, -⟩ := @handleFavoriteDelete_replaced .allOk fs payload _ maxPacketSize htarget rfl rfl rfl rfl
      refine ⟨⟨?_, fun row hrow => h.fields row (List.mem_of_mem_eraseIdx hrow), ?_⟩, fun hsame => ?_⟩
      · rw [hnew, hlines]
        show (((favorites.map rowLine).eraseIdx (k.toNat - 1)).map withNewline).flatten = _
        unfold rowsText
        rw [List.eraseIdx_map, List.map_map]
        congr 1
        exact List.map_congr_left fun row _ => withNewline_rowLine row
      · exact h.nodup.sublist ((List.eraseIdx_sublist _ _).map _)
      · have hlen := congrArg List.length hsame
        rw [List.length_eraseIdx_of_lt (by omega)] at hlen
        omega
    · rw [if_neg hrange] at htarget ⊢
      have hkept := @handleFavoriteDelete_kept .allOk fs payload maxPacketSize (.inl htarget)
      exact ⟨⟨by rw [hkept]; exact h.file, h.fields, h.nodup⟩, fun _ => hkept⟩

theorem Stores.request {fs : UserFiles} (h : Stores fs favorites) (data : AppData D) (op : FavoriteOp) :
    Stores (favoriteRequest data fs op) (favoriteStep data favorites op) ∧
      (favoriteStep data favorites op = favorites → (favoriteRequest data fs op).favorites = fs.favorites) := by
  cases op with
  | add payload => exact h.add data payload
  | delete payload => exact h.delete data payload

theorem Stores.run {fs : UserFiles} (h : Stores fs favorites) (data : AppData D) (ops : List FavoriteOp) :
    Stores (ops.foldl (favoriteRequest data) fs) (ops.foldl (favoriteStep data) favorites) := by
  induction ops generalizing fs favorites with
  | nil => exact h
  | cons op ops ih => exact ih (h.request data op).1

/-! ## The list response -/

/-- The rows of which the response has the items. -/
def listedFavorites (favorites : List Row) : List Row :=
  listedRows maxPacketSize (header pktFavoriteListRes .ok).length 0 favorites

theorem shownEntries_of_stores {fs : UserFiles} (h : Stores fs favorites) :
    shownEntries (favoriteListing fs) = listedFavorites favorites := by
  have hreply : favoriteListing fs =
      (strAppend (appendListItems maxPacketSize favorites (snprintf maxPacketSize (header pktFavoriteListRes .ok)) 0)
        maxPacketSize [packetTerm]).1 := by
    have hfile := h.file
    unfold favoriteListing handleFavoriteList Io.read
    rw [if_pos (show Io.allOk.openRead = true from rfl)]
    cases hf : fs.favorites with
    | none =>
      rw [hf] at hfile
      rw [rowsText_eq_nil.mp (show rowsText favorites = [] from hfile.symm)]
      rfl
    | some file =>
      rw [hf] at hfile
      rw [← favoriteRows_rowsText h.fields, ← show file = rowsText favorites from hfile]
      rfl
  rw [hreply]
  exact shownEntries_listReply (by decide) h.rows fun row hrow => clean_row (h.fields row hrow)

/-- All favourites are listed as soon as the whole response leaves two bytes more. -/
theorem listedFavorites_eq (h : ∀ row ∈ favorites, FavoriteFields row.1 row.2.1 row.2.2)
    (hlen : (wholeListing favorites).length ≤ maxPacketSize - 3) : listedFavorites favorites = favorites := by
  have hsize : maxPacketSize = 32768 := rfl
  have hheader : (header pktFavoriteListRes .ok).length = 20 := by decide
  unfold wholeListing at hlen
  rw [List.length_append, List.length_append, List.length_singleton] at hlen
  refine listedRows_eq_of_first (fun row hrow => ?_) (by omega)
  have h1 := (type_spec (h row hrow).type).2.2
  have h2 := (h row hrow).id_length
  have h3 := (h row hrow).name_length
  rw [length_listItem]
  omega

/-- After every sequence of requests, from an absent or empty file: the file
holds exactly the favourites added and not deleted; a request that changes
nothing leaves it as it is; and the client is shown the favourites in order, a
prefix of them, and all where the whole response leaves two bytes more. -/
theorem favorites_run (data : AppData D) (ops : List FavoriteOp) (fs : UserFiles)
    (h : contents fs.favorites = []) :
    let favorites := ops.foldl (favoriteStep data) []
    let after := ops.foldl (favoriteRequest data) fs
    Stores after favorites ∧
      (∀ op, favoriteStep data favorites op = favorites →
        (favoriteRequest data after op).favorites = after.favorites) ∧
      shownEntries (favoriteListing after) <+: favorites ∧
      ((wholeListing favorites).length ≤ maxPacketSize - 3 →
        shownEntries (favoriteListing after) = favorites) := by
  intro favorites after
  have hstart : Stores fs [] := ⟨h, fun row hrow => by (cases hrow), List.nodup_nil⟩
  have hstores : Stores after favorites := hstart.run data ops
  refine ⟨hstores, fun op => (hstores.request data op).2, ?_, fun hlen => ?_⟩
  · rw [shownEntries_of_stores hstores]
    exact prefix_listedRows _ _ _ _
  · rw [shownEntries_of_stores hstores, listedFavorites_eq hstores.fields hlen]

/-- Three targets are added, one of them twice, and the first is deleted. -/
def favoriteOps : List FavoriteOp :=
  [.add (utf8 "stop:S:Home"), .add (utf8 "bus:1:Work"), .add (utf8 "stop:S:Again"), .add (utf8 "station:T:Metro"),
    .delete (utf8 "1")]

theorem favorites_run_deleted : shownEntries (favoriteListing (favoriteOps.foldl
    (favoriteRequest { crowdedData 0 with stations := [crowdedStation] }) ⟨none, none, none, none⟩)) =
      [(utf8 "bus", utf8 "1", utf8 "Work"), (utf8 "station", utf8 "T", utf8 "Metro")] :=
  ((favorites_run { crowdedData 0 with stations := [crowdedStation] } favoriteOps ⟨none, none, none, none⟩
    rfl).2.2.2 (by decide +kernel)).trans (by decide +kernel)

/-! ## A list that would fit -/

/-- Letters only. -/
structure Word (s : Str) : Prop where
  ne_nil : s ≠ []
  letter : ∀ b ∈ s, 65 ≤ b ∧ b ≤ 122

theorem letter_spec {b : Byte} (h : 65 ≤ b ∧ b ≤ 122) :
    isspace b = false ∧ b ≠ (58 : Byte) ∧ b ≠ (239 : Byte) ∧
      (b == 124 || b == 59 || b == 10 || b == 13 || b == 0) = false := by
  simp only [UInt8.le_iff_toNat_le, UInt8.reduceToNat] at h
  refine ⟨?_, ?_, ?_, ?_⟩
  · unfold isspace
    rw [Bool.or_eq_false_iff, beq_eq_false_iff_ne, Bool.and_eq_false_iff]
    simp only [decide_eq_false_iff_not, UInt8.le_iff_toNat_le, UInt8.reduceToNat, ne_eq, ← UInt8.toNat_inj]
    omega
  · simp only [ne_eq, ← UInt8.toNat_inj, UInt8.reduceToNat]; omega
  · simp only [ne_eq, ← UInt8.toNat_inj, UInt8.reduceToNat]; omega
  · simp only [Bool.or_eq_false_iff, beq_eq_false_iff_ne, ne_eq, ← UInt8.toNat_inj, UInt8.reduceToNat]
    omega

namespace Word

variable {s : Str} (h : Word s)
include h

theorem not_mem_itemSep : itemSep ∉ s := fun hm => (letter_spec (h.letter _ hm)).2.1 rfl

theorem not_blank : strIsBlank s = false := by
  obtain ⟨b, s, rfl⟩ := List.exists_cons_of_ne_nil h.ne_nil
  unfold strIsBlank
  rw [List.all_cons, (letter_spec (h.letter b (List.mem_cons_self ..))).1, Bool.false_and]

theorem no_delim : containsPacketFieldDelim s = false := by
  unfold containsPacketFieldDelim strContainsProtocolDelim
  rw [Bool.or_eq_false_iff, List.any_eq_false]
  refine ⟨fun b hb => by rw [(letter_spec (h.letter b hb)).2.2.2]; decide, ?_⟩
  rw [Bool.eq_false_iff]
  exact fun hc => h.not_mem_itemSep (List.contains_iff_mem.mp hc)

theorem trim : strTrim s = s := strTrim_of_solid fun b hb =>
  ⟨(letter_spec (h.letter b hb)).1, (letter_spec (h.letter b hb)).2.2.1⟩

end Word

/-- A request to add a stop. -/
def addStop (name id : Str) : FavoriteOp := .add (utf8 "stop:" ++ id ++ [itemSep] ++ name)

theorem favoriteStep_addStop {data : AppData D} {name id : Str} (hi : Word id) (hn : Word name)
    (hil : id.length ≤ 127) (hnl : name.length ≤ 127)
    (hdata : ∃ stop ∈ data.stops, stop.stopName.val = name) {favorites : List Row}
    (hnew : ∀ row ∈ favorites, row.2.1 ≠ id) :
    favoriteStep data favorites (addStop name id) = favorites ++ [(utf8 "stop", id, name)] := by
  have hfields : favoriteAddFields (utf8 "stop:" ++ id ++ [itemSep] ++ name) = some (utf8 "stop", id, name) := by
    have hpayload : utf8 "stop:" ++ id ++ [itemSep] ++ name = utf8 "stop" ++ itemSep :: (id ++ itemSep :: name) := by
      rw [show utf8 "stop:" = utf8 "stop" ++ [itemSep] by decide]
      simp
    have hcopy : safeStrcpy 2048 (utf8 "stop" ++ itemSep :: (id ++ itemSep :: name)) = _ := snprintf_of_le (by
      have hstop : (utf8 "stop").length = 4 := by decide
      simp only [List.length_append, List.length_cons, hstop]
      omega)
    have hsplit : splitThreeFields (utf8 "stop:" ++ id ++ [itemSep] ++ name) itemSep 64 128 256 =
        some (utf8 "stop", id, name) := by
      unfold splitThreeFields
      rw [hpayload, hcopy, cutAt_append (by decide)]
      dsimp only
      rw [cutAt_append hi.not_mem_itemSep]
      dsimp only
      rw [hi.trim, hn.trim, show safeStrcpy 64 (strTrim (utf8 "stop")) = utf8 "stop" by decide,
        show safeStrcpy 128 id = id from snprintf_of_le (by omega),
        show safeStrcpy 256 name = name from snprintf_of_le (by omega)]
    unfold favoriteAddFields
    rw [hsplit]
    dsimp only
    rw [show normalizeFavoriteType (utf8 "stop") 64 = some (utf8 "stop") by decide]
    dsimp only
    rw [hi.not_blank, hn.not_blank, hi.no_delim, hn.no_delim]
    rfl
  have htarget : favoriteTargetExists data (utf8 "stop") id name = true := by
    obtain ⟨stop, hstop, hname⟩ := hdata
    unfold favoriteTargetExists
    rw [if_neg (by decide), if_pos (by decide), Bool.or_eq_true]
    refine .inr (List.any_eq_true.mpr ⟨stop, hstop, ?_⟩)
    rw [hname]
    simp [textMatchesInput, hn.not_blank]
  have hany : (favorites.any fun f => f.1 == utf8 "stop" && f.2.1 == id) = false := by
    rw [List.any_eq_false]
    intro row hrow
    simp [hnew row hrow]
  unfold favoriteStep addStop
  dsimp only
  rw [hfields]
  dsimp only
  rw [htarget, hany]
  rfl

/-- Adding stops with different ids adds all of them. -/
theorem favoriteStep_addStops {data : AppData D} {name : Str} (hn : Word name) (hnl : name.length ≤ 127)
    (hdata : ∃ stop ∈ data.stops, stop.stopName.val = name) {ids : List Str}
    (hids : ∀ id ∈ ids, Word id ∧ id.length ≤ 127) (hnodup : ids.Nodup) {favorites : List Row}
    (hnew : ∀ row ∈ favorites, row.2.1 ∉ ids) :
    (ids.map (addStop name)).foldl (favoriteStep data) favorites =
      favorites ++ ids.map fun id => (utf8 "stop", id, name) := by
  induction ids generalizing favorites with
  | nil => rw [List.map_nil, List.map_nil, List.append_nil]; rfl
  | cons id ids ih =>
    rw [List.forall_mem_cons] at hids
    rw [List.nodup_cons] at hnodup
    have hone := favoriteStep_addStop hids.1.1 hn hids.1.2 hnl hdata
      fun row hrow he => hnew row hrow (by rw [he]; exact List.mem_cons_self ..)
    rw [List.map_cons, List.foldl_cons, hone, ih hids.2 hnodup.2 fun row hrow hmem => ?_]
    · rw [List.map_cons, List.append_assoc, List.singleton_append]
    · rcases List.mem_append.mp hrow with hrow | hrow
      · exact hnew row hrow (List.mem_cons_of_mem _ hmem)
      · rw [List.mem_singleton.mp hrow] at hmem
        exact hnodup.1 hmem

/-- Ids of this length, told apart by their first two letters. -/
def letterId (length i : Nat) : Str :=
  UInt8.ofNat (97 + i / 16) :: UInt8.ofNat (97 + i % 16) :: List.replicate (length - 2) 97

/-- The stops added: their listing fills the response buffer to the last byte. -/
def fullIds : List Str := (List.range 140).map (letterId 127) ++ [letterId 28 140, letterId 29 141]

/-- `Word`, and short enough for an id. -/
def isShortWord (s : Str) : Bool := !s.isEmpty && s.all (fun b => 65 ≤ b && b ≤ 122) && s.length ≤ 127

theorem word_of_isShortWord {s : Str} (h : isShortWord s = true) : Word s ∧ s.length ≤ 127 := by
  unfold isShortWord at h
  simp only [Bool.and_eq_true, Bool.not_eq_true', List.isEmpty_eq_false_iff, List.all_eq_true, decide_eq_true_eq] at h
  exact ⟨⟨h.1.1, h.1.2⟩, h.2⟩

theorem fullIds_spec : (∀ id ∈ fullIds, Word id ∧ id.length ≤ 127) ∧ fullIds.Nodup ∧
    (fullIds.map fun id => id.length + 105).sum = 32747 := by
  have hall : fullIds.all isShortWord = true ∧ fullIds.Nodup ∧
      (fullIds.map fun id => id.length + 105).sum = 32747 := by decide +kernel
  exact ⟨fun id hid => word_of_isShortWord (List.all_eq_true.mp hall.1 id hid), hall.2⟩

/-- The favourites that these additions leave. -/
def fullFavorites : List Row := fullIds.map fun id => (utf8 "stop", id, List.replicate 98 65)

theorem favoriteStep_fullIds :
    (fullIds.map (addStop (List.replicate 98 65))).foldl (favoriteStep (crowdedData 0)) [] = fullFavorites := by
  obtain ⟨hids, hnodup, -⟩ := fullIds_spec
  have hname : Word (List.replicate 98 65) :=
    ⟨by decide, fun b hb => by rw [List.eq_of_mem_replicate hb]; decide⟩
  exact favoriteStep_addStops hname (by decide) ⟨crowdedStop, List.mem_singleton_self _, by decide +kernel⟩ hids
    hnodup fun row hrow => by cases hrow

/-- With the terminating null character their listing is as long as the buffer. -/
theorem length_wholeListing_fullFavorites : (wholeListing fullFavorites).length = maxPacketSize - 1 := by
  have hitems : (itemsText 1 fullFavorites).length = 32747 := by
    rw [← fullIds_spec.2.2, length_itemsText_succ]
    unfold fullFavorites
    rw [List.map_map]
    refine congrArg List.sum (List.map_congr_left fun id _ => ?_)
    show (listItem (utf8 "stop", id, List.replicate 98 65)).length + 1 = id.length + 105
    rw [length_listItem]
    show (utf8 "stop").length + id.length + (List.replicate 98 _).length + 2 + 1 = id.length + 105
    rw [List.length_replicate, show (utf8 "stop").length = 4 by decide]
    omega
  have hfirst : (itemsText 1 fullFavorites).length = (itemsText 0 fullFavorites).length + 1 := by
    obtain ⟨row, rows, hrows⟩ := List.exists_cons_of_ne_nil (show fullFavorites ≠ [] by decide)
    rw [hrows, length_itemsText_cons, length_itemsText_cons, length_itemsText_succ, length_itemsText_succ,
      if_pos (by omega), if_neg (by omega)]
    omega
  have hheader : (header pktFavoriteListRes .ok).length = 20 := by decide
  have hsize : maxPacketSize = 32768 := rfl
  unfold wholeListing
  rw [List.length_append, List.length_append, List.length_singleton]
  omega

/-- The whole list would fit the response buffer, and its last item is left out. -/
theorem not_favorites_whole :
    (wholeListing ((fullIds.map (addStop (List.replicate 98 65))).foldl (favoriteStep (crowdedData 0)) [])).length <
        maxPacketSize ∧
      shownEntries (favoriteListing ((fullIds.map (addStop (List.replicate 98 65))).foldl
          (favoriteRequest (crowdedData 0)) ⟨none, none, none, none⟩)) ≠
        (fullIds.map (addStop (List.replicate 98 65))).foldl (favoriteStep (crowdedData 0)) [] := by
  have hsize : maxPacketSize = 32768 := rfl
  have hstart : Stores ⟨none, none, none, none⟩ [] := ⟨rfl, fun row hrow => by (cases hrow), List.nodup_nil⟩
  have hstores := hstart.run (crowdedData 0) (fullIds.map (addStop (List.replicate 98 65)))
  rw [favoriteStep_fullIds] at hstores ⊢
  have hlen := length_wholeListing_fullFavorites
  refine ⟨by omega, fun hshown => ?_⟩
  rw [shownEntries_of_stores hstores] at hshown
  -- what is listed leaves three bytes of the buffer, the whole does not
  have hheader : (header pktFavoriteListRes .ok).length = 20 := by decide
  have hroom := @listedRows_room maxPacketSize fullFavorites (header pktFavoriteListRes .ok).length 0 (by omega)
  unfold listedFavorites at hshown
  rw [hshown] at hroom
  have hwhole : (wholeListing fullFavorites).length =
      (header pktFavoriteListRes .ok).length + (itemsText 0 fullFavorites).length + 1 := by
    unfold wholeListing
    rw [List.length_append, List.length_append, List.length_singleton]
  omega

end Transit
