import Transit.Proof.ListText
import Transit.Proof.Numbers
import Transit.Proof.TextLines

/-!
# The number shown and the number deleted

The client numbers the entries it shows of a list response; a delete request
counts the strings that `fgets` reads of the file, of which a long line gives
several. `numberShown_iff`: the two agree exactly when the lines that are shown
come first, as one entry each, and no other line is too long (`Numbered`).
-/

namespace Transit

open Framework

/-- The rows that `handle_favorite_list` sends of a file. -/
def favoriteRows (file : List Byte) : List Row := (fgetsAll 1024 file).filterMap favoriteRow

/-- The response to a list request. -/
def favoriteListing (fs : UserFiles) : Str := (handleFavoriteList .allOk fs maxPacketSize).response

/-- The response is not cut by the buffer: it has all rows. -/
def ListWhole (file : List Byte) (fs : UserFiles) : Prop :=
  fs.favorites = some file ∧
    favoriteListing fs = header pktFavoriteListRes .ok ++ itemsText 0 (favoriteRows file) ++ [packetTerm]

/-- What is shown of a string that the list handler has read. -/
def lineEntries (line : Str) : List Row := (favoriteRow line).toList.flatMap rowEntries

/-- What is shown of a line of the file. -/
def lineShown (line : Str) : List Row := (textPieces line).flatMap lineEntries

/-- A request to delete the entry shown as number `k + 1`. -/
def deleteShown (fs : UserFiles) (k : Nat) : UserFiles :=
  (handleFavoriteDelete .allOk fs (fmtNat (k + 1)) maxPacketSize).2

/-- Deleting by the number shown deletes the line that is shown under it, and
leaves the other lines and entries as they are. -/
def NumberShownIsDeleted (file : List Byte) (fs : UserFiles) : Prop :=
  ∀ k entry, (shownEntries (favoriteListing fs))[k]? = some entry →
    ∃ i line file', (textLines file)[i]? = some line ∧
      (((textLines file).take i).flatMap lineShown).length = k ∧ lineShown line = [entry] ∧
      (deleteShown fs k).favorites = some file' ∧ textLines file' = (textLines file).eraseIdx i ∧
      shownEntries (favoriteListing (deleteShown fs k)) = (shownEntries (favoriteListing fs)).eraseIdx k

/-- The lines that are shown come before those that are not, as one entry each;
each is read in one piece, and the lines beside it fit the buffer. -/
def Numbered (file : List Byte) : Prop :=
  ∃ m, (∀ line ∈ (textLines file).take m, (lineShown line).length = 1) ∧
    (∀ line ∈ (textLines file).drop m, lineShown line = []) ∧
    ∀ k < m, ∀ line, (textLines file)[k]? = some line →
      (textPieces line).length = 1 ∧ ∀ other ∈ (textLines file).eraseIdx k, Fits other

/-! ## What is shown -/

theorem favoriteRow_of_blank {line : Str} (h : strIsBlank (stripNewline line) = true) : favoriteRow line = none := by
  have hsep : fieldSep ∉ stripNewline line := fun hm => by
    have := List.all_eq_true.mp h _ hm
    revert this; decide
  unfold favoriteRow splitRecord
  rw [cutAt_eq_none.mpr hsep]

theorem favoriteRows_eq (file : List Byte) : favoriteRows file = (storedLines file).filterMap favoriteRow := by
  unfold favoriteRows storedLines
  rw [List.filterMap_filter]
  refine List.filterMap_congr fun line _ => ?_
  by_cases hb : strIsBlank (stripNewline line) = true
  · rw [favoriteRow_of_blank hb]; simp
  · rw [if_pos (by simp [isStored, hb])]

theorem favoriteRow_spec {line : Str} {row : Row} (h : favoriteRow line = some row) :
    splitRecord (stripNewline line) = some row := by
  unfold favoriteRow at h
  split at h
  · cases h
  · rename_i hsplit
    split at h
    · cases h
    · cases h; exact hsplit

theorem stripNewline_favoriteRows {file : List Byte} :
    ∀ row ∈ favoriteRows file, stripNewline (listItem row) = listItem row := by
  intro row hrow
  obtain ⟨line, -, hr⟩ := List.mem_filterMap.mp hrow
  exact stripNewline_listItem (stripNewline_idem line) (favoriteRow_spec hr)

theorem favoriteListing_eq {fs : UserFiles} {file : List Byte} (h : fs.favorites = some file) :
    favoriteListing fs = header pktFavoriteListRes .ok ++
      itemsText 0 (listedRows maxPacketSize (header pktFavoriteListRes .ok).length 0 (favoriteRows file)) ++
        [packetTerm] := by
  unfold favoriteListing handleFavoriteList Io.read
  rw [h]
  exact (listReply_eq (by decide) plain_favoriteRow).1

/-- No row is left out of a whole response. -/
theorem ListWhole.listed {fs : UserFiles} {file : List Byte} (h : ListWhole file fs) :
    listedRows maxPacketSize (header pktFavoriteListRes .ok).length 0 (favoriteRows file) = favoriteRows file := by
  have heq := (favoriteListing_eq h.1).symm.trans h.2
  rw [List.append_left_inj, List.append_right_inj] at heq
  exact listedRows_of_text heq

theorem listWhole_of_listed {fs : UserFiles} {file : List Byte} (hf : fs.favorites = some file)
    (h : listedRows maxPacketSize (header pktFavoriteListRes .ok).length 0 (favoriteRows file) = favoriteRows file) :
    ListWhole file fs := ⟨hf, by rw [favoriteListing_eq hf, h]⟩

/-- The client shows the lines of the file one after the other. -/
theorem shownEntries_favoriteListing {fs : UserFiles} {file : List Byte} (h : ListWhole file fs) :
    shownEntries (favoriteListing fs) = (storedLines file).flatMap lineEntries := by
  have hpacket : pktFavoriteListRes ∈ packetTypes := by decide
  have hplain : ∀ row ∈ favoriteRows file, Plain row.1 ∧ Plain row.2.1 ∧ Plain row.2.2 := plain_favoriteRow
  have hlen := (listReply_eq hpacket hplain).2
  rw [h.listed] at hlen
  rw [h.2, shownEntries_eq (by decide) hlen stripNewline_favoriteRows, favoriteRows_eq]
  induction storedLines file with
  | nil => rfl
  | cons line lines ih =>
    rw [List.flatMap_cons, ← ih]
    unfold lineEntries
    cases hrow : favoriteRow line with
    | none => rw [List.filterMap_cons_none hrow]; rfl
    | some row =>
      rw [List.filterMap_cons_some hrow, List.flatMap_cons, Option.toList_some, List.flatMap_cons,
        List.flatMap_nil, List.append_nil]

theorem favoriteRow_stripNewline (line : Str) : favoriteRow (stripNewline line) = favoriteRow line := by
  unfold favoriteRow
  rw [stripNewline_idem]

theorem lineEntries_lineBody (line : Str) : lineEntries (lineBody line) = lineEntries line := by
  unfold lineEntries
  rw [← favoriteRow_stripNewline, stripNewline_lineBody, favoriteRow_stripNewline]

theorem flatMap_lineEntries (file : List Byte) :
    (storedLines file).flatMap lineEntries = (textLines file).flatMap lineShown := by
  have hpieces : (textPieces file).flatMap lineEntries = (storedLines file).flatMap lineEntries := by
    unfold textPieces
    rw [List.flatMap_map]
    exact List.flatMap_congr fun line _ => lineEntries_lineBody line
  rw [← hpieces, textPieces_eq, List.flatMap_assoc]
  rfl

/-- What is shown of the file without one of the strings read of it. -/
theorem shownEntries_eraseIdx {fs fs' : UserFiles} {file : List Byte} (h : ListWhole file fs) (i : Nat)
    (hf : fs'.favorites = some (((storedLines file).eraseIdx i).map withNewline).flatten) :
    shownEntries (favoriteListing fs') = ((textPieces file).eraseIdx i).flatMap lineEntries := by
  have hshown : ((storedLines file).eraseIdx i).flatMap lineEntries =
      ((textPieces file).eraseIdx i).flatMap lineEntries := by
    unfold textPieces
    rw [List.eraseIdx_map, List.flatMap_map]
    exact List.flatMap_congr fun line _ => (lineEntries_lineBody line).symm
  rw [← hshown]
  have hstored := storedLines_eraseIdx file i
  generalize hfile : (((storedLines file).eraseIdx i).map withNewline).flatten = file' at hf hstored ⊢
  have hrows : favoriteRows file' = ((storedLines file).eraseIdx i).filterMap favoriteRow := by
    have hmap := congrArg (List.filterMap favoriteRow) hstored
    rw [List.filterMap_map, List.filterMap_map] at hmap
    rw [favoriteRows_eq]
    refine Eq.trans ?_ (hmap.trans ?_)
    all_goals exact List.filterMap_congr fun line _ => by simp [favoriteRow_stripNewline]
  have hsub : (favoriteRows file').Sublist (favoriteRows file) := by
    rw [hrows, favoriteRows_eq file]
    exact (List.eraseIdx_sublist _ _).filterMap _
  have hwhole := listWhole_of_listed hf (listedRows_of_sublist hsub (Nat.le_refl _) (Nat.le_refl _) h.listed)
  rw [shownEntries_favoriteListing hwhole]
  have hmap := congrArg (List.flatMap lineEntries) hstored
  have hline : ∀ line, lineEntries (stripNewline line) = lineEntries line := fun line => by
    unfold lineEntries; rw [favoriteRow_stripNewline]
  rw [List.flatMap_map, List.flatMap_map] at hmap
  simp only [hline] at hmap
  exact hmap

/-! ## Counting the entries of lines -/

section
variable {α β : Type*} {f : α → List β}

theorem length_flatMap_eraseIdx {as : List α} {k : Nat} {a : α} (h : as[k]? = some a) :
    ((as.eraseIdx k).flatMap f).length + (f a).length = (as.flatMap f).length := by
  induction as generalizing k with
  | nil => cases h
  | cons b as ih =>
    cases k with
    | zero =>
      cases h
      rw [List.eraseIdx_cons_zero, List.flatMap_cons, List.length_append, Nat.add_comm]
    | succ k =>
      have := ih h
      rw [List.eraseIdx_cons_succ, List.flatMap_cons, List.flatMap_cons, List.length_append, List.length_append]
      omega

theorem length_flatMap_single {as : List α} (h : ∀ a ∈ as, (f a).length = 1) :
    (as.flatMap f).length = as.length := by
  induction as with
  | nil => rfl
  | cons a as ih =>
    rw [List.forall_mem_cons] at h
    rw [List.flatMap_cons, List.length_append, h.1, ih h.2, List.length_cons, Nat.add_comm]

theorem flatMap_take_single {as : List α} (h : ∀ a ∈ as, (f a).length = 1) (n : Nat) :
    (as.take n).flatMap f = (as.flatMap f).take n ∧ (as.drop n).flatMap f = (as.flatMap f).drop n := by
  have hlen := length_flatMap_single fun a (ha : a ∈ as.take n) => h a (List.mem_of_mem_take ha)
  have htotal := length_flatMap_single h
  rw [List.length_take] at hlen
  have hsplit : (as.take n).flatMap f ++ (as.drop n).flatMap f = as.flatMap f := by
    rw [← List.flatMap_append, List.take_append_drop]
  rcases Nat.le_total n as.length with hn | hn
  · rw [Nat.min_eq_left hn] at hlen
    rw [← hsplit, List.take_left' hlen, List.drop_left' hlen]
    exact ⟨rfl, rfl⟩
  · rw [List.take_of_length_le hn, List.drop_of_length_le hn, List.take_of_length_le (by omega),
      List.drop_of_length_le (by omega)]
    exact ⟨rfl, rfl⟩

theorem flatMap_eq_nil {as : List α} (h : ∀ a ∈ as, f a = []) : as.flatMap f = [] :=
  List.flatMap_eq_nil_iff.mpr h

/-- One entry for each of the first lines, none for the rest. -/
theorem flatMap_numbered {as bs : List α} (ha : ∀ a ∈ as, (f a).length = 1) (hb : ∀ b ∈ bs, f b = []) {k : Nat}
    {e : β} (hk : ((as ++ bs).flatMap f)[k]? = some e) :
    ∃ a, (as ++ bs)[k]? = some a ∧ f a = [e] ∧
      ((as ++ bs).eraseIdx k).flatMap f = ((as ++ bs).flatMap f).eraseIdx k := by
  induction as generalizing k with
  | nil =>
    rw [List.nil_append, flatMap_eq_nil hb] at hk
    cases hk
  | cons a as ih =>
    rw [List.forall_mem_cons] at ha
    obtain ⟨e', he'⟩ := List.length_eq_one_iff.mp ha.1
    rw [List.cons_append, List.flatMap_cons, he', List.singleton_append] at hk
    cases k with
    | zero =>
      cases hk
      refine ⟨a, rfl, he', ?_⟩
      rw [List.cons_append, List.eraseIdx_cons_zero, List.flatMap_cons, he', List.singleton_append,
        List.eraseIdx_cons_zero]
    | succ k =>
      obtain ⟨b, hb', hf, heq⟩ := ih ha.2 hk
      refine ⟨b, hb', hf, ?_⟩
      rw [List.cons_append, List.eraseIdx_cons_succ, List.flatMap_cons, List.flatMap_cons, he',
        List.singleton_append, List.singleton_append, List.eraseIdx_cons_succ, heq]

/-- Lines each of which can be dropped with one entry are shown as one each, and
nothing is shown of those behind them. -/
theorem numbered_of_eraseIdx {as : List α}
    (h : ∀ k < (as.flatMap f).length, k < as.length ∧
      ((as.eraseIdx k).flatMap f).length + 1 = (as.flatMap f).length) :
    (∀ a ∈ as.take (as.flatMap f).length, (f a).length = 1) ∧
      ∀ a ∈ as.drop (as.flatMap f).length, f a = [] := by
  have hone : ∀ a ∈ as.take (as.flatMap f).length, (f a).length = 1 := by
    intro a ha
    obtain ⟨k, hk, hget⟩ := List.mem_iff_getElem.mp ha
    rw [List.length_take] at hk
    rw [List.getElem_take] at hget
    obtain ⟨hlt, herase⟩ := h k (by omega)
    have hsum := length_flatMap_eraseIdx (f := f) (List.getElem?_eq_getElem hlt)
    rw [hget] at hsum
    omega
  refine ⟨hone, fun a ha => ?_⟩
  have hle : (as.flatMap f).length ≤ as.length := by
    by_contra hgt
    obtain ⟨hlt, -⟩ := h as.length (by omega)
    omega
  have htotal := congrArg List.length (congrArg (List.flatMap f)
    (List.take_append_drop (as.flatMap f).length as))
  rw [List.flatMap_append, List.length_append, length_flatMap_single hone, List.length_take] at htotal
  have hnil : (as.drop (as.flatMap f).length).flatMap f = [] := List.length_eq_zero_iff.mp (by omega)
  exact List.flatMap_eq_nil_iff.mp hnil a ha

end

/-! ## Deleting by number -/

/-- The request for entry `k + 1` names stored line `k`, if there is one. -/
theorem deleteTarget_fmtNat (fs : UserFiles) {k : Nat} (hk : k + 1 < 2 ^ 31) :
    deleteTarget fs (fmtNat (k + 1)) =
      if k < (storedLines (contents fs.favorites)).length then some k else none := by
  unfold deleteTarget
  rw [strToInt_fmtNat hk]
  dsimp only
  by_cases h : k < (storedLines (contents fs.favorites)).length
  · rw [if_pos h, if_pos (by omega)]
    rfl
  · rw [if_neg h, if_neg (by omega)]

theorem deleteShown_favorites {fs : UserFiles} {file : List Byte} (hf : fs.favorites = some file) {k : Nat}
    (hk : k + 1 < 2 ^ 31) :
    (deleteShown fs k).favorites =
      if k < (storedLines file).length then some (((storedLines file).eraseIdx k).map withNewline).flatten
      else some file := by
  have htarget := deleteTarget_fmtNat fs hk
  rw [hf] at htarget
  change _ = if k < (storedLines file).length then some k else none at htarget
  unfold deleteShown
  by_cases h : k < (storedLines file).length
  · rw [if_pos h] at htarget ⊢
    rw [(handleFavoriteDelete_replaced maxPacketSize htarget rfl rfl rfl rfl).1, hf]
    rfl
  · rw [if_neg h] at htarget ⊢
    rw [handleFavoriteDelete_kept maxPacketSize (.inl htarget), hf]

/-- What a delete request for a number shown leaves of the lines of the file. -/
theorem textLines_deleteShown {fs : UserFiles} {file file' : List Byte} (hf : fs.favorites = some file) {k : Nat}
    (hk : k + 1 < 2 ^ 31) (hf' : (deleteShown fs k).favorites = some file') :
    textLines file' = if k < (textPieces file).length then (textPieces file).eraseIdx k else textLines file := by
  have hlen : (textPieces file).length = (storedLines file).length := List.length_map ..
  rw [deleteShown_favorites hf hk] at hf'
  rw [hlen]
  by_cases h : k < (storedLines file).length
  · rw [if_pos h] at hf' ⊢
    rw [← Option.some_inj.mp hf', textLines_rewrite]
  · rw [if_neg h] at hf' ⊢
    rw [Option.some_inj.mp hf']

section

variable {file : List Byte} {k : Nat} {line : Str}

/-- Lines that fit are read as they are. -/
theorem flatMap_textPieces {lines : List Str} (hsub : lines ⊆ textLines file) (hfits : ∀ line ∈ lines, Fits line) :
    lines.flatMap textPieces = lines := by
  refine (List.flatMap_congr fun line hline => ?_).trans (List.flatMap_singleton' lines)
  obtain ⟨hplain, hblank⟩ := mem_textLines (hsub hline)
  exact textPieces_fits (hfits line hline) hplain hblank

/-- The pieces of the file are its lines but for one of them. -/
theorem textPieces_split (hline : (textLines file)[k]? = some line)
    (hfits : ∀ other ∈ (textLines file).eraseIdx k, Fits other) :
    textPieces file = (textLines file).take k ++ textPieces line ++ (textLines file).drop (k + 1) := by
  obtain ⟨hk, hget⟩ := List.getElem?_eq_some_iff.mp hline
  have hsplit : textLines file = (textLines file).take k ++ line :: (textLines file).drop (k + 1) := by
    rw [← hget, List.cons_getElem_drop_succ, List.take_append_drop]
  rw [List.eraseIdx_eq_take_drop_succ] at hfits
  have hbefore := flatMap_textPieces (List.take_subset k _) fun other hother =>
    hfits other (List.mem_append_left _ hother)
  have hafter := flatMap_textPieces (List.drop_subset (k + 1) _) fun other hother =>
    hfits other (List.mem_append_right _ hother)
  rw [textPieces_eq]
  conv_lhs => rw [hsplit]
  rw [List.flatMap_append, List.flatMap_cons, hbefore, hafter, List.append_assoc]

/-- Where the line is read in one piece, dropping that drops the line. -/
theorem eraseIdx_textPieces (hline : (textLines file)[k]? = some line) (hone : (textPieces line).length = 1)
    (hfits : ∀ other ∈ (textLines file).eraseIdx k, Fits other) :
    (textPieces file).eraseIdx k = (textLines file).eraseIdx k := by
  have hk := (List.getElem?_eq_some_iff.mp hline).1
  have htake : ((textLines file).take k).length = k := List.length_take_of_le (Nat.le_of_lt hk)
  obtain ⟨piece, hpiece⟩ := List.length_eq_one_iff.mp hone
  rw [textPieces_split hline hfits, hpiece, List.append_assoc, List.eraseIdx_append_of_length_le (by omega), htake,
    Nat.sub_self, List.singleton_append, List.eraseIdx_cons_zero, List.eraseIdx_eq_take_drop_succ]

/-- Where dropping a piece drops a line, all other lines fit, and that one is read in one piece. -/
theorem fits_of_eraseIdx {i : Nat} (hline : (textLines file)[i]? = some line) (hk : k < (textPieces file).length)
    (h : (textPieces file).eraseIdx k = (textLines file).eraseIdx i) :
    (∀ other ∈ (textLines file).eraseIdx i, Fits other) ∧ ∀ other ∈ textLines file, (textPieces other).length = 1 := by
  have hi := (List.getElem?_eq_some_iff.mp hline).1
  have hfits : ∀ other ∈ (textLines file).eraseIdx i, Fits other := fun other hother =>
    (mem_textPieces (List.mem_of_mem_eraseIdx (h ▸ hother))).1
  refine ⟨hfits, fun other hother => ?_⟩
  have hlen := congrArg List.length h
  rw [List.length_eraseIdx_of_lt hk, List.length_eraseIdx_of_lt hi] at hlen
  have hpieces := congrArg List.length (textPieces_split hline hfits)
  rw [List.length_append, List.length_append, List.length_take, List.length_drop] at hpieces
  obtain ⟨j, hj⟩ := List.mem_iff_getElem?.mp hother
  by_cases hji : j = i
  · rw [hji, hline] at hj
    cases hj
    omega
  · have hmem : other ∈ (textLines file).eraseIdx i := by
      rw [List.mem_eraseIdx_iff_getElem?]
      exact ⟨j, hji, hj⟩
    obtain ⟨hplain, hblank⟩ := mem_textLines hother
    rw [textPieces_fits (hfits other hmem) hplain hblank]
    rfl

end

theorem shownEntries_textLines {fs : UserFiles} {file : List Byte} (h : ListWhole file fs) :
    shownEntries (favoriteListing fs) = (textLines file).flatMap lineShown :=
  (shownEntries_favoriteListing h).trans (flatMap_lineEntries file)

/-- The display after a deletion is that of the other pieces. -/
theorem shownEntries_deleteShown {fs : UserFiles} {file : List Byte} (h : ListWhole file fs) {k : Nat}
    (hk : k < (textPieces file).length) (hbound : k + 1 < 2 ^ 31) :
    shownEntries (favoriteListing (deleteShown fs k)) = ((textPieces file).eraseIdx k).flatMap lineEntries := by
  have hstored : (textPieces file).length = (storedLines file).length := List.length_map ..
  refine shownEntries_eraseIdx h _ ?_
  rw [deleteShown_favorites h.1 hbound, if_pos (by omega)]

/-- Piece `k` is a line of the file, shown as entry `k` and as nothing else. -/
def DropsLine (file : List Byte) (k : Nat) : Prop :=
  k < (textPieces file).length ∧
    ∃ i line, (textLines file)[i]? = some line ∧ (((textLines file).take i).flatMap lineShown).length = k ∧
      (lineShown line).length = 1 ∧ (textPieces file).eraseIdx k = (textLines file).eraseIdx i ∧
      ((textPieces file).eraseIdx k).flatMap lineEntries = ((textLines file).flatMap lineShown).eraseIdx k

theorem NumberShownIsDeleted.dropsLine {fs : UserFiles} {file : List Byte} (h : ListWhole file fs)
    (hall : NumberShownIsDeleted file fs) {k : Nat} (hk : k < ((textLines file).flatMap lineShown).length) :
    DropsLine file k := by
  have hlen := length_shownEntries_lt (favoriteListing fs)
  have hsize : maxPacketSize = 32768 := rfl
  unfold NumberShownIsDeleted at hall
  rw [shownEntries_textLines h] at hall hlen
  obtain ⟨i, line, file', hline, hcount, hentry, hfile, hrest, hshown⟩ := hall k _ (List.getElem?_eq_getElem hk)
  have hi := (List.getElem?_eq_some_iff.mp hline).1
  rw [textLines_deleteShown h.1 (by omega) hfile] at hrest
  by_cases hstored : k < (textPieces file).length
  · rw [if_pos hstored] at hrest
    rw [shownEntries_deleteShown h hstored (by omega)] at hshown
    exact ⟨hstored, i, line, hline, hcount, by rw [hentry]; rfl, hrest, hshown⟩
  · rw [if_neg hstored] at hrest
    have hsame := congrArg List.length hrest
    rw [List.length_eraseIdx_of_lt hi] at hsame
    omega

/-- Where each line is one piece, and the pieces shown come first, so do the lines. -/
theorem lineShown_of_pieces {file : List Byte} {m : Nat}
    (hone : ∀ line ∈ textLines file, (textPieces line).length = 1)
    (hfirst : ∀ piece ∈ (textPieces file).take m, (lineEntries piece).length = 1)
    (hlast : ∀ piece ∈ (textPieces file).drop m, lineEntries piece = []) :
    (∀ line ∈ (textLines file).take m, (lineShown line).length = 1) ∧
      ∀ line ∈ (textLines file).drop m, lineShown line = [] := by
  obtain ⟨htake, hdrop⟩ := flatMap_take_single hone m
  rw [← textPieces_eq] at htake hdrop
  have hpiece : ∀ lines ⊆ textLines file, ∀ line ∈ lines, ∃ piece ∈ lines.flatMap textPieces,
      lineShown line = lineEntries piece := fun lines hsub line hline => by
    obtain ⟨piece, hpiece⟩ := List.length_eq_one_iff.mp (hone line (hsub hline))
    refine ⟨piece, List.mem_flatMap.mpr ⟨line, hline, by rw [hpiece]; exact List.mem_singleton_self _⟩, ?_⟩
    unfold lineShown
    rw [hpiece, List.flatMap_singleton]
  constructor
  · intro line hline
    obtain ⟨piece, hmem, heq⟩ := hpiece _ (List.take_subset _ _) line hline
    rw [heq]
    exact hfirst piece (htake ▸ hmem)
  · intro line hline
    obtain ⟨piece, hmem, heq⟩ := hpiece _ (List.drop_subset _ _) line hline
    rw [heq]
    exact hlast piece (hdrop ▸ hmem)

/-- The line that is shown as entry `k` is line `k`, where the lines shown come first. -/
theorem index_of_shown {lines : List Str} {m i k : Nat} {line : Str}
    (hone : ∀ line ∈ lines.take m, (lineShown line).length = 1) (hnone : ∀ line ∈ lines.drop m, lineShown line = [])
    (hline : lines[i]? = some line) (hentry : (lineShown line).length = 1)
    (hcount : ((lines.take i).flatMap lineShown).length = k) : i = k := by
  obtain ⟨hlen, hget⟩ := List.getElem?_eq_some_iff.mp hline
  have hlt : i < m := by
    by_contra hge
    have hnil := hnone line (hget ▸ List.mem_drop_iff_getElem.mpr ⟨i - m, by omega, by congr 1; omega⟩)
    rw [hnil] at hentry
    cases hentry
  rw [length_flatMap_single fun other hother =>
    hone other ((List.take_prefix_take_left (Nat.le_of_lt hlt)).subset hother), List.length_take] at hcount
  omega

/-- Where every number shown stands for a line, the lines shown come first, each
in one piece, and the lines beside them fit the buffer. -/
theorem numbered_of_dropsLine {file : List Byte}
    (hdrop : ∀ k < ((textLines file).flatMap lineShown).length, DropsLine file k) : Numbered file := by
  have hpieces : (textLines file).flatMap lineShown = (textPieces file).flatMap lineEntries := by
    rw [textPieces_eq, List.flatMap_assoc]
    rfl
  obtain ⟨hfirst, hlast⟩ := @numbered_of_eraseIdx _ _ lineEntries (textPieces file) fun k hk => by
    rw [← hpieces] at hk ⊢
    obtain ⟨hstored, -, -, -, -, -, -, hshown⟩ := hdrop k hk
    rw [hshown, List.length_eraseIdx_of_lt hk]
    exact ⟨hstored, by omega⟩
  rw [← hpieces] at hfirst hlast
  rcases Nat.eq_zero_or_pos ((textLines file).flatMap lineShown).length with hnothing | hsome
  · refine ⟨0, by simp, fun line hline => ?_, by simp⟩
    exact List.flatMap_eq_nil_iff.mp (List.length_eq_zero_iff.mp hnothing) line hline
  · obtain ⟨hstored, i, line, hline, -, -, herase, -⟩ := hdrop 0 hsome
    have hpiece := (fits_of_eraseIdx hline hstored herase).2
    obtain ⟨hone, hnone⟩ := lineShown_of_pieces hpiece hfirst hlast
    refine ⟨_, hone, hnone, fun k hk line hline => ⟨hpiece line (List.mem_of_getElem? hline), ?_⟩⟩
    obtain ⟨hstored, j, shown, hj, hcount, hentry, herase, -⟩ := hdrop k hk
    obtain rfl := index_of_shown hone hnone hj hentry hcount
    exact (fits_of_eraseIdx hj hstored herase).1

/-- The lines shown come first and are read whole: the number shown is the number deleted. -/
theorem numberShown_of_numbered {fs : UserFiles} {file : List Byte} (h : ListWhole file fs)
    (hnumbered : Numbered file) : NumberShownIsDeleted file fs := by
  obtain ⟨m, hone, hnone, hfits⟩ := hnumbered
  intro k entry hk
  have hlen := length_shownEntries_lt (favoriteListing fs)
  have hsize : maxPacketSize = 32768 := rfl
  rw [shownEntries_textLines h] at hk hlen ⊢
  have hshownLen : ((textLines file).flatMap lineShown).length = ((textLines file).take m).length := by
    conv_lhs => rw [← List.take_append_drop m (textLines file)]
    rw [List.flatMap_append, flatMap_eq_nil hnone, List.append_nil, length_flatMap_single hone]
  have hlt := (List.getElem?_eq_some_iff.mp hk).1
  rw [List.length_take] at hshownLen
  rw [← List.take_append_drop m (textLines file)] at hk
  obtain ⟨line, hline, hentry, herase⟩ := flatMap_numbered hone hnone hk
  rw [List.take_append_drop] at hline herase
  obtain ⟨hpiece, hothers⟩ := hfits k (by omega) line hline
  have hsame := eraseIdx_textPieces hline hpiece hothers
  have hcount : (((textLines file).take k).flatMap lineShown).length = k := by
    rw [length_flatMap_single fun other hother =>
      hone other ((List.take_prefix_take_left (by omega : k ≤ m)).subset hother), List.length_take]
    omega
  have hstored : k < (textPieces file).length := by
    rw [textPieces_split hline hothers, List.length_append, List.length_append, List.length_take]
    omega
  obtain ⟨file', hfile⟩ : ∃ file', (deleteShown fs k).favorites = some file' := by
    rw [deleteShown_favorites h.1 (by omega)]
    split <;> exact ⟨_, rfl⟩
  refine ⟨k, line, file', hline, hcount, hentry, hfile, ?_, ?_⟩
  · rw [textLines_deleteShown h.1 (by omega) hfile, if_pos hstored, hsame]
  · rw [shownEntries_deleteShown h hstored (by omega), hsame, ← herase]
    refine List.flatMap_congr fun other hother => ?_
    obtain ⟨hplain, hblank⟩ := mem_textLines (List.mem_of_mem_eraseIdx hother)
    unfold lineShown
    rw [textPieces_fits (hothers other hother) hplain hblank, List.flatMap_singleton]

/-- The number shown is the number deleted, for every entry of a list that the
buffer does not cut, exactly when the lines that are shown stand before all
others, each as one entry, and the lines beside them fit the buffer. -/
theorem numberShown_iff (file : List Byte) (fs : UserFiles) (h : ListWhole file fs) :
    NumberShownIsDeleted file fs ↔ Numbered file := by
  constructor
  · exact fun hall => numbered_of_dropsLine fun k hk => hall.dropsLine h hk
  · exact numberShown_of_numbered h

/-- A damaged line before a favourite. -/
def damagedFirst : List Byte := utf8 "garbage\nstop|1|A\n"

theorem numberShown_damagedFirst :
    NumberShownIsDeleted damagedFirst ⟨some damagedFirst, none, none, none⟩ ↔ Numbered damagedFirst :=
  numberShown_iff _ _ ⟨rfl, by decide +kernel⟩

/-- The favourite is shown as number 1, and deleting number 1 leaves it there. -/
theorem not_numberShown_damagedFirst :
    ListWhole damagedFirst ⟨some damagedFirst, none, none, none⟩ ∧
      ¬ NumberShownIsDeleted damagedFirst ⟨some damagedFirst, none, none, none⟩ := by
  have hshown : shownEntries (favoriteListing ⟨some damagedFirst, none, none, none⟩) =
      [(utf8 "stop", utf8 "1", utf8 "A")] := by decide +kernel
  have hafter : shownEntries (favoriteListing (deleteShown ⟨some damagedFirst, none, none, none⟩ 0)) =
      [(utf8 "stop", utf8 "1", utf8 "A")] := by decide +kernel
  refine ⟨⟨rfl, by decide +kernel⟩, fun h => ?_⟩
  obtain ⟨i, line, file', -, -, -, -, -, hrest⟩ := h 0 (utf8 "stop", utf8 "1", utf8 "A") (by rw [hshown]; rfl)
  rw [hafter, hshown] at hrest
  cases hrest

end Transit
