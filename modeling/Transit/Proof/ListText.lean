import Transit.Client.ResultViewer
import Transit.Proof.ListReplies

/-!
# The text of a list response, written and read

`appendListItems` writes the items of the rows that leave room for themselves
(`listedRows`); the client's viewer takes the response apart again. What it
shows of a row depends on that row only (`rowEntries`): for a row without
separators in its fields it is the row itself (`rowEntries_clean`).
-/

namespace Transit

open Framework

/-- The three fields of an item. -/
abbrev Row := Str × Str × Str

/-- The rows that `appendListItems` writes, `used` bytes and `count` items being there. -/
def listedRows (size : Nat) : Nat → Nat → List Row → List Row
  | _, _, [] => []
  | used, count, row :: rest =>
    if used + (listItem row).length + 4 ≥ size then []
    else
      row :: listedRows size (used + (if count > 0 then 1 else 0) + (listItem row).length) (count + 1) rest

/-- The texts of items behind `count` others. -/
def itemsFrom : Nat → List Str → Str
  | 0, texts => [listSep].intercalate texts
  | _ + 1, texts => texts.flatMap (listSep :: ·)

/-- The items of these rows behind `count` others. -/
def itemsText : Nat → List Row → Str
  | 0, rows => [listSep].intercalate (rows.map listItem)
  | _ + 1, rows => rows.flatMap (listSep :: listItem ·)

/-- A row whose fields keep the separators of a list apart. -/
structure Clean (row : Row) : Prop where
  type : itemSep ∉ row.1
  id : itemSep ∉ row.2.1
  item : listSep ∉ listItem row
  length : (listItem row).length ≤ 1023

/-- What the client shows of a response, in order. -/
def shownEntries (response : Str) : List Row := listEntries (responseHeader response).payload

/-- What it shows of one row. -/
def rowEntries (row : Row) : List Row := (tokens listSep (listItem row)).filterMap listEntry

/-! ## Writing -/

theorem length_listItem (row : Row) :
    (listItem row).length = row.1.length + row.2.1.length + row.2.2.length + 2 := by
  unfold listItem
  simp only [List.length_append, List.length_singleton]
  omega

theorem itemsFrom_nil (count : Nat) : itemsFrom count [] = [] := by
  cases count <;> rfl

theorem itemsFrom_cons (count : Nat) (text : Str) (texts : List Str) :
    itemsFrom count (text :: texts) =
      (if count > 0 then [listSep] else []) ++ text ++ itemsFrom (count + 1) texts := by
  cases count with
  | zero => exact intercalate_cons_eq_flatMap ..
  | succ count => rfl

/-- There is room for a separator, so it is written before all items but the first. -/
theorem strAppend_sep {response : Str} {size : Nat} (h : response.length + 2 ≤ size) (count : Nat) :
    (if count > 0 then (strAppend response size [listSep]).1 else response) =
      response ++ if count > 0 then [listSep] else [] := by
  by_cases hc : count > 0
  · rw [if_pos hc, if_pos hc, strAppend_of_le (by rw [List.length_singleton]; omega)]
  · rw [if_neg hc, if_neg hc, List.append_nil]

theorem length_sep (count : Nat) : (if count > 0 then [listSep] else []).length = if count > 0 then 1 else 0 := by
  split <;> rfl

theorem sep_le_one (count : Nat) : (if count > 0 then 1 else 0) ≤ 1 := by split <;> omega

theorem length_itemsFrom_le {n : Nat} {texts : List Str} (h : ∀ t ∈ texts, t.length ≤ n) (count : Nat) :
    (itemsFrom count texts).length ≤ texts.length * (n + 1) := by
  induction texts generalizing count with
  | nil =>
    rw [itemsFrom_nil]
    exact Nat.zero_le _
  | cons t texts ih =>
    rw [List.forall_mem_cons] at h
    have hrest := ih h.2 (count + 1)
    have hsmall : (if count > 0 then [listSep] else []).length ≤ 1 := by split <;> simp
    rw [itemsFrom_cons, List.length_append, List.length_append, List.length_cons, Nat.add_mul]
    omega

theorem itemsText_eq (count : Nat) (rows : List Row) : itemsText count rows = itemsFrom count (rows.map listItem) := by
  cases count with
  | zero => rfl
  | succ count => exact (List.flatMap_map ..).symm

theorem itemsText_nil (count : Nat) : itemsText count [] = [] := by
  rw [itemsText_eq]
  exact itemsFrom_nil count

theorem itemsText_cons (count : Nat) (row : Row) (rows : List Row) :
    itemsText count (row :: rows) =
      (if count > 0 then [listSep] else []) ++ listItem row ++ itemsText (count + 1) rows := by
  rw [itemsText_eq, itemsText_eq]
  exact itemsFrom_cons ..

theorem appendListItems_eq (size : Nat) (rows : List Row) (response : Str) (count : Nat) :
    appendListItems size rows response count =
      response ++ itemsText count (listedRows size response.length count rows) := by
  induction rows generalizing response count with
  | nil => rw [listedRows, itemsText_nil, List.append_nil]; rfl
  | cons row rows ih =>
    have hlen := length_listItem row
    unfold appendListItems listedRows
    dsimp only
    by_cases hfull : response.length + (listItem row).length + 4 ≥ size
    · rw [if_pos (show response.length + (row.1.length + row.2.1.length + row.2.2.length + 4) + 2 ≥ size by
        omega), if_pos hfull, itemsText_nil, List.append_nil]
    · rw [if_neg (show ¬ response.length + (row.1.length + row.2.1.length + row.2.2.length + 4) + 2 ≥ size by
        omega), if_neg hfull, itemsText_cons]
      have hsmall := sep_le_one count
      rw [strAppend_sep (by omega), strAppendf_of_lt (by rw [List.length_append, length_sep]; omega), ih]
      simp only [List.length_append, length_sep, List.append_assoc, Nat.add_assoc]

theorem prefix_listedRows (size used count : Nat) (rows : List Row) : listedRows size used count rows <+: rows := by
  induction rows generalizing used count with
  | nil => exact List.nil_prefix
  | cons row rows ih =>
    unfold listedRows
    split
    · exact List.nil_prefix
    · exact List.cons_prefix_cons.mpr ⟨rfl, ih _ _⟩

theorem length_itemsText_cons (count : Nat) (row : Row) (rows : List Row) :
    (itemsText count (row :: rows)).length = (if count > 0 then 1 else 0) + (listItem row).length +
      (itemsText (count + 1) rows).length := by
  rw [itemsText_cons, List.length_append, List.length_append]
  split <;> rfl

theorem length_itemsText_succ (count : Nat) (rows : List Row) :
    (itemsText (count + 1) rows).length = (rows.map fun row => (listItem row).length + 1).sum := by
  induction rows with
  | nil => rfl
  | cons row rows ih =>
    rw [length_itemsText_cons, if_pos (Nat.succ_pos count), List.map_cons, List.sum_cons, Nat.add_comm 1]
    exact congrArg _ ih

theorem length_itemsText_le {n : Nat} {rows : List Row} (h : ∀ row ∈ rows, (listItem row).length ≤ n)
    (count : Nat) : (itemsText count rows).length ≤ rows.length * (n + 1) := by
  have hle := length_itemsFrom_le (List.forall_mem_map.mpr h) count
  rw [List.length_map] at hle
  rw [itemsText_eq]
  exact hle

theorem itemsText_append (count : Nat) (rows more : List Row) :
    itemsText count (rows ++ more) = itemsText count rows ++ itemsText (count + rows.length) more := by
  induction rows generalizing count with
  | nil => rw [itemsText_nil, List.nil_append, List.nil_append, List.length_nil, Nat.add_zero]
  | cons row rows ih =>
    rw [List.cons_append, itemsText_cons, itemsText_cons, ih, List.length_cons,
      List.append_assoc _ _ (itemsText _ more),
      Nat.add_assoc, Nat.add_comm 1]

theorem flatMap_rowEntries {rows : List Row} (h : ∀ row ∈ rows, rowEntries row = [row]) :
    rows.flatMap rowEntries = rows := by
  induction rows with
  | nil => rfl
  | cons row rows ih =>
    rw [List.forall_mem_cons] at h
    rw [List.flatMap_cons, h.1, ih h.2, List.singleton_append]

/-- A response with the text of all rows lists all of them. -/
theorem listedRows_of_text {size used count : Nat} {rows : List Row}
    (h : itemsText count (listedRows size used count rows) = itemsText count rows) :
    listedRows size used count rows = rows := by
  obtain ⟨more, hmore⟩ := prefix_listedRows size used count rows
  generalize listedRows size used count rows = listed at h hmore
  subst hmore
  rw [itemsText_append] at h
  have hnil := List.self_eq_append_right.mp h
  cases more with
  | nil => rw [List.append_nil]
  | cons row more =>
    have hlen := congrArg List.length hnil
    rw [length_itemsText_cons, length_listItem, List.length_nil] at hlen
    omega

/-- Where all rows are listed, so are some of them. -/
theorem listedRows_of_sublist {size : Nat} {some all : List Row} (hsub : some.Sublist all)
    {used used' count count' : Nat}
    (hu : used' ≤ used) (hc : count' ≤ count) (h : listedRows size used count all = all) :
    listedRows size used' count' some = some := by
  induction hsub generalizing used used' count count' with
  | slnil => rfl
  | cons row hsub ih =>
    unfold listedRows at h
    split at h
    · cases h
    · rw [List.cons.injEq] at h
      exact ih (show used' ≤ used + _ + _ by omega) (show count' ≤ count + 1 by omega) h.2
  | cons_cons row hsub ih =>
    unfold listedRows at h ⊢
    split at h
    · cases h
    · rename_i hroom
      rw [List.cons.injEq] at h
      have hstep : used' + (if count' > 0 then 1 else 0) + (listItem row).length ≤
          used + (if count > 0 then 1 else 0) + (listItem row).length := by
        split <;> split <;> omega
      rw [if_neg (show ¬ used' + (listItem row).length + 4 ≥ size by omega),
        ih hstep (show count' + 1 ≤ count + 1 by omega) h.2]

/-- Where the whole text leaves three bytes of the buffer, all rows are listed. -/
theorem listedRows_eq {size : Nat} {rows : List Row} {used count : Nat} (hc : 0 < count)
    (h : used + (itemsText count rows).length + 3 < size) : listedRows size used count rows = rows := by
  induction rows generalizing used count with
  | nil => rfl
  | cons row rows ih =>
    rw [length_itemsText_cons, if_pos hc] at h
    unfold listedRows
    rw [if_neg (show ¬ used + (listItem row).length + 4 ≥ size by omega), if_pos hc,
      ih (show 0 < count + 1 by omega) (by omega)]

/-- What is listed leaves three bytes of the buffer. -/
theorem listedRows_room {size : Nat} (rows : List Row) {used : Nat} (count : Nat) (h : used + 3 < size) :
    used + (itemsText count (listedRows size used count rows)).length + 3 < size := by
  induction rows generalizing used count with
  | nil => rw [listedRows, itemsText_nil]; exact h
  | cons row rows ih =>
    unfold listedRows
    by_cases hfull : used + (listItem row).length + 4 ≥ size
    · rw [if_pos hfull, itemsText_nil]; exact h
    · have hsmall : (if count > 0 then 1 else 0) ≤ 1 := by split <;> omega
      have hrest := ih (count + 1) (show used + (if count > 0 then 1 else 0) + (listItem row).length + 3 < size by
        omega)
      rw [if_neg hfull, length_itemsText_cons]
      omega

/-- The first item, which has no separator before it, has to leave four. -/
theorem listedRows_eq_of_first {size : Nat} {rows : List Row} {used : Nat}
    (hfirst : ∀ row ∈ rows, used + (listItem row).length + 4 < size)
    (h : used + (itemsText 0 rows).length + 3 < size) : listedRows size used 0 rows = rows := by
  cases rows with
  | nil => rfl
  | cons row rows =>
    have hrow := hfirst row (List.mem_cons_self ..)
    rw [length_itemsText_cons] at h
    unfold listedRows
    rw [if_neg (show ¬ used + (listItem row).length + 4 ≥ size by omega),
      listedRows_eq (show 0 < 0 + 1 by omega) (by simpa [Nat.add_assoc] using h)]

/-- A list response: its header, the items of the rows that fit, a line feed. -/
theorem listReply_eq {packet : Str} (hp : packet ∈ packetTypes) {rows : List Row}
    (hrows : ∀ row ∈ rows, Plain row.1 ∧ Plain row.2.1 ∧ Plain row.2.2) :
    (strAppend (appendListItems maxPacketSize rows (snprintf maxPacketSize (header packet .ok)) 0) maxPacketSize
        [packetTerm]).1 =
      header packet .ok ++ itemsText 0 (listedRows maxPacketSize (header packet .ok).length 0 rows) ++
        [packetTerm] ∧
    (header packet .ok ++ itemsText 0 (listedRows maxPacketSize (header packet .ok).length 0 rows)).length + 2 ≤
      maxPacketSize := by
  have hsize : maxPacketSize = 32768 := rfl
  have hroomy := roomy_appendListItems hrows (roomy_header hp .ok (by decide)) 0
  have hheader := (header_spec hp .ok).2
  rw [snprintf_of_le (by omega), appendListItems_eq] at hroomy ⊢
  have hroom := hroomy.room
  exact ⟨by rw [strAppend_of_le (by rw [List.length_singleton]; omega)], hroom⟩

/-! ## Reading -/

theorem stripNewline_eq_self_iff {s : Str} :
    stripNewline s = s ↔ ∀ b, s.getLast? = some b → b ≠ 10 ∧ b ≠ 13 := by
  unfold stripNewline
  rw [List.rdropWhile_eq_self_iff]
  rcases List.eq_nil_or_concat s with rfl | ⟨init, b, rfl⟩
  · simp
  · rw [List.concat_eq_append, List.getLast?_concat]
    simp

theorem stripNewline_idem (s : Str) : stripNewline (stripNewline s) = stripNewline s :=
  List.rdropWhile_idempotent _ _

theorem stripNewline_of_free {s : Str} (hlf : packetTerm ∉ s) (hcr : 13 ∉ s) : stripNewline s = s := by
  rw [stripNewline_eq_self_iff]
  intro b hb
  have hmem := List.mem_of_getLast? hb
  exact ⟨fun h => hlf (h.symm ▸ hmem : (10 : Byte) ∈ s), fun h => hcr (h.symm ▸ hmem)⟩

theorem stripNewline_append {a b : Str} (hb : stripNewline b = b) (hne : b ≠ []) :
    stripNewline (a ++ b) = a ++ b := by
  rw [stripNewline_eq_self_iff] at hb ⊢
  rw [List.getLast?_append_of_ne_nil _ hne]
  exact hb

theorem stripNewline_concat {s : Str} (h : stripNewline s = s) : stripNewline (s ++ [packetTerm]) = s := by
  have hdrop : stripNewline (s ++ [packetTerm]) = stripNewline s := by
    unfold stripNewline
    exact List.rdropWhile_concat_pos _ _ _ rfl
  rw [hdrop, h]

/-- Line ends are taken off what stands behind a text without one at its end. -/
theorem stripNewline_append_right {a : Str} (ha : stripNewline a = a) (b : Str) :
    stripNewline (a ++ b) = a ++ stripNewline b := by
  induction b using List.reverseRecOn with
  | nil =>
    rw [List.append_nil, ha]
    exact (List.append_nil a).symm
  | append_singleton b x ih =>
    unfold stripNewline at ih ⊢
    rw [← List.append_assoc, List.rdropWhile_concat, List.rdropWhile_concat, ih]
    split
    · rfl
    · exact List.append_assoc ..

/-- The client takes apart whatever is written behind a header. -/
theorem responseHeader_header {packet : Str} (hp : packet ∈ packetTypes) (code : ErrorCode) (rest : Str) :
    responseHeader (header packet code ++ rest) =
      ⟨packet, code.toInt, safeStrcpy maxPacketSize
        (stripNewline (rest.take (maxPacketSize - 1 - (header packet code).length)))⟩ := by
  have hsize : maxPacketSize = 32768 := rfl
  have hpacket : ∀ packet ∈ packetTypes, fieldSep ∉ packet ∧ packet.length ≤ 63 ∧ packet ≠ pktError := by decide
  have hcode : fieldSep ∉ fmtInt code.toInt ∧ atoi (fmtInt code.toInt) = code.toInt := by
    cases code <;> decide
  obtain ⟨hsep, hshort, herror⟩ := hpacket packet hp
  have hlen := (header_spec hp code).2
  have hheader : header packet code = packet ++ fieldSep :: (fmtInt code.toInt ++ fieldSep :: []) := by
    unfold header
    simp only [List.append_assoc, List.singleton_append]
    rfl
  have hself : stripNewline (header packet code) = header packet code := by
    unfold header
    rw [stripNewline_eq_self_iff, List.getLast?_concat]
    intro b hb
    cases hb
    decide
  have hcopy : safeStrcpy maxPacketSize (header packet code ++ rest) =
      header packet code ++ rest.take (maxPacketSize - 1 - (header packet code).length) := by
    unfold safeStrcpy snprintf
    rw [List.take_append, List.take_of_length_le (show (header packet code).length ≤ maxPacketSize - 1 by omega)]
  unfold responseHeader splitHeader
  dsimp only
  rw [hcopy, stripNewline_append_right hself]
  generalize rest.take (maxPacketSize - 1 - (header packet code).length) = body
  rw [hheader, List.append_assoc, List.cons_append, cutAt_append hsep]
  dsimp only
  rw [show safeStrcpy 64 packet = packet from snprintf_of_le hshort, if_neg herror,
    List.append_assoc, List.cons_append, List.nil_append, cutAt_append hcode.1]
  dsimp only
  rw [hcode.2]

/-- The client takes a response with an `ERR_OK` header apart. -/
theorem responseHeader_body {packet body : Str} (hp : packet ∈ packetTypes)
    (hlen : (header packet .ok ++ body).length + 2 ≤ maxPacketSize) :
    responseHeader (header packet .ok ++ body ++ [packetTerm]) = ⟨packet, 0, stripNewline body⟩ := by
  have hsize : maxPacketSize = 32768 := rfl
  have hterm : stripNewline (body ++ [packetTerm]) = stripNewline body :=
    List.rdropWhile_concat_pos _ _ _ rfl
  have hstrip := length_stripNewline_le body
  rw [List.length_append] at hlen
  rw [List.append_assoc, responseHeader_header hp, List.take_of_length_le (by
    rw [List.length_append, List.length_singleton]; omega), hterm,
    show safeStrcpy maxPacketSize (stripNewline body) = stripNewline body from snprintf_of_le (by omega)]
  rfl

theorem responseHeader_eq {packet body : Str} (hp : packet ∈ packetTypes)
    (hlen : (header packet .ok ++ body).length + 2 ≤ maxPacketSize) (hbody : stripNewline body = body) :
    responseHeader (header packet .ok ++ body ++ [packetTerm]) = ⟨packet, 0, body⟩ := by
  rw [responseHeader_body hp hlen, hbody]

theorem stripNewline_listItem {line : Str} {row : Row} (hline : stripNewline line = line)
    (h : splitRecord line = some row) : stripNewline (listItem row) = listItem row := by
  obtain ⟨type, id, name⟩ := row
  obtain ⟨rfl, -, -⟩ := splitRecord_spec h
  rw [stripNewline_eq_self_iff] at hline ⊢
  unfold listItem
  cases name with
  | nil =>
    rw [List.append_nil, List.getLast?_concat]
    intro b hb
    cases hb
    decide
  | cons b name =>
    rw [show type ++ fieldSep :: (id ++ fieldSep :: b :: name) =
      (type ++ fieldSep :: (id ++ [fieldSep])) ++ (b :: name) by simp,
      List.getLast?_append_of_ne_nil _ (List.cons_ne_nil b name)] at hline
    rw [List.getLast?_append_of_ne_nil _ (List.cons_ne_nil b name)]
    exact hline

theorem listItem_ne_nil (row : Row) : listItem row ≠ [] := by
  unfold listItem; simp

theorem stripNewline_itemsText {rows : List Row} (h : ∀ row ∈ rows, stripNewline (listItem row) = listItem row)
    (count : Nat) : stripNewline (itemsText count rows) = itemsText count rows := by
  induction rows generalizing count with
  | nil => rw [itemsText_nil]; rfl
  | cons row rows ih =>
    rw [List.forall_mem_cons] at h
    rw [itemsText_cons]
    by_cases hnil : itemsText (count + 1) rows = []
    · rw [hnil, List.append_nil]
      exact stripNewline_append h.1 (listItem_ne_nil row)
    · exact stripNewline_append (ih h.2 (count + 1)) hnil

/-- What the client shows of a list response, row by row. -/
theorem shownEntries_eq {packet : Str} (hp : packet ∈ packetTypes) {rows : List Row}
    (hlen : (header packet .ok ++ itemsText 0 rows).length + 2 ≤ maxPacketSize)
    (hrows : ∀ row ∈ rows, stripNewline (listItem row) = listItem row) :
    shownEntries (header packet .ok ++ itemsText 0 rows ++ [packetTerm]) = rows.flatMap rowEntries := by
  have hsize : maxPacketSize = 32768 := rfl
  have hcopy : safeStrcpy maxPacketSize (itemsText 0 rows) = itemsText 0 rows :=
    snprintf_of_le (by rw [List.length_append] at hlen; omega)
  unfold shownEntries
  rw [responseHeader_eq hp hlen (stripNewline_itemsText hrows 0), listEntries, hcopy, itemsText,
    tokens_intercalate_eq_flatMap, List.flatMap_map, List.filterMap_flatMap]
  rfl

theorem length_shownEntries_lt (response : Str) : (shownEntries response).length < maxPacketSize := by
  have hsize : maxPacketSize = 32768 := rfl
  unfold shownEntries listEntries
  have hcopy : (safeStrcpy maxPacketSize (responseHeader response).payload).length ≤ maxPacketSize - 1 :=
    List.length_take_le ..
  have hfilter := List.length_filterMap_le listEntry
    (tokens listSep (safeStrcpy maxPacketSize (responseHeader response).payload))
  have htokens := length_tokens_le (c := listSep) (safeStrcpy maxPacketSize (responseHeader response).payload)
  omega

/-- A clean row is shown as it is. -/
theorem rowEntries_clean {row : Row} (h : Clean row) : rowEntries row = [row] := by
  have hentry : listEntry (listItem row) = some row := by
    unfold listEntry
    rw [show safeStrcpy 1024 (listItem row) = listItem row from snprintf_of_le h.length]
    rw [show listItem row = row.1 ++ itemSep :: (row.2.1 ++ itemSep :: row.2.2) by simp [listItem],
      cutAt_append h.type]
    dsimp only
    rw [cutAt_append h.id]
  unfold rowEntries
  rw [tokens_of_not_mem h.item (listItem_ne_nil row)]
  exact List.filterMap_cons_some hentry

end Transit
