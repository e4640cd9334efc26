import Transit.Proof.CsvRoundTrip
import Transit.Proof.LineStore
import Transit.Tools.BusRoutes

/-!
# From the exported files to the store

What `generate_bus_route_data.py` writes, `load_bus_routes` and
`load_route_stops` read: `generatedRoute` is the record that one row of the
exported routes ends up as.

* `generateBusRoutes_loaded`: the routes of the store are those of the rows that
  the script keeps, whatever stands in the other files.
-/

namespace Transit

open Framework (addNew)

variable {D : Type}

/-! ## The UTF-8 of a text -/

theorem encode_append (s t : PyStr) : encode (s ++ t) = encode s ++ encode t := List.flatMap_append ..

theorem encode_injective : Function.Injective encode := fun s t h => by
  have hbytes : s.utf8Encode = t.utf8Encode := congrArg List.toByteArray h
  have hstring : String.ofList s = String.ofList t := String.toByteArray_inj.mp hbytes
  simpa using congrArg String.toList hstring

theorem length_encode_le {s t : PyStr} (h : s.Sublist t) : (encode s).length ≤ (encode t).length :=
  (h.flatMap String.utf8EncodeChar).length_le

/-- A byte below 128 is a character. -/
theorem mem_utf8EncodeChar {c : Char} {b : Byte} (h : b ∈ String.utf8EncodeChar c) (hb : b.toNat < 128) :
    c.toNat = b.toNat := by
  have hc : c.val.toNat = c.toNat := rfl
  unfold String.utf8EncodeChar at h
  dsimp only at h
  split at h
  · obtain rfl := List.mem_singleton.mp h
    rw [UInt8.toNat_ofNat']
    omega
  · exfalso
    split at h
    · simp only [List.mem_cons, List.not_mem_nil, or_false] at h
      rcases h with rfl | rfl <;> rw [UInt8.toNat_ofNat'] at hb <;> omega
    · split at h
      · simp only [List.mem_cons, List.not_mem_nil, or_false] at h
        rcases h with rfl | rfl | rfl <;> rw [UInt8.toNat_ofNat'] at hb <;> omega
      · simp only [List.mem_cons, List.not_mem_nil, or_false] at h
        rcases h with rfl | rfl | rfl | rfl <;> rw [UInt8.toNat_ofNat'] at hb <;> omega

theorem mem_encode {s : PyStr} {b : Byte} (h : b ∈ encode s) (hb : b.toNat < 128) : ∃ c ∈ s, c.toNat = b.toNat := by
  obtain ⟨c, hc, hm⟩ := List.mem_flatMap.mp h
  exact ⟨c, hc, mem_utf8EncodeChar hm hb⟩

/-- White space of C is white space of Python. -/
theorem not_isspace_of_mem {c : Char} {b : Byte} (hm : b ∈ String.utf8EncodeChar c) (hc : isSpaceChar c = false) :
    isspace b = false := by
  by_contra hb
  rw [Bool.not_eq_false] at hb
  unfold isspace at hb
  simp only [Bool.or_eq_true, beq_iff_eq, Bool.and_eq_true, decide_eq_true_eq, UInt8.le_iff_toNat_le,
    UInt8.reduceToNat] at hb
  have hcases : b.toNat = 32 ∨ 9 ≤ b.toNat ∧ b.toNat ≤ 13 := by
    rcases hb with rfl | hb
    · exact .inl rfl
    · exact .inr hb
  have hchar := mem_utf8EncodeChar hm (by omega)
  unfold isSpaceChar at hc
  dsimp only at hc
  rw [hchar] at hc
  rcases hcases with heq | ⟨hlow, hhigh⟩
  · rw [heq] at hc
    exact absurd hc (by decide)
  · rw [decide_eq_true hlow, decide_eq_true hhigh] at hc
    exact absurd hc (by simp)

/-- The mark of a file that begins with one is a character. -/
theorem head_of_bom {s : PyStr} (h : bom.isPrefixOf (encode s) = true) : ∃ c, s.head? = some c ∧ c.toNat = 0xFEFF := by
  cases s with
  | nil => cases h
  | cons c s =>
    refine ⟨c, rfl, ?_⟩
    have hc : c.val.toNat = c.toNat := rfl
    have hprefix := List.isPrefixOf_iff_prefix.mp h
    obtain ⟨rest, hrest⟩ := hprefix
    unfold encode at hrest
    rw [List.flatMap_cons] at hrest
    unfold String.utf8EncodeChar at hrest
    dsimp only at hrest
    split at hrest
    · have hfirst := congrArg UInt8.toNat (List.cons.inj hrest).1
      rw [UInt8.toNat_ofNat'] at hfirst
      change 239 = _ at hfirst
      omega
    · split at hrest
      · have hfirst := congrArg UInt8.toNat (List.cons.inj hrest).1
        rw [UInt8.toNat_ofNat'] at hfirst
        change 239 = _ at hfirst
        omega
      · split at hrest
        · obtain ⟨h1, hrest⟩ := List.cons.inj hrest
          obtain ⟨h2, hrest⟩ := List.cons.inj hrest
          have h3 := (List.cons.inj hrest).1
          have h1 := congrArg UInt8.toNat h1
          have h2 := congrArg UInt8.toNat h2
          have h3 := congrArg UInt8.toNat h3
          rw [UInt8.toNat_ofNat'] at h1 h2 h3
          change 239 = _ at h1
          change 187 = _ at h2
          change 191 = _ at h3
          omega
        · have hfirst := congrArg UInt8.toNat (List.cons.inj hrest).1
          rw [UInt8.toNat_ofNat'] at hfirst
          change 239 = _ at hfirst
          omega

/-! ## Texts that a line can hold -/

/-- No end of a line or a field, and no byte order mark. -/
def CleanChar (c : Char) : Prop :=
  c.toNat ≠ 0 ∧ c.toNat ≠ 10 ∧ c.toNat ≠ 13 ∧ c.toNat ≠ 34 ∧ c.toNat ≠ 0xFEFF

instance (c : Char) : Decidable (CleanChar c) :=
  inferInstanceAs (Decidable (c.toNat ≠ 0 ∧ c.toNat ≠ 10 ∧ c.toNat ≠ 13 ∧ c.toNat ≠ 34 ∧ c.toNat ≠ 0xFEFF))

/-- Clean characters, of `n` bytes at most. -/
structure TextWithin (n : Nat) (s : PyStr) : Prop where
  clean : ∀ c ∈ s, CleanChar c
  fits : (encode s).length ≤ n

/-- No white space at the ends. -/
structure Stripped (s : PyStr) : Prop where
  head : ∀ c ∈ s.head?, isSpaceChar c = false
  last : ∀ c ∈ s.getLast?, isSpaceChar c = false

instance (s : PyStr) : Decidable (Stripped s) :=
  decidable_of_iff (s.head?.all (!isSpaceChar ·) = true ∧ s.getLast?.all (!isSpaceChar ·) = true) <| by
    simp only [Option.all_eq_true, Bool.not_eq_true']
    exact ⟨fun h => ⟨h.1, h.2⟩, fun h => ⟨h.head, h.last⟩⟩

variable {s t : PyStr} {n m : Nat}

instance (n : Nat) (s : PyStr) : Decidable (TextWithin n s) :=
  letI := List.decidableBAll CleanChar s
  decidable_of_iff ((∀ c ∈ s, CleanChar c) ∧ (encode s).length ≤ n) ⟨fun h => ⟨h.1, h.2⟩, fun h => ⟨h.clean, h.fits⟩⟩

theorem textWithin_nil (n : Nat) : TextWithin n [] := ⟨fun c hc => (by cases hc), Nat.zero_le _⟩

theorem TextWithin.mono (h : TextWithin n s) (hn : n ≤ m) : TextWithin m s := ⟨h.clean, Nat.le_trans h.fits hn⟩

theorem TextWithin.sublist (h : TextWithin n t) (hs : s.Sublist t) : TextWithin n s :=
  ⟨fun c hc => h.clean c (hs.subset hc), Nat.le_trans (length_encode_le hs) h.fits⟩

theorem TextWithin.append (hs : TextWithin n s) (ht : TextWithin m t) : TextWithin (n + m) (s ++ t) := by
  refine ⟨fun c hc => (List.mem_append.mp hc).elim (hs.clean c) (ht.clean c), ?_⟩
  rw [encode_append, List.length_append]
  exact Nat.add_le_add hs.fits ht.fits

theorem TextWithin.not_mem (h : TextWithin n s) {b : Byte} (hb : b = 0 ∨ b = 10 ∨ b = 13 ∨ b = 34) : b ∉ encode s := by
  intro hm
  have hsmall : b.toNat < 128 := by rcases hb with rfl | rfl | rfl | rfl <;> decide
  obtain ⟨c, hc, hcb⟩ := mem_encode hm hsmall
  have hclean := h.clean c hc
  unfold CleanChar at hclean
  rcases hb with rfl | rfl | rfl | rfl
  · exact hclean.1 hcb
  · exact hclean.2.1 hcb
  · exact hclean.2.2.1 hcb
  · exact hclean.2.2.2.1 hcb

theorem strip_sublist (s : PyStr) : (strip s).Sublist s :=
  (List.rdropWhile_prefix _ _).sublist.trans (List.dropWhile_sublist _)

theorem stripped_strip (s : PyStr) : Stripped (strip s) := by
  have hhead : ∀ c ∈ (s.dropWhile isSpaceChar).head?, isSpaceChar c = false := by
    intro c hc
    have hnot := List.head?_dropWhile_not isSpaceChar s
    rwa [Option.mem_def.mp hc] at hnot
  refine ⟨fun c hc => hhead c ?_, fun c hc => ?_⟩
  · obtain ⟨rest, hrest⟩ := List.rdropWhile_prefix isSpaceChar (s.dropWhile isSpaceChar)
    rw [← hrest]
    exact List.mem_head?_append_of_mem_head? hc
  · obtain ⟨hne, rfl⟩ := List.mem_getLast?_eq_getLast hc
    exact Bool.eq_false_iff.mpr (List.rdropWhile_last_not isSpaceChar _ hne)

theorem Stripped.append_bun (hs : Stripped s) (hne : s ≠ []) : Stripped (s ++ ['번']) := by
  refine ⟨fun c hc => hs.head c ?_, fun c hc => ?_⟩
  · obtain ⟨a, rest, rfl⟩ := List.exists_cons_of_ne_nil hne
    exact hc
  · rw [List.getLast?_concat] at hc
    cases hc
    decide

/-- The reader of the file trims nothing from it. -/
theorem strTrim_encode (h : TextWithin n s) (hs : Stripped s) : strTrim (encode s) = encode s := by
  refine strTrim_eq_self (fun b hb => ?_) ?_ fun b hb => ?_
  · cases s with
    | nil => cases hb
    | cons c s =>
      refine not_isspace_of_mem (c := c) ?_ (hs.head c rfl)
      unfold encode at hb
      rw [List.flatMap_cons, List.head?_append_of_ne_nil _ String.utf8EncodeChar_ne_nil] at hb
      exact List.mem_of_mem_head? hb
  · by_contra hbom
    obtain ⟨c, hc, hmark⟩ := head_of_bom (Bool.not_eq_false _ ▸ hbom)
    exact (h.clean c (List.mem_of_mem_head? hc)).2.2.2.2 hmark
  · rcases List.eq_nil_or_concat s with rfl | ⟨s, c, rfl⟩
    · cases hb
    · rw [List.concat_eq_append] at hs hb
      refine not_isspace_of_mem (c := c) ?_ (hs.last c List.getLast?_concat)
      have hlast : encode [c] = String.utf8EncodeChar c := List.flatMap_singleton ..
      rw [encode_append, hlast, List.getLast?_append_of_ne_nil _ String.utf8EncodeChar_ne_nil] at hb
      exact List.mem_of_getLast? hb

/-! ## Names and directions -/

theorem searchRouteNumber_spec {number : PyStr} (h : searchRouteNumber s = some number) :
    number.Sublist s ∧ number ≠ [] ∧ ∀ c ∈ number, isDigitChar c = true := by
  induction s with
  | nil => cases h
  | cons c rest ih =>
    unfold searchRouteNumber at h
    dsimp only at h
    split at h
    · rename_i hmatch
      cases h
      refine ⟨List.takeWhile_sublist _, fun hnil => ?_, fun c hc => List.mem_takeWhile_imp hc⟩
      rw [hnil] at hmatch
      exact absurd hmatch.1 (by decide)
    · obtain ⟨hsub, hne, hdigits⟩ := ih h
      exact ⟨hsub.cons c, hne, hdigits⟩

theorem not_isSpaceChar_of_isDigitChar {c : Char} (h : isDigitChar c = true) : isSpaceChar c = false := by
  unfold isDigitChar at h
  dsimp only at h
  simp only [Bool.or_eq_true, Bool.and_eq_true, decide_eq_true_eq] at h
  unfold isSpaceChar
  dsimp only
  simp only [Bool.or_eq_false_iff, Bool.and_eq_false_iff, decide_eq_false_iff_not, beq_eq_false_iff_ne]
  omega

/-- A route name is clean, and has no white space at its ends. -/
theorem normalizeRouteName_spec {groupName description : PyStr} (hg : TextWithin n groupName)
    (hd : TextWithin n description) :
    TextWithin (n + 16) (normalizeRouteName groupName description) ∧
      Stripped (normalizeRouteName groupName description) := by
  have hname := hg.sublist (strip_sublist groupName)
  have hdesc := hd.sublist (strip_sublist description)
  have hbun : TextWithin 16 ['번'] := by decide
  unfold normalizeRouteName
  dsimp only
  split
  · rename_i hnumber
    refine ⟨hname.append hbun, (stripped_strip _).append_bun fun hnil => ?_⟩
    rw [hnil] at hnumber
    exact absurd hnumber (by decide)
  · split
    · rename_i hround
      obtain ⟨rest, hrest⟩ := List.isPrefixOf_iff_prefix.mp hround.1
      have hfilter : ((strip groupName).filter (· ≠ ' ')).Sublist (strip groupName) := List.filter_sublist
      refine ⟨(hname.sublist hfilter).append hbun, fun c hc => ?_, fun c hc => ?_⟩
      · rw [← hrest] at hc
        cases hc
        decide
      · rw [List.getLast?_concat] at hc
        cases hc
        decide
    · split
      · exact ⟨hname.mono (Nat.le_add_right ..), stripped_strip _⟩
      · cases hsearch : searchRouteNumber (strip description) with
        | some number =>
          obtain ⟨hsub, hne, hdigits⟩ := searchRouteNumber_spec hsearch
          have hnumber : Stripped number :=
            ⟨fun c hc => not_isSpaceChar_of_isDigitChar (hdigits c (List.mem_of_mem_head? hc)),
              fun c hc => not_isSpaceChar_of_isDigitChar (hdigits c (List.mem_of_getLast? hc))⟩
          exact ⟨(hdesc.sublist hsub).append hbun, hnumber.append_bun hne⟩
        | none =>
          dsimp only
          split
          · exact ⟨hdesc.mono (Nat.le_add_right ..), stripped_strip _⟩
          · exact ⟨(by decide : TextWithin 16 _).mono (Nat.le_add_left ..), by decide⟩

/-- Blanks for underscores. -/
theorem textWithin_blanks (h : TextWithin n s) : TextWithin n (s.map fun c => if c = '_' then ' ' else c) := by
  have hlen : ∀ t : PyStr, (encode (t.map fun c => if c = '_' then ' ' else c)).length = (encode t).length := by
    intro t
    induction t with
    | nil => rfl
    | cons c t ih =>
      unfold encode at ih ⊢
      rw [List.map_cons, List.flatMap_cons, List.flatMap_cons, List.length_append, List.length_append, ih]
      by_cases hc : c = '_'
      · rw [if_pos hc, hc]
        rfl
      · rw [if_neg hc]
  refine ⟨fun c hc => ?_, by rw [hlen]; exact h.fits⟩
  obtain ⟨a, ha, rfl⟩ := List.mem_map.mp hc
  by_cases hc : a = '_'
  · rw [if_pos hc]
    decide
  · rw [if_neg hc]
    exact h.clean a ha

theorem normalizeDirection_spec {description endStopId : PyStr} {names : PyStr → Option PyStr}
    (hd : TextWithin n description) (hnames : ∀ name, names endStopId = some name → TextWithin n name) :
    TextWithin (n + 16) (normalizeDirection description endStopId names) := by
  have hdesc := textWithin_blanks (hd.sublist (strip_sublist description))
  have hend : TextWithin n (strip ((names endStopId).getD [])) := by
    cases hname : names endStopId with
    | none => exact textWithin_nil n
    | some name => exact (hnames name hname).sublist (strip_sublist name)
  unfold normalizeDirection
  dsimp only
  split
  · exact hdesc.mono (Nat.le_add_right ..)
  · split
    · exact hend.append (by decide)
    · split
      · exact hdesc.mono (Nat.le_add_right ..)
      · exact (by decide : TextWithin 16 _).mono (Nat.le_add_left ..)

/-! ## The files -/

theorem length_writeField_le {f : Str} (h : 34 ∉ f) : (writeField f).length ≤ f.length + 2 := by
  unfold writeField
  split
  · unfold Framework.quoted
    have hplain : (f.flatMap fun a => if a = 34 then [34, 34] else [a]) = f := by
      refine (List.flatMap_congr fun a ha => ?_).trans (List.flatMap_singleton' f)
      have hne : a ≠ 34 := fun he => h (he ▸ ha)
      rw [if_neg hne]
    rw [hplain, List.length_append, List.length_cons, List.length_singleton]
  · exact Nat.le_add_right ..

theorem length_rowText_le {fields : List Str} (h : ∀ f ∈ fields, 34 ∉ f ∧ f.length ≤ n) :
    (rowText fields).length ≤ fields.length * (n + 3) := by
  unfold rowText
  split
  · rename_i hone
    rw [hone, List.length_singleton, Nat.one_mul]
    exact Nat.le_trans (by decide : _ ≤ 3) (Nat.le_add_left ..)
  · clear * - h
    induction fields with
    | nil => exact Nat.zero_le _
    | cons f fields ih =>
      obtain ⟨hquote, hlen⟩ := h f (List.mem_cons_self ..)
      have hfield := length_writeField_le hquote
      have hrest := ih fun g hg => h g (List.mem_cons_of_mem _ hg)
      rw [List.map_cons, List.length_cons, Nat.succ_mul]
      cases fields with
      | nil =>
        rw [List.map_nil, List.intercalate_singleton]
        omega
      | cons g fields =>
        rw [List.map_cons] at hrest ⊢
        rw [List.intercalate_cons_cons, List.length_append, List.length_append, List.length_singleton]
        omega

/-- The fields of a row that the script writes. -/
structure RowTexts (row : List PyStr) : Prop where
  each : ∀ f ∈ row, TextWithin 196 f
  nonempty : row ≠ []
  count : row.length ≤ 5

theorem RowTexts.encoded {row : List PyStr} (h : RowTexts row) :
    ∀ f ∈ row.map encode, (0 ∉ f ∧ 10 ∉ f ∧ 13 ∉ f) ∧ 34 ∉ f ∧ f.length ≤ 196 := by
  intro f hf
  obtain ⟨s, hs, rfl⟩ := List.mem_map.mp hf
  have htext := h.each s hs
  exact ⟨⟨htext.not_mem (.inl rfl), htext.not_mem (.inr (.inl rfl)), htext.not_mem (.inr (.inr (.inl rfl)))⟩,
    htext.not_mem (.inr (.inr (.inr rfl))), htext.fits⟩

/-- No line is too long for the loader. -/
theorem RowTexts.fileLine {row : List PyStr} (h : RowTexts row) : FileLine 1024 (writerow (row.map encode)) := by
  have h10 : 10 ∉ rowText (row.map encode) :=
    not_mem_rowText (by decide) (by decide) fun f hf => (h.encoded f hf).1.2.1
  have h0 : 0 ∉ rowText (row.map encode) := not_mem_rowText (by decide) (by decide) fun f hf => (h.encoded f hf).1.1
  have hlen := length_rowText_le fun f hf => (h.encoded f hf).2
  have hcount := h.count
  rw [List.length_map] at hlen
  have hline : writerow (row.map encode) = rowText (row.map encode) ++ [13] ++ [packetTerm] :=
    (List.append_assoc (rowText (row.map encode)) [13] [packetTerm]).symm
  rw [hline]
  refine ⟨⟨_, rfl, ?_, ?_⟩, ?_⟩
  · intro hm
    rcases List.mem_append.mp hm with hm | hm
    · exact h10 hm
    · exact absurd hm (by decide)
  · intro hm
    rcases List.mem_append.mp hm with hm | hm
    · exact h0 hm
    · exact absurd hm (by decide)
  · simp only [List.length_append, List.length_singleton]
    have hbound : row.length * (196 + 3) ≤ 5 * (196 + 3) := Nat.mul_le_mul_right _ hcount
    omega

/-- What is read of a row: its fields, trimmed. -/
def readBack (row : List PyStr) : CsvRow := ⟨row.map fun f => strTrim (encode f)⟩

theorem column_readBack {header fields : List PyStr} {name : Str} {k : Nat}
    (hk : csvFindHeader (readBack header) name = k) {f : PyStr} (hf : fields[k]? = some f) :
    column (readBack header) (readBack fields) name = strTrim (encode f) := by
  refine (column_eq hk _).trans ?_
  rw [List.getElem?_map, hf]
  rfl

theorem RowTexts.parse {row : List PyStr} (h : RowTexts row) :
    csvParseLine (writerow (row.map encode)) = readBack row := by
  have hcstr : cstr (writerow (row.map encode)) = writerow (row.map encode) := by
    obtain ⟨⟨body, hbody, -, hnul⟩, -⟩ := h.fileLine
    refine cstr_of_not_mem ?_
    rw [hbody, List.mem_append, not_or]
    exact ⟨hnul, by decide⟩
  have hparse := @csvParseLine_row (row.map encode) (by simpa using h.nonempty)
    (by rw [List.length_map]; exact Nat.le_trans h.count (by decide)) fun f hf => (h.encoded f hf).1
  rw [hcstr] at hparse
  rw [hparse, List.map_map]
  unfold readBack
  congr 1
  refine List.map_congr_left fun s hs => ?_
  have htext := h.each s hs
  have hfits := htext.fits
  show cellText ((encode s).filter (· ≠ 34)) = strTrim (encode s)
  rw [filter_quotes_of_not_mem (htext.not_mem (.inr (.inr (.inr rfl)))),
    cellText_short (Nat.lt_of_le_of_lt hfits (by decide))]

/-- The loader reads the table that was written. -/
theorem csvRecords_writeCsv {α : Type} {header : List PyStr} {rows : List (List PyStr)} (hheader : RowTexts header)
    (hrows : ∀ row ∈ rows, RowTexts row) {required : List Str}
    (hreq : (required.all fun name => csvFindHeader (readBack header) name ≥ 0) = true)
    (record : CsvRow → CsvRow → Option α) :
    csvRecords (some (writeCsv header rows)) required record =
      rows.filterMap fun row => record (readBack header) (readBack row) := by
  have hall : ∀ row ∈ header :: rows, RowTexts row := fun row hrow => by
    rcases List.mem_cons.mp hrow with rfl | hrow
    · exact hheader
    · exact hrows row hrow
  have hlines : fgetsAll 1024 (writeCsv header rows) = (header :: rows).map fun row => writerow (row.map encode) := by
    refine fgetsAll_flatten fun line hline => ?_
    obtain ⟨row, hrow, rfl⟩ := List.mem_map.mp hline
    exact (hall row hrow).fileLine
  have hparse : (rows.map fun row => writerow (row.map encode)).map csvParseLine = rows.map readBack := by
    rw [List.map_map]
    exact List.map_congr_left fun row hrow => (hrows row hrow).parse
  unfold csvRecords csvTable
  rw [Option.map_some, hlines, List.map_cons]
  dsimp only
  rw [hheader.parse, if_pos hreq, hparse]
  exact List.filterMap_map

/-! ## The rows that are kept -/

/-- The rows of the routes that the script keeps, in the order in which it writes them. -/
def keptRows (routeRows : List (List PyStr)) : List (List PyStr) :=
  (sortedRows routeRows).filter fun row => !skipsRow row

def busRouteFields (dispatchNames : PyStr → Option PyStr) (row : List PyStr) : List PyStr :=
  [column? row 0, normalizeRouteName ((dispatchNames (column? row 0)).getD []) (column? row 1), column? row 4,
    column? row 5, ['0']]

/-- The stops of a row, with the number that each has on the route. -/
def rowStops (row : List PyStr) : List (Char × PyStr) :=
  ('1', column? row 4) :: if column? row 5 ≠ column? row 4 then [('2', column? row 5)] else []

def routeStopFields (stopNames : PyStr → Option PyStr) (row : List PyStr) : List (List PyStr) :=
  (rowStops row).map fun stop =>
    [column? row 0, [stop.1], stop.2, normalizeDirection (column? row 1) (column? row 5) stopNames]

/-- Row by row. -/
theorem buildRows_eq (routeRows : List (List PyStr)) (dispatchNames stopNames : PyStr → Option PyStr) :
    (buildRows routeRows dispatchNames stopNames).busRoutes = (keptRows routeRows).map (busRouteFields dispatchNames) ∧
      (buildRows routeRows dispatchNames stopNames).routeStops =
        (keptRows routeRows).flatMap (routeStopFields stopNames) := by
  have key : ∀ (rows : List (List PyStr)) (acc : BusRows),
      (rows.foldl (addRow dispatchNames stopNames) acc).busRoutes =
          acc.busRoutes ++ (rows.filter fun row => !skipsRow row).map (busRouteFields dispatchNames) ∧
        (rows.foldl (addRow dispatchNames stopNames) acc).routeStops =
          acc.routeStops ++ (rows.filter fun row => !skipsRow row).flatMap (routeStopFields stopNames) := by
    intro rows
    induction rows with
    | nil => exact fun acc => ⟨(List.append_nil _).symm, (List.append_nil _).symm⟩
    | cons row rows ih =>
      intro acc
      obtain ⟨hroutes, hstops⟩ := ih (addRow dispatchNames stopNames acc row)
      rw [List.foldl_cons, hroutes, hstops]
      cases hskip : skipsRow row with
      | true =>
        rw [List.filter_cons_of_neg (by rw [hskip]; decide)]
        unfold addRow
        rw [hskip]
        exact ⟨rfl, rfl⟩
      | false =>
        rw [List.filter_cons_of_pos (by rw [hskip]; decide), List.map_cons, List.flatMap_cons]
        unfold addRow
        rw [hskip]
        refine ⟨List.append_assoc .., ?_⟩
        show acc.routeStops ++ _ ++ _ ++ _ = _
        rw [List.append_assoc, List.append_assoc]
        unfold routeStopFields rowStops
        by_cases hsame : column? row 5 ≠ column? row 4
        · rw [if_pos hsame, if_pos hsame]
          rfl
        · rw [if_neg hsame, if_neg hsame]
          rfl
  exact key (sortedRows routeRows) ⟨[], [], 0⟩

/-- A cell of the rows that the script goes through. -/
structure RowCells (row : List PyStr) : Prop where
  text : ∀ i, TextWithin 180 (column? row i)
  stripped : ∀ i, Stripped (column? row i)

theorem rowCells_readRows {k : Nat} {rows : List (List PyStr)} (h : ∀ row ∈ rows, ∀ cell ∈ row, TextWithin 180 cell)
    {row : List PyStr} (hrow : row ∈ readRows k rows) : RowCells row := by
  obtain ⟨cells, hcells, rfl⟩ := List.mem_map.mp hrow
  have heach := h cells (List.mem_filter.mp hcells).1
  have hcases : ∀ i, (∃ cell ∈ cells, column? (cells.map strip) i = strip cell) ∨ column? (cells.map strip) i = [] := by
    intro i
    unfold column?
    rw [List.getD_eq_getElem?_getD, List.getElem?_map]
    cases hcell : cells[i]? with
    | none => exact .inr rfl
    | some cell => exact .inl ⟨cell, List.mem_of_getElem? hcell, rfl⟩
  refine ⟨fun i => ?_, fun i => ?_⟩
  · rcases hcases i with ⟨cell, hcell, heq⟩ | heq
    · rw [heq]
      exact (heach cell hcell).sublist (strip_sublist cell)
    · rw [heq]
      exact textWithin_nil 180
  · rcases hcases i with ⟨cell, hcell, heq⟩ | heq
    · rw [heq]
      exact stripped_strip cell
    · rw [heq]
      exact stripped_strip []

theorem not_blank_encode (hs : Stripped s) (hne : s ≠ []) : strIsBlank (encode s) = false := by
  obtain ⟨c, s, rfl⟩ := List.exists_cons_of_ne_nil hne
  obtain ⟨b, bs, hb⟩ := List.exists_cons_of_ne_nil (String.utf8EncodeChar_ne_nil (c := c))
  have hspace := not_isspace_of_mem (hb ▸ List.mem_cons_self ..) (hs.head c rfl)
  unfold strIsBlank encode
  rw [List.flatMap_cons, hb, List.cons_append, List.all_cons, hspace, Bool.false_and]

/-! ## The records -/

section Records

variable (data : AppData D) (dispatch names : PyStr → Option PyStr) (row : List PyStr)

def generatedStop (stop : Char × PyStr) : RouteStopNode where
  routeNo := .copy _ (encode (column? row 0))
  seq := parseIntOrZero (encode [stop.1])
  stopId := .copy _ (encode stop.2)
  direction := .copy _ (strTrim (encode (normalizeDirection (column? row 1) (column? row 5) names)))

/-- The stops of a row that are in the store. -/
def generatedStops : List RouteStopNode :=
  (rowStops row).filterMap fun stop =>
    if (findStopById data (encode stop.2)).isNone then none else some (generatedStop names row stop)

/-- The route of a row. -/
def generatedRoute : RouteNode where
  routeNo := .copy _ (encode (column? row 0))
  routeName := .copy _ (encode (normalizeRouteName ((dispatch (column? row 0)).getD []) (column? row 1)))
  startStopId := .copy _ (encode (column? row 4))
  endStopId := .copy _ (encode (column? row 5))
  intervalMin := 0
  stops := generatedStops data names row

end Records

theorem not_skipsRow {row : List PyStr} (h : skipsRow row = false) :
    column? row 0 ≠ [] ∧ column? row 4 ≠ [] ∧ column? row 5 ≠ [] := by
  unfold skipsRow at h
  simp only [Bool.or_eq_false_iff, beq_eq_false_iff_ne] at h
  exact ⟨h.1.1.1.2, h.1.1.2, h.1.2⟩

/-- The digits that the script writes. -/
theorem textWithin_digit {c : Char} (h : c = '0' ∨ c = '1' ∨ c = '2') : TextWithin 196 [c] := by
  rcases h with rfl | rfl | rfl <;> decide

section Rows

variable {dispatch names : PyStr → Option PyStr} {row : List PyStr}
  (hdispatch : ∀ id name, dispatch id = some name → TextWithin 180 name)
  (hnames : ∀ id name, names id = some name → TextWithin 180 name)
  (hcells : RowCells row)

include hdispatch in
theorem textWithin_dispatch (id : PyStr) : TextWithin 180 ((dispatch id).getD []) := by
  cases hfound : dispatch id with
  | none => exact textWithin_nil 180
  | some name => exact hdispatch id name hfound

include hdispatch hcells in
theorem rowTexts_busRouteFields : RowTexts (busRouteFields dispatch row) := by
  have hname := textWithin_dispatch hdispatch (column? row 0)
  refine ⟨fun f hf => ?_, List.cons_ne_nil _ _, Nat.le_refl 5⟩
  unfold busRouteFields at hf
  simp only [List.mem_cons, List.not_mem_nil, or_false] at hf
  rcases hf with rfl | rfl | rfl | rfl | rfl
  · exact (hcells.text 0).mono (by decide)
  · exact (normalizeRouteName_spec hname (hcells.text 1)).1
  · exact (hcells.text 4).mono (by decide)
  · exact (hcells.text 5).mono (by decide)
  · exact textWithin_digit (.inl rfl)

theorem mem_rowStops {stop : Char × PyStr} (h : stop ∈ rowStops row) :
    (stop.1 = '1' ∧ stop.2 = column? row 4) ∨ (stop.1 = '2' ∧ stop.2 = column? row 5) := by
  unfold rowStops at h
  rcases List.mem_cons.mp h with rfl | h
  · exact .inl ⟨rfl, rfl⟩
  · split at h
    · rw [List.mem_singleton.mp h]
      exact .inr ⟨rfl, rfl⟩
    · cases h

include hcells in
theorem rowStops_texts {stop : Char × PyStr} (h : stop ∈ rowStops row) :
    TextWithin 180 stop.2 ∧ Stripped stop.2 ∧ TextWithin 196 [stop.1] := by
  rcases mem_rowStops h with ⟨hseq, hid⟩ | ⟨hseq, hid⟩
  · rw [hid]
    exact ⟨hcells.text 4, hcells.stripped 4, textWithin_digit (.inr (.inl hseq))⟩
  · rw [hid]
    exact ⟨hcells.text 5, hcells.stripped 5, textWithin_digit (.inr (.inr hseq))⟩

include hnames hcells in
theorem rowTexts_routeStopFields : ∀ fields ∈ routeStopFields names row, RowTexts fields := by
  intro fields hfields
  obtain ⟨stop, hstop, rfl⟩ := List.mem_map.mp hfields
  obtain ⟨hid, -, hseq⟩ := rowStops_texts hcells hstop
  refine ⟨fun f hf => ?_, List.cons_ne_nil _ _, (by decide : 4 ≤ 5)⟩
  simp only [List.mem_cons, List.not_mem_nil, or_false] at hf
  rcases hf with rfl | rfl | rfl | rfl
  · exact (hcells.text 0).mono (by decide)
  · exact hseq
  · exact hid.mono (by decide)
  · exact normalizeDirection_spec (hcells.text 1) (hnames _)

include hdispatch hcells in
/-- What the loader makes of the row of a route. -/
theorem busRouteOf_fields (data : AppData D) (hkept : skipsRow row = false) :
    busRouteOf (readBack busRoutesHeader) (readBack (busRouteFields dispatch row)) =
      some { generatedRoute data dispatch names row with stops := [] } := by
  have htrim : ∀ i, strTrim (encode (column? row i)) = encode (column? row i) := fun i =>
    strTrim_encode (hcells.text i) (hcells.stripped i)
  obtain ⟨htext, hstripped⟩ :=
    normalizeRouteName_spec (textWithin_dispatch hdispatch (column? row 0)) (hcells.text 1)
  have hno : column (readBack busRoutesHeader) (readBack (busRouteFields dispatch row)) (utf8 "route_no") =
      encode (column? row 0) :=
    (column_readBack (by decide +kernel : _ = ((0 : Nat) : Int)) rfl).trans (htrim 0)
  have hname : column (readBack busRoutesHeader) (readBack (busRouteFields dispatch row)) (utf8 "route_name") =
      encode (normalizeRouteName ((dispatch (column? row 0)).getD []) (column? row 1)) :=
    (column_readBack (by decide +kernel : _ = ((1 : Nat) : Int)) rfl).trans (strTrim_encode htext hstripped)
  have hstart : column (readBack busRoutesHeader) (readBack (busRouteFields dispatch row)) (utf8 "start_stop_id") =
      encode (column? row 4) :=
    (column_readBack (by decide +kernel : _ = ((2 : Nat) : Int)) rfl).trans (htrim 4)
  have hend : column (readBack busRoutesHeader) (readBack (busRouteFields dispatch row)) (utf8 "end_stop_id") =
      encode (column? row 5) :=
    (column_readBack (by decide +kernel : _ = ((3 : Nat) : Int)) rfl).trans (htrim 5)
  have hinterval : column (readBack busRoutesHeader) (readBack (busRouteFields dispatch row)) (utf8 "interval_min") =
      [48] :=
    (column_readBack (by decide +kernel : _ = ((4 : Nat) : Int)) rfl).trans (by decide : strTrim (encode ['0']) = [48])
  unfold busRouteOf
  dsimp only
  rw [hno, hname, hstart, hend, hinterval, not_blank_encode (hcells.stripped 0) (not_skipsRow hkept).1]
  rfl

include hcells in
/-- What the loader makes of the rows of its stops. -/
theorem routeStopOf_fields {data : AppData D} (hkept : skipsRow row = false)
    (hroute : (findRouteByNo data (encode (column? row 0))).isNone = false) :
    (routeStopFields names row).filterMap
        (fun fields => routeStopOf data (readBack routeStopsHeader) (readBack fields)) =
      generatedStops data names row := by
  unfold routeStopFields generatedStops
  rw [List.filterMap_map]
  refine List.filterMap_congr fun stop hstop => ?_
  obtain ⟨htext, hstripped, -⟩ := rowStops_texts hcells hstop
  have hne : stop.2 ≠ [] := by
    obtain ⟨-, hstart, hend⟩ := not_skipsRow hkept
    rcases mem_rowStops hstop with ⟨-, hid⟩ | ⟨-, hid⟩
    · rw [hid]
      exact hstart
    · rw [hid]
      exact hend
  have hseq : strTrim (encode [stop.1]) = encode [stop.1] := by
    rcases mem_rowStops hstop with ⟨hdigit, -⟩ | ⟨hdigit, -⟩ <;>
    · rw [hdigit]
      decide
  show routeStopOf data (readBack routeStopsHeader) (readBack [column? row 0, [stop.1], stop.2,
    normalizeDirection (column? row 1) (column? row 5) names]) = _
  unfold routeStopOf
  dsimp only
  rw [column_readBack (by decide +kernel : csvFindHeader _ (utf8 "route_no") = ((0 : Nat) : Int)) rfl,
    column_readBack (by decide +kernel : csvFindHeader _ (utf8 "seq") = ((1 : Nat) : Int)) rfl,
    column_readBack (by decide +kernel : csvFindHeader _ (utf8 "stop_id") = ((2 : Nat) : Int)) rfl,
    column_readBack (by decide +kernel : csvFindHeader _ (utf8 "direction") = ((3 : Nat) : Int)) rfl,
    strTrim_encode (hcells.text 0) (hcells.stripped 0), strTrim_encode htext hstripped, hseq,
    not_blank_encode (hcells.stripped 0) (not_skipsRow hkept).1, not_blank_encode hstripped hne, hroute]
  rfl

end Rows

/-- The stops of a row stand in the order of their numbers. -/
theorem generatedStops_sorted (data : AppData D) (names : PyStr → Option PyStr) (row : List PyStr) :
    (generatedStops data names row).Pairwise fun a b => decide (a.seq ≤ b.seq) = true := by
  have hseq : parseIntOrZero (encode ['1']) ≤ parseIntOrZero (encode ['2']) := by decide
  have hrow : (rowStops row).Pairwise fun a b => parseIntOrZero (encode [a.1]) ≤ parseIntOrZero (encode [b.1]) := by
    unfold rowStops
    split
    · exact List.pairwise_pair.mpr hseq
    · exact List.pairwise_singleton ..
  refine hrow.filterMap _ fun a b hle x hx y hy => ?_
  split at hx
  · cases hx
  · split at hy
    · cases hy
    · cases hx
      cases hy
      exact decide_eq_true hle

theorem routeNo_generatedStops {data : AppData D} {names : PyStr → Option PyStr} {row : List PyStr}
    {rs : RouteStopNode} (h : rs ∈ generatedStops data names row) :
    rs.routeNo = .copy _ (encode (column? row 0)) := by
  obtain ⟨stop, -, hrs⟩ := List.mem_filterMap.mp h
  split at hrs
  · cases hrs
  · cases hrs
    rfl

/-! ## The store -/

/-- The exported files can be read, and no two of their routes have one number. -/
structure ExportedRows (routeRows dispatchRows : List (List PyStr)) (stopRows : List (PyStr × PyStr)) : Prop where
  routes : ∀ row ∈ routeRows, ∀ cell ∈ row, TextWithin 180 cell
  dispatch : ∀ row ∈ dispatchRows, ∀ cell ∈ row, TextWithin 180 cell
  stops : ∀ row ∈ stopRows, TextWithin 180 row.2
  numbers : ((keptRows (readRows 7 routeRows)).map (column? · 0)).Nodup
  short : ∀ row ∈ keptRows (readRows 7 routeRows), (encode (column? row 0)).length ≤ maxRouteLen - 1

section Store

variable (files : CsvFiles) (routeRows dispatchRows : List (List PyStr)) (stopRows : List (PyStr × PyStr))

/-- The files with those of the script among them. -/
def withGenerated : CsvFiles :=
  { files with
    busRoutes := some (generateBusRoutes routeRows dispatchRows stopRows).1
    routeStops := some (generateBusRoutes routeRows dispatchRows stopRows).2 }

variable {files routeRows dispatchRows stopRows}
  (h : ExportedRows routeRows dispatchRows stopRows)
include h

/-- The names that the script looks up are cells of its input. -/
theorem textWithin_dispatchNames (id name : PyStr) (hname : dispatchNames (readRows 5 dispatchRows) id = some name) :
    TextWithin 180 name := by
  obtain ⟨row, hrow, rfl⟩ := Option.map_eq_some_iff.mp hname
  exact (rowCells_readRows h.dispatch (List.mem_reverse.mp (List.mem_of_find?_eq_some hrow))).text 1

theorem textWithin_stopNames (id name : PyStr) (hname : stopNames stopRows id = some name) : TextWithin 180 name := by
  unfold stopNames at hname
  split at hname
  · cases hname
  · obtain ⟨row, hrow, rfl⟩ := Option.map_eq_some_iff.mp hname
    exact (h.stops row (List.mem_reverse.mp (List.mem_of_find?_eq_some hrow))).sublist (strip_sublist row.2)

theorem rowCells_keptRows {row : List PyStr} (hrow : row ∈ keptRows (readRows 7 routeRows)) :
    RowCells row ∧ skipsRow row = false := by
  obtain ⟨hsorted, hkept⟩ := List.mem_filter.mp hrow
  exact ⟨rowCells_readRows h.routes (List.mem_mergeSort.mp hsorted), by simpa using hkept⟩

/-- A number is not cut. -/
theorem routeNo_keptRows {row : List PyStr} (hrow : row ∈ keptRows (readRows 7 routeRows)) :
    (CStr.copy maxRouteLen (encode (column? row 0))).val = encode (column? row 0) := CStr.copy_of_le (h.short row hrow)

theorem routeNos_nodup : ((keptRows (readRows 7 routeRows)).map fun row => encode (column? row 0)).Nodup := by
  have hencoded := h.numbers.map encode_injective
  rwa [List.map_map] at hencoded

theorem busRoutesRead_generated (data : AppData D) :
    busRoutesRead (withGenerated files routeRows dispatchRows stopRows) =
      (keptRows (readRows 7 routeRows)).map fun row =>
        { generatedRoute data (dispatchNames (readRows 5 dispatchRows)) (stopNames stopRows) row with
          stops := [] } := by
  obtain ⟨hrows, -⟩ := buildRows_eq (readRows 7 routeRows) (dispatchNames (readRows 5 dispatchRows))
    (stopNames stopRows)
  have hnames := textWithin_dispatchNames h
  have hheader : RowTexts busRoutesHeader := ⟨by decide +kernel, by decide, by decide⟩
  show csvRecords (some (writeCsv busRoutesHeader (buildRows _ _ _).busRoutes)) _ _ = _
  rw [hrows, csvRecords_writeCsv hheader (fun fields hfields => ?_) (by decide +kernel), List.filterMap_map,
    ← List.filterMap_eq_map]
  · refine List.filterMap_congr fun row hrow => ?_
    obtain ⟨hcells, hkept⟩ := rowCells_keptRows h hrow
    exact busRouteOf_fields hnames hcells data hkept
  · obtain ⟨row, hrow, rfl⟩ := List.mem_map.mp hfields
    exact rowTexts_busRouteFields hnames (rowCells_keptRows h hrow).1

theorem routeStopsAccepted_generated {data : AppData D}
    (hfound : ∀ row ∈ keptRows (readRows 7 routeRows), (findRouteByNo data (encode (column? row 0))).isNone = false) :
    routeStopsAccepted (withGenerated files routeRows dispatchRows stopRows) data =
      (keptRows (readRows 7 routeRows)).flatMap (generatedStops data (stopNames stopRows)) := by
  obtain ⟨-, hrows⟩ := buildRows_eq (readRows 7 routeRows) (dispatchNames (readRows 5 dispatchRows))
    (stopNames stopRows)
  have hnames := textWithin_stopNames h
  have hheader : RowTexts routeStopsHeader := ⟨by decide +kernel, by decide, by decide⟩
  show csvRecords (some (writeCsv routeStopsHeader (buildRows _ _ _).routeStops)) _ _ = _
  rw [hrows, csvRecords_writeCsv hheader (fun fields hfields => ?_) (by decide +kernel), List.filterMap_flatMap]
  · refine List.flatMap_congr fun row hrow => ?_
    obtain ⟨hcells, hkept⟩ := rowCells_keptRows h hrow
    exact routeStopOf_fields hcells hkept (hfound row hrow)
  · obtain ⟨row, hrow, hmem⟩ := List.mem_flatMap.mp hfields
    exact rowTexts_routeStopFields hnames (rowCells_keptRows h hrow).1 fields hmem

/-- Every route gets the stops of its row. -/
theorem fillRoute_generated {data : AppData D} {row : List PyStr} (hrow : row ∈ keptRows (readRows 7 routeRows)) :
    fillRoute ((keptRows (readRows 7 routeRows)).flatMap (generatedStops data (stopNames stopRows)))
        { generatedRoute data (dispatchNames (readRows 5 dispatchRows)) (stopNames stopRows) row with stops := [] } =
      generatedRoute data (dispatchNames (readRows 5 dispatchRows)) (stopNames stopRows) row := by
  have hown : ∀ r ∈ keptRows (readRows 7 routeRows), ∀ rs ∈ generatedStops data (stopNames stopRows) r,
      rs.routeNo.val = encode (column? r 0) := fun r hr rs hrs => by
    rw [routeNo_generatedStops hrs, routeNo_keptRows h hr]
  have hfilter := Framework.filter_flatMap_of_nodup _ (routeNos_nodup h) hown hrow
  have hno : (generatedRoute data (dispatchNames (readRows 5 dispatchRows)) (stopNames stopRows) row).routeNo.val =
      encode (column? row 0) := routeNo_keptRows h hrow
  rw [fillRoute_eq]
  dsimp only
  rw [hno, hfilter, Framework.foldl_insertBehind, List.mergeSort_of_pairwise (generatedStops_sorted ..)]
  rfl

variable [CDouble D]

/-- The routes before their stops are read. -/
theorem networkBase_generated (data : AppData D) :
    (networkBase (withGenerated files routeRows dispatchRows stopRows) : AppData D).routes =
      ((keptRows (readRows 7 routeRows)).map fun row =>
        { generatedRoute data (dispatchNames (readRows 5 dispatchRows)) (stopNames stopRows) row with
          stops := [] }).reverse := by
  show (busRoutesRead _).foldl (addNew (·.routeNo.val)) [] = _
  rw [busRoutesRead_generated h data, Framework.foldl_addNew_of_nodup _, List.append_nil]
  rw [List.append_nil, List.map_reverse, List.nodup_reverse, List.map_map]
  have hnos := routeNos_nodup h
  rwa [← List.map_congr_left fun row hrow => routeNo_keptRows h hrow] at hnos

/-- The routes of the store are those of the rows that the script keeps, the last one first. -/
theorem generateBusRoutes_loaded :
    (loadedData (withGenerated files routeRows dispatchRows stopRows) : AppData D).routes =
      ((keptRows (readRows 7 routeRows)).map
        (generatedRoute (loadedData (withGenerated files routeRows dispatchRows stopRows) : AppData D)
          (dispatchNames (readRows 5 dispatchRows)) (stopNames stopRows))).reverse := by
  obtain ⟨g, hdata⟩ := dataLoaderLoad_records (D := D) (withGenerated files routeRows dispatchRows stopRows)
  have hroutes : (networkBase (withGenerated files routeRows dispatchRows stopRows) : AppData D).routes = _ :=
    networkBase_generated h (networkBase (withGenerated files routeRows dispatchRows stopRows))
  have hfound : ∀ row ∈ keptRows (readRows 7 routeRows),
      (findRouteByNo (networkBase (withGenerated files routeRows dispatchRows stopRows) : AppData D)
        (encode (column? row 0))).isNone = false := by
    intro row hrow
    rw [findRouteByNo_isNone, hroutes, Bool.not_eq_false', List.contains_iff_mem]
    exact List.mem_map.mpr ⟨_, List.mem_reverse.mpr (List.mem_map_of_mem hrow), routeNo_keptRows h hrow⟩
  have haccepted : routeStopsAccepted (withGenerated files routeRows dispatchRows stopRows) _ = _ :=
    routeStopsAccepted_generated h hfound
  show (dataLoaderLoad (withGenerated files routeRows dispatchRows stopRows) : AppData D × Bool).1.routes = _
  unfold loadedData
  rw [hdata]
  show (networkBase (withGenerated files routeRows dispatchRows stopRows) : AppData D).routes.map
    (fillRoute (routeStopsAccepted (withGenerated files routeRows dispatchRows stopRows) _)) = _
  rw [haccepted, hroutes, List.map_reverse, List.map_map]
  exact congrArg List.reverse (List.map_congr_left fun row hrow => fillRoute_generated h hrow)

end Store

/-- A route of the exported files. -/
def exportedRow : List PyStr :=
  [" 100 ".toList, "역_시청 방면".toList, [], [], "11".toList, "12".toList, []]

theorem generateBusRoutes_loaded_row :
    (loadedData (withGenerated ⟨none, none, none, none, none, none, none, none⟩ [exportedRow]
      [["100".toList, "100".toList, [], "1".toList, []]] []) : AppData ℚ).routes.map
        (fun route => (route.routeNo.val, route.routeName.val, route.startStopId.val)) =
      [(utf8 "100", utf8 "100번", utf8 "11")] := by
  have hread : readRows 7 [exportedRow] = [exportedRow.map strip] := by decide +kernel
  have hkept : keptRows (readRows 7 [exportedRow]) = [exportedRow.map strip] := by
    rw [hread]
    unfold keptRows sortedRows
    rw [List.mergeSort_singleton]
    decide +kernel
  have hrows : ExportedRows [exportedRow] [["100".toList, "100".toList, [], "1".toList, []]] [] := by
    refine ⟨by decide +kernel, by decide +kernel, by decide, ?_, ?_⟩
    · rw [hkept]
      exact List.nodup_singleton _
    · rw [hkept]
      decide +kernel
  rw [generateBusRoutes_loaded hrows, hkept]
  decide +kernel

end Transit
