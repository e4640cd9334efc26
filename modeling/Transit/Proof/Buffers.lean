import Mathlib.Data.Nat.Digits.Lemmas
import Transit.Common.Protocol
import Transit.Common.StringUtils
import Transit.Framework.Packing
import Transit.Proof.LoadedText

/-!
# Appending to the response buffer

`str_append` and `str_appendf` append the whole text while there is room for
it. `Framed` is the documented form of a response; `Roomy` is what the loops
that fill the buffer keep: no line feed yet, and room for one
(`Roomy.complete`).
-/

namespace Transit

open Framework

/-- Exactly one line feed, the last byte. -/
def Framed (response : Str) : Prop := ∃ body, response = body ++ [packetTerm] ∧ Plain body

/-- What the buffer holds while a response is being written. -/
structure Roomy (size : Nat) (response : Str) : Prop where
  plain : Plain response
  room : response.length + 2 ≤ size

/-- A complete response in a buffer. -/
structure Complete (size : Nat) (response : Str) : Prop where
  framed : Framed response
  fits : response.length < size

variable {size : Nat} {response text : Str}

theorem strAppend_of_le (h : response.length + text.length + 1 ≤ size) :
    strAppend response size text = (response ++ text, true) := by
  simp only [strAppend]
  rw [if_neg (by omega)]

theorem strAppend_eq_put (hs : 0 < size) : (strAppend response size text).1 = put (size - 1) response text := by
  simp only [strAppend, put]
  by_cases h : response.length + text.length ≤ size - 1
  · rw [if_neg (by omega), if_pos h]
  · rw [if_pos (by omega), if_neg h]

theorem strAppendf_of_lt (h : response.length + text.length < size) :
    strAppendf response size text = (response ++ text, true) := by
  simp only [strAppendf]
  rw [if_neg (by omega), snprintf_of_le (by omega)]
  simp only [Prod.mk.injEq, true_and, decide_eq_true_eq]
  omega

/-- The text does not fit: the buffer is filled up. -/
theorem strAppendf_of_ge (hr : response.length < size) (h : size ≤ response.length + text.length) :
    strAppendf response size text = (response ++ snprintf (size - response.length) text, false) := by
  simp only [strAppendf]
  rw [if_neg (by omega)]
  simp only [Prod.mk.injEq, true_and, decide_eq_false_iff_not]
  omega

theorem Plain.strAppend (h : Plain response) (ht : Plain text) (size : Nat) :
    Plain (strAppend response size text).1 := by
  simp only [Transit.strAppend]
  split
  · exact h
  · exact plain_append.mpr ⟨h, ht⟩

theorem Plain.strAppendf (h : Plain response) (ht : Plain text) (size : Nat) :
    Plain (strAppendf response size text).1 := by
  simp only [Transit.strAppendf]
  split
  · exact h
  · exact plain_append.mpr ⟨h, ht.snprintf _⟩

/-- The buffer is not overrun. -/
theorem length_strAppend_lt (h : response.length < size) : (strAppend response size text).1.length < size := by
  unfold Transit.strAppend
  by_cases hroom : response.length + text.length + 1 > size
  · rw [if_pos hroom]
    exact h
  · rw [if_neg hroom, List.length_append]
    omega

theorem length_strAppendf_lt (h : response.length < size) : (strAppendf response size text).1.length < size := by
  unfold Transit.strAppendf
  have hcut := List.length_take_le (size - response.length - 1) text
  rw [if_neg (Nat.not_le_of_lt h), List.length_append]
  unfold snprintf
  omega

/-- Appending in terms of pieces. -/
theorem strAppend_eq_piece (hs : 0 < size) :
    (strAppend response size text).1 = (Piece.whole text).put (size - 1) response := strAppend_eq_put hs

theorem strAppendf_eq_piece (h : response.length < size) :
    (strAppendf response size text).1 = (Piece.cut text).put (size - 1) response := by
  unfold Transit.strAppendf snprintf Piece.put
  rw [if_neg (Nat.not_le_of_lt h), Nat.sub_right_comm]

theorem Roomy.complete (h : Roomy size response) :
    Complete size (strAppend response size [packetTerm]).1 := by
  have hr := h.room
  rw [strAppend_of_le (by simp only [List.length_singleton]; omega)]
  exact ⟨⟨response, rfl, h.plain⟩, by simp only [List.length_append, List.length_singleton]; omega⟩

theorem Roomy.append (h : Plain response) (ht : Plain text)
    (hr : response.length + text.length + 2 ≤ size) : Roomy size (response ++ text) :=
  ⟨plain_append.mpr ⟨h, ht⟩, by simp only [List.length_append]; omega⟩

/-- A separator and an item, while there is room for both and a terminator. -/
theorem Roomy.item (h : Roomy size response) {sep : Byte} (hsep : sep ≠ packetTerm) (text : Str)
    (ht : Plain text) (hr : response.length + text.length + 3 ≤ size) (b : Prop) [Decidable b] :
    Roomy size (strAppendf (if b then (strAppend response size [sep]).1 else response) size text).1 ∧
      (strAppendf (if b then (strAppend response size [sep]).1 else response) size text).1.length ≤
        response.length + text.length + 1 := by
  have hs : Plain [sep] := by simpa using hsep
  split
  · rw [strAppend_of_le (by simp only [List.length_singleton]; omega),
      strAppendf_of_lt (by simp only [List.length_append, List.length_singleton]; omega)]
    refine ⟨Roomy.append (plain_append.mpr ⟨h.plain, hs⟩) ht ?_, ?_⟩ <;>
      simp only [List.length_append, List.length_singleton] <;> omega
  · rw [strAppendf_of_lt (by omega)]
    exact ⟨Roomy.append h.plain ht (by omega), by simp only [List.length_append]; omega⟩

/-! ## Headers and messages -/

/-- The packet types of responses. -/
def packetTypes : List Str :=
  [pktHelloRes, pktPong, pktStopSearchRes, pktBusSearchRes, pktSubwaySearchRes, pktTransferRes,
    pktFacilityRes, pktArrivalRes, pktCrowdingRes, pktFavoriteAddRes, pktFavoriteListRes,
    pktFavoriteDeleteRes, pktRecentListRes]

theorem header_spec {packet : Str} (hp : packet ∈ packetTypes) (code : ErrorCode) :
    Plain (header packet code) ∧ (header packet code).length ≤ 25 := by
  have hall : ∀ packet ∈ packetTypes, ∀ code ∈ [ErrorCode.ok, .notFound, .invalidRequest, .dataLoadError,
      .serverError], Plain (header packet code) ∧ (header packet code).length ≤ 25 := by decide
  exact hall packet hp code (by cases code <;> decide)

theorem roomy_header {packet : Str} (hp : packet ∈ packetTypes) (code : ErrorCode) (hs : 27 ≤ size) :
    Roomy size (snprintf size (header packet code)) := by
  obtain ⟨h1, h2⟩ := header_spec hp code
  rw [snprintf_of_le (by omega)]
  exact ⟨h1, by omega⟩

/-- A response in one `snprintf`. -/
theorem complete_snprintf {body : Str} (h : Plain body) (hl : body.length + 1 < size) :
    Complete size (snprintf size (body ++ [packetTerm])) := by
  have hlen : (body ++ [packetTerm]).length ≤ size - 1 := by
    simp only [List.length_append, List.length_singleton]; omega
  rw [snprintf_of_le hlen]
  exact ⟨⟨_, rfl, h⟩, by omega⟩

theorem complete_message {packet : Str} (hp : packet ∈ packetTypes) (code : ErrorCode) (ht : Plain text)
    (hs : text.length + 27 ≤ size) : Complete size (message size packet code text).response := by
  obtain ⟨h1, h2⟩ := header_spec hp code
  refine complete_snprintf (plain_append.mpr ⟨h1, ht⟩) ?_
  simp only [List.length_append]
  omega

theorem complete_notFoundReply {packet : Str} (hp : packet ∈ packetTypes) (hs : 27 ≤ size) :
    Complete size (notFoundReply size packet).response :=
  complete_message hp _ plain_nil (by simpa using hs)

theorem complete_invalidRequestReply (hs : 27 ≤ size) :
    Complete size (invalidRequestReply size).response := by
  have hlen : (pktError ++ [fieldSep] ++ fmtInt ErrorCode.invalidRequest.toInt ++ [itemSep] ++
      utf8 "INVALID_REQUEST").length = 23 := by decide
  exact complete_snprintf (by decide) (by omega)

/-! ## Numbers -/

theorem not_mem_fmtInt {c : Byte} (h : isdigit c = false ∧ c ≠ 45) (n : Int) : c ∉ fmtInt n := by
  have hnat : ∀ m, c ∉ fmtNat m := fun m hm => by
    have hdigit := isdigit_fmtNat m c hm
    rw [h.1] at hdigit
    cases hdigit
  cases n with
  | ofNat n => exact hnat n
  | negSucc n => exact List.not_mem_cons_of_ne_of_not_mem h.2 (hnat _)

theorem plain_fmtInt (n : Int) : Plain (fmtInt n) := not_mem_fmtInt (by decide) n

/-- Digits are ASCII. -/
theorem ascii_of_isdigit {b : Byte} (h : isdigit b = true) : (b < 128 && b != packetTerm) = true := by
  unfold isdigit at h
  rw [Bool.and_eq_true, decide_eq_true_eq, decide_eq_true_eq] at h
  have hterm : packetTerm.toNat = 10 := rfl
  simp only [UInt8.le_iff_toNat_le, UInt8.reduceToNat] at h
  simp only [Bool.and_eq_true, decide_eq_true_eq, bne_iff_ne, UInt8.lt_iff_toNat_lt, ne_eq, ← UInt8.toNat_inj,
    UInt8.reduceToNat]
  omega

theorem length_fmtNat {n k : Nat} (hk : 0 < k) (h : n < 10 ^ k) : (fmtNat n).length ≤ k := by
  simp only [fmtNat]
  split
  · exact hk
  · rw [List.length_map, List.length_reverse]
    exact (Nat.digits_length_le_iff (by decide) n).mpr h

/-- An `int` takes at most eleven characters. -/
theorem length_fmtInt {n : Int} (h : IsInt32 n) : (fmtInt n).length ≤ 11 := by
  obtain ⟨h1, h2⟩ := h
  cases n with
  | ofNat n =>
    have hn : n < 2 ^ 31 := by simp only [Int.ofNat_eq_natCast] at h2; omega
    exact Nat.le_trans (length_fmtNat (k := 10) (by decide) (Nat.lt_trans hn (by decide))) (by decide)
  | negSucc n =>
    have hn : n + 1 ≤ 2 ^ 31 := by omega
    have := length_fmtNat (k := 10) (by decide) (Nat.lt_of_le_of_lt hn (by decide))
    simp only [fmtInt, List.length_cons]
    omega

/-! ## What holds of every text of a response -/

/-- A property that texts have when their parts do, and every line of ASCII has. -/
structure TextProperty (P : Str → Prop) : Prop extends Framework.Joins P where
  ascii : ∀ s, (s.all fun b => b < 128 && b != packetTerm) = true → P s

namespace TextProperty

variable {P : Str → Prop}

theorem header (h : TextProperty P) {packet : Str} (hp : packet ∈ packetTypes) (code : ErrorCode) :
    P (header packet code) := by
  have hall : ∀ packet ∈ packetTypes, ∀ code ∈ [ErrorCode.ok, .notFound, .invalidRequest, .dataLoadError,
      .serverError], ((Transit.header packet code).all fun b => b < 128 && b != packetTerm) = true := by decide
  exact h.ascii _ (hall packet hp code (by cases code <;> decide))

theorem fmtInt (h : TextProperty P) (n : Int) : P (fmtInt n) := by
  refine h.ascii _ (List.all_eq_true.mpr fun b hb => ?_)
  by_cases hd : isdigit b = true ∨ b = 45
  · rcases hd with hd | rfl
    · exact ascii_of_isdigit hd
    · decide
  · rw [not_or, Bool.not_eq_true] at hd
    exact absurd hb (not_mem_fmtInt hd n)

end TextProperty

theorem textProperty_plain : TextProperty Plain where
  nil := plain_nil
  append ha hb := plain_append.mpr ⟨ha, hb⟩
  ascii s h hm := by
    have hterm := List.all_eq_true.mp h _ hm
    exact absurd hterm (by decide)

end Transit
