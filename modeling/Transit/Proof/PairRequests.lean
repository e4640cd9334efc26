import Transit.Proof.ClientRequests
import Transit.Proof.ListText
import Transit.Proof.Trimming
import Transit.Server.Router

/-!
# Requests of two fields

The path search and the facility list send two console inputs joined with `:`;
the server copies the body into 256 bytes, cuts it at the first `:` and trims
both sides (`requestPair`).

* `menuPairs_iff`: it gets back what was typed exactly when there is no `:` in
  the first input and both fit its copy (`PairFits`).
-/

namespace Transit

open Framework

/-- The two texts that `handle_transfer` and `handle_facility` take out of a
request body. -/
def requestPair (body : Str) : Option (Str × Str) :=
  (cutAt itemSep (safeStrcpy 256 body)).map fun p => (strTrim p.1, strTrim p.2)

/-- A text that is not trimmed any further at its front: no blank and no byte order mark there. -/
structure Flush (s : Str) : Prop where
  head : ∀ b, s.head? = some b → isspace b = false
  bom : bom.isPrefixOf s = false

/-- Inputs that the server gets back as they were typed. -/
structure PairFits (a b : Str) : Prop where
  colon : itemSep ∉ a
  fits : a.length + 1 + b.length ≤ 255
  left : Flush a
  right : Flush b

/-! ## What the handlers do with the pair -/

section

variable {D : Type} [CDouble D]

theorem handleTransfer_pair (mem : Bool) (data : AppData D) (body : Str) (size : Nat) :
    handleTransfer mem data body size =
      if strIsBlank body then invalidRequestReply size
      else
        match requestPair body with
        | none => invalidRequestReply size
        | some (a, b) =>
          match (resolveNodeByKeyword data a).bind fun i =>
              (resolveNodeByKeyword data b).bind fun j => graphFindPath mem data.graph i j with
          | none => notFoundReply size pktTransferRes
          | some path => ⟨.ok, transferResponse data path size⟩ := by
  unfold handleTransfer requestPair
  by_cases hblank : strIsBlank body = true
  · rw [if_pos hblank, if_pos hblank]
  · rw [if_neg hblank, if_neg hblank]
    cases cutAt itemSep (safeStrcpy 256 body) with
    | none => rfl
    | some texts =>
      have hpath : transferPath mem data texts.1 texts.2 =
          (resolveNodeByKeyword data (strTrim texts.1)).bind fun i =>
            (resolveNodeByKeyword data (strTrim texts.2)).bind fun j => graphFindPath mem data.graph i j := by
        unfold transferPath
        cases resolveNodeByKeyword data (strTrim texts.1) with
        | none => rfl
        | some i => cases resolveNodeByKeyword data (strTrim texts.2) <;> rfl
      rw [Option.map_some]
      exact congrArg (fun path : Option GraphPath => match path with
        | none => notFoundReply size pktTransferRes
        | some path => ⟨.ok, transferResponse data path size⟩) hpath

omit [CDouble D] in
theorem handleFacility_pair (data : AppData D) (body : Str) (size : Nat) :
    handleFacility data body size =
      if strIsBlank body then invalidRequestReply size
      else
        match requestPair body with
        | none => invalidRequestReply size
        | some (place, category) =>
          match resolveNodeId data place with
          | none => notFoundReply size pktFacilityRes
          | some nodeId =>
            let (response, count) := appendFacilities size nodeId category data.facilities
              (snprintf size (header pktFacilityRes .ok)) 0
            if count = 0 then notFoundReply size pktFacilityRes
            else ⟨.ok, (strAppend response size [packetTerm]).1⟩ := by
  unfold handleFacility requestPair
  by_cases hblank : strIsBlank body = true
  · rw [if_pos hblank, if_pos hblank]
  · rw [if_neg hblank, if_neg hblank]
    cases cutAt itemSep (safeStrcpy 256 body) with
    | none => rfl
    | some texts => rfl

end

/-! ## The console and the wire -/

/-- A console input: no byte that ends a line or a string, no blank at its end,
and short enough for its buffer. -/
structure ConsoleInput (size : Nat) (s : Str) : Prop where
  plain : Plain s
  noNul : 0 ∉ s
  last : ∀ b, s.getLast? = some b → isspace b = false
  fits : s.length ≤ size - 1

theorem consoleInput {size : Nat} (hs : 1 < size) {console rest : List Byte} {s : Str}
    (h : readLinePrompt size console = some (s, rest)) : ConsoleInput size s := by
  obtain ⟨hplain, hlen, -⟩ := readLinePrompt_spec hs h
  unfold readLinePrompt at h
  cases hline : fgets size console with
  | none =>
    rw [hline] at h
    cases h
  | some line =>
    rw [hline] at h
    cases h
    refine ⟨hplain, fun hm => ?_, fun b hb => strTrim_last hb, hlen⟩
    have hcstr := (List.rdropWhile_prefix _ _).subset (strTrim_subset _ hm)
    exact absurd (List.mem_takeWhile_imp hcstr) (by decide)

/-- A text that ends in no blank ends in no line end. -/
theorem ConsoleInput.stripNewline_eq {size : Nat} {s : Str} (h : ConsoleInput size s) : stripNewline s = s := by
  rw [stripNewline_eq_self_iff]
  intro b hb
  have hlast := h.last b hb
  constructor
  · rintro rfl
    revert hlast
    decide
  · rintro rfl
    revert hlast
    decide

/-- A name in front of a request that the server takes off whole. -/
structure PacketName (packet : Str) : Prop where
  noNul : 0 ∉ packet
  noSep : fieldSep ∉ packet
  short : packet.length ≤ 20
  start : ∃ c rest, packet = c :: rest ∧ (c == 0xEF) = false

/-- The server takes a request line apart as the client has put it together. -/
theorem splitRequest_requestLine {packet body : Str} (hp : PacketName packet) (hnul : 0 ∉ body)
    (hstrip : stripNewline body = body) (hlen : body.length ≤ 32000) :
    splitRequest (requestLine packet body) = (packet, body) := by
  have hsize : maxPacketSize = 32768 := rfl
  obtain ⟨hzero, hsep, hshort, c, rest, hcons, hc⟩ := hp
  have hlength : (packet ++ [fieldSep] ++ body ++ [packetTerm]).length ≤ maxPacketSize - 1 := by
    simp only [List.length_append, List.length_singleton]
    omega
  have hcstr : cstr (packet ++ [fieldSep] ++ body ++ [packetTerm]) = packet ++ [fieldSep] ++ body ++ [packetTerm] := by
    refine cstr_of_not_mem ?_
    simp only [List.mem_append, List.mem_singleton, not_or]
    exact ⟨⟨⟨hzero, by decide⟩, hnul⟩, by decide⟩
  have hself : stripNewline (packet ++ [fieldSep]) = packet ++ [fieldSep] := by
    rw [stripNewline_eq_self_iff, List.getLast?_concat]
    intro b hb
    cases hb
    decide
  have hline : stripNewline (packet ++ [fieldSep] ++ body ++ [packetTerm]) = packet ++ [fieldSep] ++ body :=
    stripNewline_concat (by rw [stripNewline_append_right hself, hstrip])
  have hbom : bom.isPrefixOf (packet ++ [fieldSep] ++ body) = false := by
    rw [hcons]
    show (0xEF == c && _) = false
    rw [Bool.beq_comm, hc, Bool.false_and]
  unfold splitRequest requestLine
  rw [snprintf_of_le hlength, hcstr, show safeStrcpy maxPacketSize _ = _ from snprintf_of_le hlength, hline]
  dsimp only
  rw [hbom, List.append_assoc, List.singleton_append, cutAt_append hsep]
  rfl

/-- The packet names of two-field requests. -/
def pairRequests : List Str := [pktTransferReq, pktFacilityReq]

theorem packetName_pairRequests : ∀ packet ∈ pairRequests, PacketName packet := by
  unfold pairRequests
  simp only [List.forall_mem_cons]
  exact ⟨⟨by decide, by decide, by decide, _, _, rfl, rfl⟩, ⟨by decide, by decide, by decide, _, _, rfl, rfl⟩,
    List.forall_mem_nil _⟩

/-! ## The pair -/

theorem Flush.strTrim_eq {s : Str} (h : Flush s) (hlast : ∀ b, s.getLast? = some b → isspace b = false) :
    strTrim s = s := strTrim_eq_self h.head h.bom hlast

theorem Flush.of_strTrim {s : Str} (h : strTrim s = s) : Flush s := by
  obtain ⟨hhead, hbom, -⟩ := strTrim_eq_self_iff.mp h
  exact ⟨hhead, hbom⟩

/-- The server gets two inputs back exactly when they fit. -/
theorem requestPair_eq_iff {a b : Str} (ha : ConsoleInput 256 a) (hb : ConsoleInput 256 b) (hne : b ≠ []) :
    requestPair (a ++ [itemSep] ++ b) = some (a, b) ↔ PairFits a b := by
  have hla := ha.fits
  have hcopy : safeStrcpy 256 (a ++ [itemSep] ++ b) = a.take 255 ++ (itemSep :: b).take (255 - a.length) := by
    unfold safeStrcpy snprintf
    rw [List.append_assoc, List.singleton_append, List.take_append]
  rw [List.take_of_length_le hla] at hcopy
  unfold requestPair
  rw [hcopy]
  constructor
  · intro h
    obtain ⟨parts, hcut, hparts⟩ := Option.map_eq_some_iff.mp h
    obtain ⟨heq, hfree⟩ := cutAt_eq_some.mp hcut
    rw [Prod.mk.injEq] at hparts
    obtain ⟨hleft, hright⟩ := hparts
    have hlen := congrArg List.length heq
    have h1 : a.length ≤ parts.1.length := by
      have htrim := length_strTrim_le parts.1
      rwa [hleft] at htrim
    have h2 : b.length ≤ parts.2.length := by
      have htrim := length_strTrim_le parts.2
      rwa [hright] at htrim
    have htake := List.length_take_le (255 - a.length) (itemSep :: b)
    have hpos := List.length_pos_of_ne_nil hne
    simp only [List.length_append, List.length_cons] at hlen
    -- the sides are no longer than the inputs, so they are the inputs
    have htotal : (a ++ (itemSep :: b).take (255 - a.length)).length ≤ a.length + 1 + b.length := by
      have hall := List.length_take_le' (255 - a.length) (itemSep :: b)
      rw [List.length_append]
      rw [List.length_cons] at hall
      omega
    rw [List.length_append] at htotal
    have hsame : a.length = parts.1.length := by omega
    obtain ⟨hfst, hsnd⟩ := List.append_inj heq hsame
    have hroom : a.length + 1 + b.length ≤ 255 := by
      rw [hsnd, List.length_cons] at htake
      omega
    have hb2 : parts.2 = b := by
      have hle : b.length + 1 ≤ ((itemSep :: b).take (255 - a.length)).length := by
        rw [hsnd, List.length_cons]
        omega
      have hwhole := (List.take_prefix (255 - a.length) (itemSep :: b)).eq_of_length_le (by simpa using hle)
      rw [hwhole, List.cons.injEq] at hsnd
      exact hsnd.2.symm
    rw [← hfst] at hleft hfree
    rw [hb2] at hright
    refine ⟨hfree, hroom, Flush.of_strTrim hleft, Flush.of_strTrim hright⟩
  · rintro ⟨hcolon, hfits, hl, hr⟩
    rw [List.take_of_length_le (by rw [List.length_cons]; omega), cutAt_append hcolon, Option.map_some,
      hl.strTrim_eq ha.last, hr.strTrim_eq hb.last]

/-- Two inputs in one request line, as the server takes it apart. -/
theorem splitRequest_pair {packet a b : Str} (hp : packet ∈ pairRequests) (ha : ConsoleInput 256 a)
    (hb : ConsoleInput 256 b) (hne : b ≠ []) :
    splitRequest (requestLine packet (a ++ [itemSep] ++ b)) = (packet, a ++ [itemSep] ++ b) := by
  have hla := ha.fits
  have hlb := hb.fits
  refine splitRequest_requestLine (packetName_pairRequests packet hp) ?_ (stripNewline_append hb.stripNewline_eq hne) ?_
  · simp only [List.mem_append, List.mem_singleton, not_or]
    exact ⟨⟨ha.noNul, by decide⟩, hb.noNul⟩
  · simp only [List.length_append, List.length_singleton]
    omega

theorem ne_nil_of_not_blank {s : Str} (h : strIsBlank s = false) : s ≠ [] := by
  rintro rfl
  cases h

theorem consoleInput_all : ConsoleInput 256 (utf8 "all") where
  plain := by decide
  noNul := by decide
  last b hb := by
    cases hb
    decide
  fits := by decide

/-- What the two menus send of two inputs, and what the server takes out of it:
the inputs themselves exactly when they fit. -/
theorem menuPairs_iff {console rest rest' : List Byte} {a b : Str}
    (ha : readLinePrompt 256 console = some (a, rest)) (hb : readLinePrompt 256 rest = some (b, rest'))
    (hblank : strIsBlank a = false) :
    (strIsBlank b = false → ∃ request,
      runRouteSearchMenu 256 console = ([request], rest') ∧ (splitRequest request).1 = pktTransferReq ∧
        (requestPair (splitRequest request).2 = some (a, b) ↔ PairFits a b)) ∧
    ∃ request, runFacilityMenu 256 console = ([request], rest') ∧ (splitRequest request).1 = pktFacilityReq ∧
      (requestPair (splitRequest request).2 = some (a, if strIsBlank b then utf8 "all" else b) ↔
        PairFits a (if strIsBlank b then utf8 "all" else b)) := by
  have hia := consoleInput (by decide) ha
  have hib := consoleInput (by decide) hb
  constructor
  · intro hnb
    have hne := ne_nil_of_not_blank hnb
    have hsplit := splitRequest_pair (by decide : pktTransferReq ∈ pairRequests) hia hib hne
    refine ⟨requestLine pktTransferReq (a ++ [itemSep] ++ b), ?_, ?_, ?_⟩
    · unfold runRouteSearchMenu
      simp only [ha, hb, hblank, hnb, Bool.or_self, Bool.false_eq_true, ↓reduceIte]
    · rw [hsplit]
    · rw [hsplit]
      exact requestPair_eq_iff hia hib hne
  · have hcategory : ConsoleInput 256 (if strIsBlank b then utf8 "all" else b) ∧
        (if strIsBlank b then utf8 "all" else b) ≠ [] := by
      by_cases hnb : strIsBlank b = true
      · rw [if_pos hnb]
        exact ⟨consoleInput_all, by decide⟩
      · rw [if_neg hnb]
        exact ⟨hib, ne_nil_of_not_blank (Bool.eq_false_iff.mpr hnb)⟩
    have hall : safeStrcpy 256 (utf8 "all") = utf8 "all" := by decide
    have hsplit := splitRequest_pair (by decide : pktFacilityReq ∈ pairRequests) hia hcategory.1 hcategory.2
    refine ⟨requestLine pktFacilityReq (a ++ [itemSep] ++ if strIsBlank b then utf8 "all" else b), ?_, ?_, ?_⟩
    · unfold runFacilityMenu
      simp only [ha, hb, hblank, hall, Bool.false_eq_true, ↓reduceIte]
    · rw [hsplit]
    · rw [hsplit]
      exact requestPair_eq_iff hia hcategory.1 hcategory.2

/-- Two plain names. -/
theorem menuPairs_names : ∃ request,
    runRouteSearchMenu 256 (utf8 "Asan\nCheonan\n") = ([request], []) ∧
      requestPair (splitRequest request).2 = some (utf8 "Asan", utf8 "Cheonan") := by
  have ha : readLinePrompt 256 (utf8 "Asan\nCheonan\n") = some (utf8 "Asan", utf8 "Cheonan\n") := by decide
  have hb : readLinePrompt 256 (utf8 "Cheonan\n") = some (utf8 "Cheonan", []) := by decide
  obtain ⟨request, hsent, -, hpair⟩ := (menuPairs_iff ha hb (by decide)).1 (by decide)
  refine ⟨request, hsent, hpair.mpr ?_⟩
  exact ⟨by decide, by decide, Flush.of_strTrim (by decide), Flush.of_strTrim (by decide)⟩

/-- A start with a `:` in it reaches the server as another pair of places. -/
theorem menuPairs_colon : ∃ request,
    runRouteSearchMenu 256 (utf8 "Gate 1:B\nCheonan\n") = ([request], []) ∧
      requestPair (splitRequest request).2 = some (utf8 "Gate 1", utf8 "B:Cheonan") :=
  ⟨utf8 "TRANSFER_REQ|Gate 1:B:Cheonan\n", by decide⟩

end Transit
