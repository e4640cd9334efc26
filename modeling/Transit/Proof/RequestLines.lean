import Transit.Proof.Framing
import Transit.Server.ClientHandler

/-!
# One request line, one response

`handle_client` on a stream cut into lines. A line of at most `MAX_PACKET_SIZE`
bytes gives one event (`handleClient_line`); a longer one gives more, because
what follows its first `MAX_PACKET_SIZE` bytes is taken for a line of its own
(`handleClient_overlong`). `answers` are the events that the protocol asks for;
`handleClient_answers_iff` says for which streams they are what happens.
-/

namespace Transit

open Framework

variable {D : Type} [CDouble D]

/-- The answer to one line: it is routed, or refused when it is too long. -/
def answer (data : AppData D) (s : Session) (line : List Byte) : Event × Session :=
  if line.length ≤ maxPacketSize - 1 then
    let (response, s) := s.route data line
    (.routed line response, s)
  else (.tooLong (invalidRequestReply maxPacketSize).response, s)

/-- The answers to lines that come one after the other. -/
def answers (data : AppData D) : Session → List (List Byte) → List Event
  | _, [] => []
  | s, line :: lines => (answer data s line).1 :: answers data (answer data s line).2 lines

/-- The session after these requests, one after the other. -/
def servedSession (data : AppData D) (session : Session) (requests : List (List Byte)) : Session :=
  requests.foldl (fun session request => (session.route data request).2) session

/-- Every complete line of the stream is answered by one packet, the tail of
the stream by none. -/
def OneResponsePerLine (data : AppData D) (s : Session) (stream : List Byte) : Prop :=
  (handleClient data ⟨[], s⟩ stream).1 = answers data s (cutLines isNewline stream).1 ∧
    ∀ event ∈ (handleClient data ⟨[], s⟩ stream).1, event.sent ≠ []

/-! ## Runs of the loop -/

variable (data : AppData D)

theorem handleClient_cons (h : Handler) (ch : Byte) (rest : List Byte) :
    handleClient data h (ch :: rest) =
      ((h.receive data ch).2.toList ++ (handleClient data (h.receive data ch).1 rest).1,
        (handleClient data (h.receive data ch).1 rest).2) := rfl

theorem handleClient_append (h : Handler) (s t : List Byte) :
    handleClient data h (s ++ t) =
      ((handleClient data h s).1 ++ (handleClient data (handleClient data h s).2 t).1,
        (handleClient data (handleClient data h s).2 t).2) := by
  induction s generalizing h with
  | nil => rfl
  | cons ch s ih =>
    rw [List.cons_append, handleClient_cons, handleClient_cons, ih]
    simp only [List.append_assoc]

theorem Handler.receive_byte {h : Handler} {ch : Byte} (hn : isNewline ch = false)
    (hroom : h.request.length + 1 < maxPacketSize) :
    h.receive data ch = ({ h with request := h.request ++ [ch] }, none) := by
  have hne : ch ≠ packetTerm := fun he => by rw [he] at hn; cases hn
  unfold Handler.receive
  rw [if_neg (show ¬ h.request.length + 1 ≥ maxPacketSize by omega)]
  exact if_neg hne

theorem Handler.receive_newline {h : Handler} {ch : Byte} (hn : isNewline ch = true)
    (hroom : h.request.length + 1 < maxPacketSize) :
    h.receive data ch = (⟨[], (h.session.route data (h.request ++ [ch])).2⟩,
      some (.routed (h.request ++ [ch]) (h.session.route data (h.request ++ [ch])).1)) := by
  have he : ch = packetTerm := by simpa [isNewline] using hn
  unfold Handler.receive
  rw [if_neg (show ¬ h.request.length + 1 ≥ maxPacketSize by omega)]
  exact if_pos he

theorem Handler.receive_full {h : Handler} (hfull : maxPacketSize ≤ h.request.length + 1) (ch : Byte) :
    h.receive data ch =
      (⟨[], h.session⟩, some (.tooLong (invalidRequestReply maxPacketSize).response)) := by
  unfold Handler.receive
  exact if_pos hfull

/-- Bytes without a newline, as long as there is room for them. -/
theorem handleClient_fill {s : List Byte} (hs : ∀ b ∈ s, isNewline b = false) (h : Handler)
    (hroom : h.request.length + s.length < maxPacketSize) :
    handleClient data h s = ([], { h with request := h.request ++ s }) := by
  induction s generalizing h with
  | nil => rw [List.append_nil]; rfl
  | cons ch s ih =>
    rw [List.length_cons] at hroom
    rw [handleClient_cons, h.receive_byte data (hs ch (List.mem_cons_self ..)) (by omega),
      ih (fun b hb => hs b (List.mem_cons_of_mem _ hb)) _ (by
        show (h.request ++ [ch]).length + s.length < maxPacketSize
        rw [List.length_append, List.length_singleton]; omega)]
    simp only [Option.toList_none, List.nil_append, List.append_assoc, List.singleton_append]

/-- The first `MAX_PACKET_SIZE` bytes of a longer line are answered at once, and
forgotten: the loop goes on as after a whole line. -/
theorem handleClient_overlong {s : List Byte} (hs : ∀ b ∈ s, isNewline b = false)
    (hlen : s.length = maxPacketSize - 1) (session : Session) (ch : Byte) (rest : List Byte) :
    handleClient data ⟨[], session⟩ (s ++ ch :: rest) =
      (.tooLong (invalidRequestReply maxPacketSize).response :: (handleClient data ⟨[], session⟩ rest).1,
        (handleClient data ⟨[], session⟩ rest).2) := by
  have hsize : maxPacketSize = 32768 := rfl
  have hroom : ([] : List Byte).length + s.length < maxPacketSize := by rw [List.length_nil]; omega
  rw [handleClient_append, handleClient_fill data hs ⟨[], session⟩ hroom, handleClient_cons,
    Handler.receive_full data (show maxPacketSize ≤ ([] ++ s).length + 1 by rw [List.nil_append]; omega)]
  rfl

/-! ## One line -/

/-- A line of at most `MAX_PACKET_SIZE` bytes gives its answer. -/
theorem handleClient_line {line : List Byte} (hline : Ended isNewline line)
    (hlen : line.length ≤ maxPacketSize) (session : Session) :
    handleClient data ⟨[], session⟩ line =
      ([(answer data session line).1], ⟨[], (answer data session line).2⟩) := by
  obtain ⟨body, e, rfl, he, hb⟩ := hline
  rw [List.length_append, List.length_singleton] at hlen
  unfold answer
  by_cases hfit : (body ++ [e]).length ≤ maxPacketSize - 1
  · rw [if_pos hfit]
    rw [List.length_append, List.length_singleton] at hfit
    rw [handleClient_append, handleClient_fill data hb _ (by show 0 + body.length < maxPacketSize; omega),
      handleClient_cons, Handler.receive_newline data he (by
        show ([] ++ body).length + 1 < maxPacketSize
        rw [List.nil_append]; omega)]
    rfl
  · rw [if_neg hfit]
    rw [List.length_append, List.length_singleton] at hfit
    rw [handleClient_overlong data hb (by omega)]
    rfl

theorem servedSession_append (session : Session) (as bs : List (List Byte)) :
    servedSession data session (as ++ bs) = servedSession data (servedSession data session as) bs :=
  List.foldl_append

/-- Requests that the buffer takes whole are served one after the other; what is
cut off behind them leaves nothing. -/
theorem handleClient_served {lines : List (List Byte)} (hlines : ∀ l ∈ lines, IsLine isNewline (maxPacketSize - 1) l)
    {tail : List Byte} (htail : ∀ b ∈ tail, isNewline b = false) (hfits : tail.length < maxPacketSize)
    (session : Session) :
    (handleClient data ⟨[], session⟩ (lines.flatten ++ tail)).2.session = servedSession data session lines := by
  induction lines generalizing session with
  | nil =>
    rw [List.flatten_nil, List.nil_append, handleClient_fill data htail _ (by
      rw [List.length_nil, Nat.zero_add]; exact hfits)]
    rfl
  | cons line lines ih =>
    obtain ⟨hended, hlen⟩ := hlines line (List.mem_cons_self ..)
    have hanswer : (answer data session line).2 = (session.route data line).2 := by
      unfold answer
      rw [if_pos hlen]
    rw [List.flatten_cons, List.append_assoc, handleClient_append, handleClient_line data hended (by omega), hanswer]
    exact ih (fun l hl => hlines l (List.mem_cons_of_mem _ hl)) _

theorem handleClient_requests {lines : List (List Byte)}
    (hlines : ∀ l ∈ lines, IsLine isNewline (maxPacketSize - 1) l) (session : Session) :
    (handleClient data ⟨[], session⟩ lines.flatten).2.session = servedSession data session lines := by
  have hnone : ∀ b ∈ ([] : List Byte), isNewline b = false := fun b hb => by cases hb
  have hserved := handleClient_served data hlines hnone (by decide) session
  rwa [List.append_nil] at hserved

/-- Each of them is answered in the session that those before it have left. -/
theorem answers_getElem? {lines : List (List Byte)} (hlines : ∀ l ∈ lines, l.length ≤ maxPacketSize - 1)
    (session : Session) (j : Nat) :
    (answers data session lines)[j]? = lines[j]?.map fun line =>
      .routed line ((servedSession data session (lines.take j)).route data line).1 := by
  induction lines generalizing session j with
  | nil => rfl
  | cons line lines ih =>
    have hanswer : answer data session line = (.routed line (session.route data line).1, (session.route data line).2) :=
      if_pos (hlines line (List.mem_cons_self ..))
    rw [answers, hanswer]
    cases j with
    | zero => rfl
    | succ j => exact ih (fun l hl => hlines l (List.mem_cons_of_mem _ hl)) _ j

/-- A longer one gives more than one event. -/
theorem handleClient_line_events {line : List Byte} (hline : Ended isNewline line) (session : Session) :
    ∃ events s, handleClient data ⟨[], session⟩ line = (events, ⟨[], s⟩) ∧ events ≠ [] ∧
      (maxPacketSize < line.length → 1 < events.length) := by
  have hsize : maxPacketSize = 32768 := rfl
  induction hn : line.length using Nat.strongRecOn generalizing line with
  | ind n ih =>
    by_cases hlen : line.length ≤ maxPacketSize
    · exact ⟨_, _, handleClient_line data hline hlen session, List.cons_ne_nil _ _, fun hlt => by omega⟩
    · -- the rest of the line, behind the byte that did not fit, is a line again
      obtain ⟨body, e, rfl, he, hb⟩ := hline
      rw [List.length_append, List.length_singleton] at hlen hn
      obtain ⟨ch, rest, hdrop⟩ : ∃ ch rest, body.drop (maxPacketSize - 1) = ch :: rest :=
        List.exists_cons_of_ne_nil (by rw [← List.length_pos_iff, List.length_drop]; omega)
      have hbody : body = body.take (maxPacketSize - 1) ++ ch :: rest := by
        rw [← hdrop, List.take_append_drop]
      have hrest : ∀ b ∈ rest, isNewline b = false := fun b hb' =>
        hb b (by rw [hbody]; exact List.mem_append_right _ (List.mem_cons_of_mem _ hb'))
      have hlt : (rest ++ [e]).length < n := by
        have hsum := congrArg List.length hbody
        rw [List.length_append, List.length_cons] at hsum
        rw [List.length_append, List.length_singleton]
        omega
      obtain ⟨events, s, hrun, hne, -⟩ := ih _ hlt ⟨rest, e, rfl, he, hrest⟩ rfl
      have hlong := handleClient_overlong data (fun b hb' => hb b (List.mem_of_mem_take hb'))
        (show (body.take (maxPacketSize - 1)).length = maxPacketSize - 1 by rw [List.length_take]; omega)
        session ch (rest ++ [e])
      rw [hrun, ← List.cons_append, ← List.append_assoc, ← hbody] at hlong
      exact ⟨_, _, hlong, List.cons_ne_nil _ _, fun _ => Nat.succ_lt_succ (List.length_pos_iff.mpr hne)⟩

/-- What is left of a stream behind its lines gives no event, as long as it
leaves room in the buffer. -/
theorem handleClient_tail {tail : List Byte} (htail : ∀ b ∈ tail, isNewline b = false) (session : Session) :
    (handleClient data ⟨[], session⟩ tail).1 = [] ↔ tail.length < maxPacketSize := by
  have hsize : maxPacketSize = 32768 := rfl
  constructor
  · intro hnil
    by_contra hlen
    obtain ⟨ch, rest, hdrop⟩ : ∃ ch rest, tail.drop (maxPacketSize - 1) = ch :: rest :=
      List.exists_cons_of_ne_nil (by rw [← List.length_pos_iff, List.length_drop]; omega)
    rw [← List.take_append_drop (maxPacketSize - 1) tail, hdrop, handleClient_overlong data
      (fun b hb => htail b (List.mem_of_mem_take hb)) (by rw [List.length_take]; omega)] at hnil
    cases hnil
  · intro hlen
    rw [handleClient_fill data htail _ (by show 0 + tail.length < maxPacketSize; omega)]

/-! ## Whole streams -/

@[simp] theorem length_answers (session : Session) (lines : List (List Byte)) :
    (answers data session lines).length = lines.length := by
  induction lines generalizing session with
  | nil => rfl
  | cons line lines ih => simp only [answers, List.length_cons, ih]

theorem le_length_handleClient {lines : List (List Byte)} (hlines : ∀ l ∈ lines, Ended isNewline l)
    (tail : List Byte) (session : Session) :
    lines.length ≤ (handleClient data ⟨[], session⟩ (lines.flatten ++ tail)).1.length := by
  induction lines generalizing session with
  | nil => exact Nat.zero_le _
  | cons line lines ih =>
    obtain ⟨events, s, hrun, hne, -⟩ := handleClient_line_events data (hlines line (List.mem_cons_self ..)) session
    have hrest := ih (fun l hl => hlines l (List.mem_cons_of_mem _ hl)) s
    have hpos := List.length_pos_iff.mpr hne
    rw [List.flatten_cons, List.append_assoc, handleClient_append, hrun]
    dsimp only
    rw [List.length_append, List.length_cons]
    omega

theorem handleClient_eq_answers_iff {lines : List (List Byte)} (hlines : ∀ l ∈ lines, Ended isNewline l)
    {tail : List Byte} (htail : ∀ b ∈ tail, isNewline b = false) (session : Session) :
    (handleClient data ⟨[], session⟩ (lines.flatten ++ tail)).1 = answers data session lines ↔
      (∀ l ∈ lines, l.length ≤ maxPacketSize) ∧ tail.length < maxPacketSize := by
  induction lines generalizing session with
  | nil =>
    rw [List.flatten_nil, List.nil_append, answers, handleClient_tail data htail]
    exact ⟨fun h => ⟨fun l hl => (by cases hl), h⟩, And.right⟩
  | cons line lines ih =>
    have hline := hlines line (List.mem_cons_self ..)
    have hrest := fun l hl => hlines l (List.mem_cons_of_mem line hl)
    rw [List.flatten_cons, List.append_assoc, handleClient_append, answers, List.forall_mem_cons, and_assoc]
    by_cases hlen : line.length ≤ maxPacketSize
    · rw [handleClient_line data hline hlen, List.singleton_append, List.cons.injEq, ih hrest]
      simp only [hlen, true_and]
    · -- the line alone gives too many events
      obtain ⟨events, s, hrun, -, hmany⟩ := handleClient_line_events data hline session
      have hmore := le_length_handleClient data hrest tail s
      refine ⟨fun heq => ?_, fun h => absurd h.1 hlen⟩
      have hcount := congrArg List.length heq
      rw [hrun] at hcount
      dsimp only at hcount
      rw [List.length_append, List.length_cons, length_answers] at hcount
      have hgt := hmany (by omega)
      omega

omit [CDouble D] in
theorem Packet.ne_nil {response : Str} (h : Packet response) : response ≠ [] := by
  rintro rfl
  rcases h with ⟨⟨body, hb, -⟩, -⟩ | ⟨-, hlen⟩
  · simp at hb
  · cases hlen

variable {data} in
theorem answers_sent (h : LoadedStore data) (session : Session) (lines : List (List Byte)) :
    ∀ event ∈ answers data session lines, event.sent ≠ [] := by
  induction lines generalizing session with
  | nil => intro event he; cases he
  | cons line lines ih =>
    intro event he
    rcases List.mem_cons.mp he with rfl | he
    · unfold answer
      split
      · exact (routeRequest_spec h _ _ line).1.ne_nil
      · show (invalidRequestReply maxPacketSize).response ≠ []
        decide
    · exact ih _ event he

/-- Every line of a stream gets its one response exactly when none is longer than
`MAX_PACKET_SIZE` and what follows the last is shorter. -/
theorem handleClient_oneResponsePerLine_iff (files : CsvFiles) (session : Session) (stream : List Byte) :
    OneResponsePerLine (dataLoaderLoad files : AppData D × Bool).1 session stream ↔
      (∀ line ∈ (cutLines isNewline stream).1, line.length ≤ maxPacketSize) ∧
        (cutLines isNewline stream).2.length < maxPacketSize := by
  have hiff := handleClient_eq_answers_iff (dataLoaderLoad files : AppData D × Bool).1
    (ended_cutLines stream) (cutLines_tail stream) session
  rw [cutLines_flatten] at hiff
  refine Iff.trans ⟨And.left, fun heq => ⟨heq, ?_⟩⟩ hiff
  rw [heq]
  exact answers_sent (loadedStore files) session _

/-- A line of `MAX_PACKET_SIZE` letters and a request to delete a favourite. -/
def overlongLine : List Byte := List.replicate maxPacketSize 65 ++ utf8 "FAVORITE_DELETE_REQ|1\n"

/-- The request at its end is routed. -/
theorem handleClient_not_oneResponsePerLine :
    (cutLines isNewline overlongLine).1 = [overlongLine] ∧
      (∃ response, Event.routed (utf8 "FAVORITE_DELETE_REQ|1\n") response ∈
        (handleClient (dataLoaderLoad (crowdedFiles 1) : AppData ℚ × Bool).1
          ⟨[], ⟨none, none, none, none⟩, fun _ => ⟨.allOk, true, []⟩⟩ overlongLine).1) ∧
      ¬ OneResponsePerLine (dataLoaderLoad (crowdedFiles 1) : AppData ℚ × Bool).1
        ⟨⟨none, none, none, none⟩, fun _ => ⟨.allOk, true, []⟩⟩ overlongLine := by
  generalize (dataLoaderLoad (crowdedFiles 1) : AppData ℚ × Bool).1 = data
  generalize (⟨⟨none, none, none, none⟩, fun _ => ⟨.allOk, true, []⟩⟩ : Session) = session
  have hletters : ∀ b ∈ List.replicate (maxPacketSize - 1) (65 : Byte), isNewline b = false := fun b hb => by
    rw [List.eq_of_mem_replicate hb]; rfl
  have hrequest : Ended isNewline (utf8 "FAVORITE_DELETE_REQ|1\n") :=
    ⟨utf8 "FAVORITE_DELETE_REQ|1", 10, by decide, by decide, not_isNewline_of_plain (by decide)⟩
  have hsplit : overlongLine =
      List.replicate (maxPacketSize - 1) 65 ++ 65 :: utf8 "FAVORITE_DELETE_REQ|1\n" := by
    show List.replicate (maxPacketSize - 1 + 1) 65 ++ utf8 "FAVORITE_DELETE_REQ|1\n" = _
    rw [List.replicate_succ', List.append_assoc, List.singleton_append]
  have hline : (cutLines isNewline overlongLine).1 = [overlongLine] := by
    have hended : Ended isNewline overlongLine := by
      obtain ⟨body, e, hb, he, hn⟩ := hrequest
      refine ⟨List.replicate maxPacketSize 65 ++ body, e, by rw [overlongLine, hb, List.append_assoc], he, ?_⟩
      intro b hb'
      rcases List.mem_append.mp hb' with hb' | hb'
      · rw [List.eq_of_mem_replicate hb']; rfl
      · exact hn b hb'
    have hcut := cutLines_append hended []
    rw [List.append_nil] at hcut
    rw [hcut]
    rfl
  have hevents : (handleClient data ⟨[], session⟩ overlongLine).1 =
      [.tooLong (invalidRequestReply maxPacketSize).response,
        .routed (utf8 "FAVORITE_DELETE_REQ|1\n") (session.route data (utf8 "FAVORITE_DELETE_REQ|1\n")).1] := by
    rw [hsplit, handleClient_overlong data hletters List.length_replicate,
      handleClient_line data hrequest (by decide)]
    rfl
  refine ⟨hline, ?_, fun h => ?_⟩
  · rw [hevents]
    exact ⟨_, List.mem_cons_of_mem _ (List.mem_singleton_self _)⟩
  · have hcount := congrArg List.length h.1
    rw [hevents, hline, length_answers] at hcount
    cases hcount

end Transit
