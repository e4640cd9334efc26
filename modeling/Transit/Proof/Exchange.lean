import Transit.Client.ClientNet
import Transit.Framework.Lockstep
import Transit.Proof.ClientRequests
import Transit.Proof.RequestLines

/-!
# Client and server in lockstep

The client of `menu_loop` and the server of `handle_client` as the two parties
of `Framework.Lockstep`. The server answers a request at its line feed
(`answers_request`), the client stops at the last byte of every response, also
of one that fills its buffer (`whole_of_packet`); so the responses that the
client reads are those to its requests, in order, and nothing is left over
(`connection_lockstep`).
-/

namespace Transit

open Framework

variable {D : Type} [CDouble D]

/-- `handle_client` on one side, `client_recv_line` into a buffer of
`MAX_PACKET_SIZE` on the other. -/
def connection (data : AppData D) : Parties Byte Handler Event where
  serve := Handler.receive data
  bytes := Event.sent
  take := clientRecvByte maxPacketSize

/-- Between two requests the server's buffer is empty. -/
def Handler.Idle (h : Handler) : Prop := h.request = []

theorem feed_connection (data : AppData D) (h : Handler) (s : List Byte) :
    feed (connection data) h s = ((handleClient data h s).2, (handleClient data h s).1) := by
  induction s generalizing h with
  | nil => rfl
  | cons b s ih => rw [feed_cons, ih, handleClient_cons]; rfl

theorem clientRecvByte_more {buf : List Byte} {b : Byte} (hb : b ≠ packetTerm)
    (hroom : buf.length + 2 < maxPacketSize) : clientRecvByte maxPacketSize buf b = (buf ++ [b], false) := by
  unfold clientRecvByte
  dsimp only
  rw [Prod.mk.injEq, List.length_append, List.length_singleton]
  refine ⟨rfl, ?_⟩
  simp only [Bool.or_eq_false_iff, decide_eq_false_iff_not, Bool.not_eq_false', decide_eq_true_eq]
  exact ⟨hb, hroom⟩

theorem clientRecvByte_last {buf : List Byte} {b : Byte} (h : b = packetTerm ∨ maxPacketSize ≤ buf.length + 2) :
    clientRecvByte maxPacketSize buf b = (buf ++ [b], true) := by
  unfold clientRecvByte
  dsimp only
  rw [Prod.mk.injEq, List.length_append, List.length_singleton]
  refine ⟨rfl, ?_⟩
  simp only [Bool.or_eq_true, decide_eq_true_eq, Bool.not_eq_true', decide_eq_false_iff_not]
  rcases h with h | h
  · exact .inl h
  · exact .inr (by omega)

/-- The client reads a response to its end and no further: to its line feed, or
until the buffer is full. -/
theorem whole_of_packet (data : AppData D) {response : Str} (h : Packet response) :
    Whole (connection data) response where
  ne_nil := h.ne_nil
  stops := by
    have hsize : maxPacketSize = 32768 := rfl
    intro body b rest heq
    show clientRecvByte maxPacketSize body b = _
    have hlen := congrArg List.length heq
    rw [List.length_append, List.length_cons] at hlen
    cases rest with
    | nil =>
      refine clientRecvByte_last ?_
      rcases h with ⟨⟨text, ht, -⟩, -⟩ | ⟨-, hfull⟩
      · exact .inl (List.cons.inj (List.append_inj' (heq.symm.trans ht) rfl).2).1
      · rw [hfull, List.length_nil] at hlen
        exact .inr (by omega)
    | cons c rest =>
      rw [List.length_cons] at hlen
      refine clientRecvByte_more (fun hb => ?_) ?_
      · have hmem : packetTerm ∈ response.dropLast := by
          rw [heq, List.dropLast_append_of_ne_nil (List.cons_ne_nil _ _),
            List.dropLast_cons_of_ne_nil (List.cons_ne_nil _ _), hb]
          exact List.mem_append_right _ (List.mem_cons_self ..)
        rcases h with ⟨⟨text, ht, hplain⟩, -⟩ | ⟨hplain, -⟩
        · rw [ht, List.dropLast_concat] at hmem
          exact hplain hmem
        · exact hplain (List.dropLast_subset _ hmem)
      · rcases h with ⟨-, hfits⟩ | ⟨-, hfull⟩ <;> omega

theorem answers_request {data : AppData D} (hdata : LoadedStore data) {r : List Byte} (hr : Request r) :
    Answers (connection data) Handler.Idle (maxPacketSize - 1) r := by
  rintro ⟨request, session⟩ hidle
  cases hidle
  obtain ⟨⟨body, e, rfl, he, hb⟩, hfits⟩ := hr
  rw [List.length_append, List.length_singleton] at hfits
  have hsize : maxPacketSize = 32768 := rfl
  have hpacket := (routeRequest_spec hdata (session.envs 0) session.files (body ++ [e])).1
  have hroom : ([] : List Byte).length + body.length < maxPacketSize := by rw [List.length_nil]; omega
  have hfeed : feed (connection data) ⟨[], session⟩ body = (⟨body, session⟩, []) := by
    rw [feed_connection, handleClient_fill data hb ⟨[], session⟩ hroom]
    rfl
  have hserve : (connection data).serve ⟨body, session⟩ e = _ := Handler.receive_newline data he (by
    show body.length + 1 < maxPacketSize; omega)
  refine ⟨body, e, _, _, _, rfl, hfeed, hserve, rfl, whole_of_packet data hpacket, ?_⟩
  show (routeRequest data (session.envs 0) session.files (body ++ [e]) maxPacketSize).1.response.length ≤
    maxPacketSize - 1
  rcases hpacket with ⟨-, hfits⟩ | ⟨-, hfull⟩ <;> omega

theorem answers_append (data : AppData D) (session : Session) (as bs : List (List Byte)) :
    answers data session as <+: answers data session (as ++ bs) := by
  induction as generalizing session with
  | nil => exact List.nil_prefix
  | cons a as ih => exact List.cons_prefix_cons.mpr ⟨rfl, ih _⟩

/-- On requests that the server takes whole, it does what the protocol asks for. -/
theorem feed_requests (data : AppData D) (session : Session) {requests : List (List Byte)}
    (hr : ∀ r ∈ requests, Request r) :
    (feed (connection data) ⟨[], session⟩ requests.flatten).2 = answers data session requests := by
  have hsize : maxPacketSize = 32768 := rfl
  have hnone : ∀ b ∈ ([] : List Byte), isNewline b = false := fun b hb => by cases hb
  have hiff := handleClient_eq_answers_iff data (fun r h => (hr r h).ended) hnone session
  rw [List.append_nil] at hiff
  rw [feed_connection]
  refine hiff.mpr ⟨fun r h => ?_, by rw [List.length_nil]; omega⟩
  have hfits := (hr r h).fits
  omega

/-- Client and server are in lockstep: the server has answered the first
requests, the client has read the first answers, and between two calls of
`client_recv_line` nothing is left over. -/
structure Lockstep (data : AppData D) (session : Session) (requests : List (List Byte))
    (w : World Byte Handler Event) : Prop where
  produced : w.produced <+: answers data session requests
  got : w.got <+: w.produced.map Event.sent
  between : w.reading = none → w.toServer = [] ∧ w.toClient = [] ∧ w.got.length = w.produced.length

theorem lockstep_of_inStep {data : AppData D} {session : Session} {requests : List (List Byte)}
    (hr : ∀ r ∈ requests, Request r) {w : World Byte Handler Event}
    (h : InStep (connection data) ⟨[], session⟩ requests w) : Lockstep data session requests w where
  produced := by
    have heq := h.produced
    rw [feed_requests data session fun r hm => hr r (List.mem_of_mem_take hm)] at heq
    have hprefix := answers_append data session (requests.take w.produced.length)
      (requests.drop w.produced.length)
    rw [List.take_append_drop, ← heq] at hprefix
    exact hprefix
  got := by
    rw [h.got]
    exact List.take_prefix _ _
  between hn := by
    obtain ⟨hserver, hclient, hlen, -⟩ := h.between hn
    exact ⟨hserver, hclient, hlen⟩

/-- For every store the loader builds and everything that is typed: in whatever
order the two sides go on, they are in lockstep; and when neither is kept
waiting for ever, the client has read the answer to each of its requests, and
no byte is left. -/
theorem connection_lockstep (files : CsvFiles) (session : Session) (console : List Byte) :
    let data := (dataLoaderLoad files : AppData D × Bool).1
    let start := World.start (clientRequests console) ⟨[], session⟩
    (∀ schedule, Lockstep data session (clientRequests console) (run (connection data) schedule start)) ∧
      ∀ schedule : FairSchedule, ∃ n,
        (runFor (connection data) schedule n start).got =
          (answers data session (clientRequests console)).map Event.sent ∧
        (runFor (connection data) schedule n start).toServer = [] ∧
        (runFor (connection data) schedule n start).toClient = [] := by
  intro data start
  have hr := clientRequests_isLine console
  have ha : ∀ r ∈ clientRequests console, Answers (connection data) Handler.Idle (maxPacketSize - 1) r :=
    fun r hm => answers_request (loadedStore files) (hr r hm)
  have hidle : Handler.Idle ⟨[], session⟩ := rfl
  refine ⟨fun schedule => lockstep_of_inStep hr (run_inStep ha hidle schedule), fun schedule => ?_⟩
  obtain ⟨n, hreading, hpending⟩ := finishes ha hidle schedule
  have hstep := run_inStep ha hidle ((List.range n).map schedule.turn)
  obtain ⟨hserver, hclient, hlen, hall⟩ := hstep.between hreading
  refine ⟨n, ?_, hserver, hclient⟩
  have hproduced := hstep.produced
  rw [show (run _ _ _).pending = [] from hpending, List.length_nil, Nat.add_zero] at hall
  rw [hall, List.take_length, feed_requests data session hr] at hproduced
  have hgot := hstep.got
  rw [hlen, hproduced, List.take_of_length_le (by rw [List.length_map])] at hgot
  exact hgot

end Transit
