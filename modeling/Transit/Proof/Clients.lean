import Transit.Framework.Queue
import Transit.Proof.Exchange
import Transit.Server.Server

/-!
# Several clients at one server

The clients of `menu_loop` and the server of `server_run` as the parties of
`Framework.Queue`: while the server has to do with one client, the others may
connect and send their first request, but they are not answered.

* `clients_inTurn`: in whatever order all of them go on, each client is in
  lockstep with the server, which answers it as if the clients had come one
  after the other; when nobody is kept waiting for ever, each of them reads the
  answers to all its requests.
-/

namespace Transit

open Framework

variable {D : Type} [CDouble D]

/-- `handle_client` starts with an empty buffer; files and environments are
those the last connection left. -/
def Handler.accepted (h : Handler) : Handler := ⟨[], h.session⟩

/-- All that a client sends, in a connection of its own. -/
def connectionOf (console : List Byte) : Connection :=
  .client (utf8 "127.0.0.1") (clientRequests console).flatten

/-- The session in which client `i` is accepted, when the clients come one after the other. -/
def sessionBefore (data : AppData D) (session : Session) (consoles : List (List Byte)) (i : Nat) : Session :=
  (serverRun data session ((consoles.take i).map connectionOf)).session

/-- The requests that are served before request `j` of client `i`. -/
def servedBefore (consoles : List (List Byte)) (i j : Nat) : List (List Byte) :=
  (consoles.take i).flatMap clientRequests ++ (clientRequests (consoles[i]?.getD [])).take j

theorem acceptLoop_append (data : AppData D) (session : Session) (as bs : List Connection) :
    (acceptLoop data session (as ++ bs)).session =
      (acceptLoop data (acceptLoop data session as).session bs).session := by
  induction as generalizing session with
  | nil => rfl
  | cons a as ih =>
    cases a with
    | failed lastError => exact ih session
    | client ip stream => exact ih _

theorem acceptLoop_client (data : AppData D) (session : Session) (ip : Str) (stream : List Byte) :
    (acceptLoop data session [.client ip stream]).session = (handleClient data ⟨[], session⟩ stream).2.session := rfl

/-- Connections that are served request by request leave the session of all of these. -/
theorem acceptLoop_served {ι : Type} (data : AppData D) {connect : ι → Connection} {requests : ι → List (List Byte)}
    (h : ∀ x session, (acceptLoop data session [connect x]).session = servedSession data session (requests x))
    (xs : List ι) (session : Session) :
    (acceptLoop data session (xs.map connect)).session = servedSession data session (xs.flatMap requests) := by
  induction xs generalizing session with
  | nil => rfl
  | cons x xs ih =>
    rw [List.map_cons, ← List.singleton_append, acceptLoop_append, h, ih, List.flatMap_cons, servedSession_append]

theorem acceptLoop_connectionOf (data : AppData D) (console : List Byte) (session : Session) :
    (acceptLoop data session [connectionOf console]).session =
      servedSession data session (clientRequests console) := by
  unfold connectionOf
  rw [acceptLoop_client, handleClient_requests data (clientRequests_isLine console)]

theorem sessionBefore_served (data : AppData D) (session : Session) (consoles : List (List Byte)) (i : Nat) :
    sessionBefore data session consoles i =
      servedSession data session ((consoles.take i).flatMap clientRequests) :=
  acceptLoop_served data (acceptLoop_connectionOf data) (consoles.take i) session

theorem acceptedIn_clients (data : AppData D) (session : Session) (consoles : List (List Byte)) (i : Nat) :
    acceptedIn (connection data) Handler.accepted (consoles.map clientRequests) ⟨[], session⟩ i =
      ⟨[], sessionBefore data session consoles i⟩ := by
  induction i with
  | zero => rfl
  | succ i ih =>
    rw [acceptedIn, ih, feed_connection, List.getElem?_map]
    cases hconsole : consoles[i]? with
    | none =>
      have hlen := List.getElem?_eq_none_iff.mp hconsole
      unfold sessionBefore
      rw [List.take_of_length_le (Nat.le_succ_of_le hlen), List.take_of_length_le hlen]
      rfl
    | some console =>
      have htake : consoles.take (i + 1) = consoles.take i ++ [console] := by
        rw [List.take_add_one, hconsole]
        rfl
      unfold sessionBefore serverRun connectionOf
      dsimp only
      rw [htake, List.map_append, List.map_singleton, acceptLoop_append, acceptLoop_client, Option.map_some,
        Option.getD_some, Handler.accepted]

section Hall

variable (files : CsvFiles) (session : Session) (consoles : List (List Byte)) (turns : List HallTurn)

/-- The clients of these consoles, and the server, after these turns. -/
def hallAfter : Hall Byte Handler Event :=
  runHall (connection (dataLoaderLoad files : AppData D × Bool).1) Handler.accepted turns
    (Hall.start (consoles.map clientRequests) ⟨[], session⟩)

theorem answers_clientRequests :
    ∀ requests ∈ consoles.map clientRequests, ∀ r ∈ requests,
      Answers (connection (dataLoaderLoad files : AppData D × Bool).1) Handler.Idle (maxPacketSize - 1) r := by
  intro requests hrequests r hr
  obtain ⟨console, -, rfl⟩ := List.mem_map.mp hrequests
  exact answers_request (loadedStore files) (clientRequests_isLine console r hr)

/-- A client is accepted with an empty buffer. -/
theorem Handler.idle_accepted (h : Handler) : Handler.Idle h.accepted := rfl

variable {files session consoles turns} {i : Nat} {console : List Byte} {w : World Byte Handler Event}

theorem hallAfter_inTurn (hconsole : consoles[i]? = some console)
    (hw : (hallAfter (D := D) files session consoles turns).worlds[i]? = some w) :
    InTurn (connection (dataLoaderLoad files : AppData D × Bool).1) Handler.accepted (consoles.map clientRequests)
      ⟨[], session⟩ (hallAfter (D := D) files session consoles turns) i (clientRequests console) w := by
  have hidle : Handler.Idle ⟨[], session⟩ := rfl
  refine runHall_inTurn (answers_clientRequests files consoles) hidle Handler.idle_accepted turns ?_ hw
  rw [List.getElem?_map, hconsole]
  rfl

/-- The server answers client `i` as if it had served those before it one after the other. -/
theorem hallAfter_produced (hconsole : consoles[i]? = some console)
    (hw : (hallAfter (D := D) files session consoles turns).worlds[i]? = some w) :
    let data := (dataLoaderLoad files : AppData D × Bool).1
    w.produced =
      answers data (sessionBefore data session consoles i) ((clientRequests console).take w.produced.length) := by
  intro data
  have hfeed := (hallAfter_inTurn hconsole hw).produced
  rwa [acceptedIn_clients, feed_requests data _ fun r hm =>
    clientRequests_isLine console r (List.mem_of_mem_take hm)] at hfeed

theorem hallAfter_lockstep (hconsole : consoles[i]? = some console)
    (hw : (hallAfter (D := D) files session consoles turns).worlds[i]? = some w) :
    let data := (dataLoaderLoad files : AppData D × Bool).1
    Lockstep data (sessionBefore data session consoles i) (clientRequests console) w := by
  intro data
  refine ⟨?_, ?_, fun hn => ?_⟩
  · have hprefix := answers_append data (sessionBefore data session consoles i)
      ((clientRequests console).take w.produced.length) ((clientRequests console).drop w.produced.length)
    rwa [List.take_append_drop, ← hallAfter_produced hconsole hw] at hprefix
  · rw [(hallAfter_inTurn hconsole hw).got]
    exact List.take_prefix _ _
  · obtain ⟨hserver, hclient, hlen, -⟩ := (hallAfter_inTurn hconsole hw).between hn
    exact ⟨hserver, hclient, hlen⟩

theorem getElem?_of_prefix {α : Type} {xs ys : List α} (h : xs <+: ys) {i : Nat} {x : α} (hx : xs[i]? = some x) :
    ys[i]? = some x := by
  obtain ⟨more, rfl⟩ := h
  rw [List.getElem?_append_left (List.getElem?_eq_some_iff.mp hx).1]
  exact hx

/-- The server answers request `j` of client `i` in the session that all requests before it have left. -/
theorem hallAfter_got (hconsole : consoles[i]? = some console)
    (hw : (hallAfter (D := D) files session consoles turns).worlds[i]? = some w) {j : Nat}
    {request response : List Byte} (hrequest : (clientRequests console)[j]? = some request)
    (hgot : w.got[j]? = some response) :
    let data := (dataLoaderLoad files : AppData D × Bool).1
    response = ((servedSession data session (servedBefore consoles i j)).route data request).1 := by
  intro data
  have hlockstep : Lockstep data (sessionBefore data session consoles i) (clientRequests console) w :=
    hallAfter_lockstep hconsole hw
  have hread : ((answers data (sessionBefore data session consoles i) (clientRequests console)).map
      Event.sent)[j]? = some response :=
    getElem?_of_prefix (hlockstep.got.trans (hlockstep.produced.map _)) hgot
  rw [List.getElem?_map, answers_getElem? data (fun r hr => (clientRequests_isLine console r hr).fits),
    hrequest] at hread
  unfold servedBefore
  rw [hconsole, Option.getD_some, servedSession_append, ← sessionBefore_served]
  exact (Option.some.inj hread).symm

/-- Between two requests of client `i`, the server's session is the one that all requests so far have left. -/
theorem hallAfter_session (hconsole : consoles[i]? = some console)
    (hw : (hallAfter (D := D) files session consoles turns).worlds[i]? = some w) (hgot : w.got ≠ [])
    (hn : w.reading = none) :
    let data := (dataLoaderLoad files : AppData D × Bool).1
    w.server.session = servedSession data session (servedBefore consoles i w.got.length) := by
  intro data
  have hin := hallAfter_inTurn hconsole hw
  have hproduced : w.produced ≠ [] := fun hnil => by
    have heq := hin.got
    rw [hnil, List.map_nil, List.take_nil] at heq
    exact hgot heq
  unfold servedBefore
  rw [hin.server hproduced hn, acceptedIn_clients, feed_connection, hconsole, Option.getD_some,
    servedSession_append, ← sessionBefore_served]
  exact handleClient_requests data (fun r hr => clientRequests_isLine console r (List.mem_of_mem_take hr)) _

variable (D files session consoles) in
/-- When nobody is kept waiting for ever, every client reads the answers to all its requests. -/
theorem hall_answered (turns : FairTurns (consoles.map clientRequests).length) :
    let data := (dataLoaderLoad files : AppData D × Bool).1
    ∃ n, ∀ (i : Nat) (console : List Byte) w, consoles[i]? = some console →
      (runHallFor (connection data) Handler.accepted turns n
        (Hall.start (consoles.map clientRequests) ⟨[], session⟩)).worlds[i]? = some w →
      w.got = (answers data (sessionBefore data session consoles i) (clientRequests console)).map Event.sent ∧
        w.reading = none ∧ w.toServer = [] ∧ w.toClient = [] := by
  intro data
  have hidle : Handler.Idle ⟨[], session⟩ := rfl
  obtain ⟨n, hn⟩ := hall_finishes (answers_clientRequests (D := D) files consoles) hidle Handler.idle_accepted turns
  refine ⟨n, fun i console w hconsole hw => ?_⟩
  obtain ⟨hpending, hreading⟩ := through_iff.mp (hn w (List.mem_of_getElem? hw))
  have hin : InTurn (connection data) Handler.accepted (consoles.map clientRequests) ⟨[], session⟩ _ i
      (clientRequests console) w := hallAfter_inTurn hconsole hw
  obtain ⟨hserver, hclient, hlen, hall⟩ := hin.between hreading
  rw [hpending, List.length_nil, Nat.add_zero] at hall
  have hanswers : w.produced = answers data (sessionBefore data session consoles i) _ :=
    hallAfter_produced hconsole hw
  rw [hall, List.take_length] at hanswers
  refine ⟨?_, hreading, hserver, hclient⟩
  rw [hin.got, hlen, hanswers, List.take_of_length_le (by rw [List.length_map])]
  rfl

end Hall

/-- For every store the loader builds, any number of clients and everything that
is typed at them: in whatever order clients and server go on, each client is in
lockstep with a server that has served the clients before it, and is answered
only when these are through; and when nobody is kept waiting for ever, each
client has read the answers to all of its requests, and no byte is left. -/
theorem clients_inTurn (files : CsvFiles) (session : Session) (consoles : List (List Byte)) :
    let data := (dataLoaderLoad files : AppData D × Bool).1
    let run := runHall (connection data) Handler.accepted
    let start := Hall.start (consoles.map clientRequests) ⟨[], session⟩
    (∀ turns (i : Nat) (console : List Byte) w, consoles[i]? = some console → (run turns start).worlds[i]? = some w →
      Lockstep data (sessionBefore data session consoles i) (clientRequests console) w ∧
        (w.produced ≠ [] → ∀ j v, j < i → (run turns start).worlds[j]? = some v → v.through = true)) ∧
    ∀ turns : FairTurns (consoles.map clientRequests).length, ∃ n, ∀ (i : Nat) (console : List Byte) w,
      consoles[i]? = some console →
      (runHallFor (connection data) Handler.accepted turns n start).worlds[i]? = some w →
        w.got = (answers data (sessionBefore data session consoles i) (clientRequests console)).map Event.sent ∧
          w.toServer = [] ∧ w.toClient = [] := by
  intro data run start
  refine ⟨fun turns i console w hconsole hw => ⟨hallAfter_lockstep hconsole hw, (hallAfter_inTurn hconsole hw).alone⟩,
    fun turns => ?_⟩
  obtain ⟨n, hn⟩ := hall_answered D files session consoles turns
  refine ⟨n, fun i console w hconsole hw => ?_⟩
  obtain ⟨hgot, -, hserver, hclient⟩ := hn i console w hconsole hw
  exact ⟨hgot, hserver, hclient⟩

end Transit
