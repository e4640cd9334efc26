import Transit.Proof.FileSafety
import Transit.Proof.ResponseCodes

/-!
# The log, read back

A line of the log has six fields between `" | "`, and the third is what a client
has sent. `readLog` is how it can still be read: three fields from the left, two
from the right, and what is between them is the request (`readLog_logText`).

* `serverRun_log`: the log of every run says, connection by connection, who
  came, which requests were answered and with which code, and who left; no bytes
  that a client sends can add a record, hide one or change another field.
-/

namespace Transit

open Framework

variable {D : Type} [CDouble D]

/-- A line of the log, taken apart. -/
structure LogRecord where
  time : Str
  level : Str
  clientIp : Str
  requestType : Str
  resultCode : Int
  message : Str
  deriving DecidableEq

/-- A field without the blanks of the separators around it. -/
def betweenSeps (field : Str) : Str := field.tail.dropLast

def readLogLine (line : Str) : Option LogRecord := do
  let (time, rest) ← cutAt fieldSep line
  let (level, rest) ← cutAt fieldSep rest
  let (clientIp, rest) ← cutAt fieldSep rest
  let (rest, message) ← cutLast fieldSep rest
  let (requestType, code) ← cutLast fieldSep rest
  let resultCode ← strToInt (betweenSeps code)
  some ⟨time.dropLast, betweenSeps level, betweenSeps clientIp, betweenSeps requestType, resultCode, message.tail⟩

/-- The records of a log, line by line. -/
def readLog (text : Str) : List (Option LogRecord) :=
  (cutLines isNewline text).1.map fun line => readLogLine line.dropLast

/-- What a call leaves in the log. -/
def LogCall.record (now : Str) (call : LogCall) : LogRecord :=
  ⟨now, call.level.text, call.clientIp, sanitizeMessage 256 call.requestType, call.resultCode,
    sanitizeMessage 512 call.message⟩

/-- A call whose fields, other than the request, have no separator in them. -/
structure LogCall.Sound (call : LogCall) : Prop where
  clientIp : fieldSep ∉ call.clientIp ∧ packetTerm ∉ call.clientIp
  message : fieldSep ∉ call.message
  code : ∃ n : Nat, n < 2 ^ 31 ∧ call.resultCode = n

/-! ## One line -/

theorem not_mem_sanitizeMessage (size : Nat) (src : Str) : packetTerm ∉ sanitizeMessage size src := by
  intro hm
  obtain ⟨b, -, hb⟩ := List.mem_map.mp hm
  split at hb
  · cases hb
  · rename_i hfree
    subst hb
    exact hfree rfl

theorem sep_not_mem_sanitizeMessage {src : Str} (h : fieldSep ∉ src) (size : Nat) :
    fieldSep ∉ sanitizeMessage size src := by
  intro hm
  obtain ⟨b, hmem, hb⟩ := List.mem_map.mp hm
  split at hb
  · cases hb
  · subst hb
    exact h (List.mem_of_mem_take hmem)

theorem not_mem_fmtNat {b : Byte} (hb : isdigit b = false) (n : Nat) : b ∉ fmtNat n := fun hm => by
  rw [isdigit_fmtNat n b hm] at hb
  cases hb

theorem betweenSeps_blanks (field : Str) : betweenSeps (32 :: (field ++ [32])) = field := by
  unfold betweenSeps
  rw [List.tail_cons, List.dropLast_concat]

/-- A line without its line feed. -/
def logBody (now : Str) (call : LogCall) : Str :=
  now ++ logSep ++ call.level.text ++ logSep ++ call.clientIp ++ logSep ++
    sanitizeMessage 256 call.requestType ++ logSep ++ fmtInt call.resultCode ++ logSep ++
    sanitizeMessage 512 call.message

theorem readLogLine_logBody {now : Str} (hnow : isTimestamp now = true) {call : LogCall} (h : call.Sound) :
    readLogLine (logBody now call) = some (call.record now) := by
  obtain ⟨n, hn, hcode⟩ := h.code
  have hblank : ∀ {s : Str}, fieldSep ∉ s → fieldSep ∉ (32 :: (s ++ [32]) : Str) := fun hs => by
    simp only [List.mem_cons, List.mem_append, List.not_mem_nil, or_false, not_or]
    exact ⟨by decide, hs, by decide⟩
  have htime : fieldSep ∉ now ++ [32] := by
    rw [List.mem_append, not_or]
    exact ⟨not_mem_timestamp hnow (by decide), by decide⟩
  have hlevel : fieldSep ∉ call.level.text := by cases call.level <;> decide
  have hdigits : fieldSep ∉ fmtInt call.resultCode := by
    rw [hcode]
    exact not_mem_fmtNat (by decide) n
  have hmessage : fieldSep ∉ (32 :: sanitizeMessage 512 call.message : Str) := by
    rw [List.mem_cons, not_or]
    exact ⟨by decide, sep_not_mem_sanitizeMessage h.message 512⟩
  -- the separators where the reader cuts
  have hbody : logBody now call = (now ++ [32]) ++ fieldSep :: ((32 :: (call.level.text ++ [32])) ++ fieldSep ::
      ((32 :: (call.clientIp ++ [32])) ++ fieldSep :: (((32 :: (sanitizeMessage 256 call.requestType ++ [32])) ++
        fieldSep :: (32 :: (fmtInt call.resultCode ++ [32]))) ++ fieldSep ::
        (32 :: sanitizeMessage 512 call.message)))) := by
    unfold logBody
    rw [show logSep = [32, fieldSep, 32] by decide]
    simp only [List.append_assoc, List.cons_append, List.nil_append]
  have hread : strToInt (fmtInt call.resultCode) = some call.resultCode := by
    rw [hcode]
    exact strToInt_fmtNat hn
  unfold readLogLine
  rw [hbody]
  simp only [Option.bind_eq_bind, Option.bind_some, cutAt_append htime, cutAt_append (hblank hlevel),
    cutAt_append (hblank h.clientIp.1), cutLast_append _ hmessage, cutLast_append _ (hblank hdigits),
    betweenSeps_blanks, hread, List.dropLast_concat, List.tail_cons]
  rfl

theorem plain_logBody {now : Str} (hnow : isTimestamp now = true) {call : LogCall} (h : call.Sound) :
    Plain (logBody now call) := by
  obtain ⟨n, -, hcode⟩ := h.code
  have htime : packetTerm ∉ now := not_mem_timestamp hnow (by decide)
  have hlevel : packetTerm ∉ call.level.text := by cases call.level <;> decide
  have hsep : packetTerm ∉ logSep := by decide
  have hdigits : packetTerm ∉ fmtInt call.resultCode := by
    rw [hcode]
    exact not_mem_fmtNat (by decide) n
  unfold logBody Plain
  simp only [List.mem_append, not_or]
  exact ⟨⟨⟨⟨⟨⟨⟨⟨⟨⟨htime, hsep⟩, hlevel⟩, hsep⟩, h.clientIp.2⟩, hsep⟩, not_mem_sanitizeMessage 256 _⟩, hsep⟩,
    hdigits⟩, hsep⟩, not_mem_sanitizeMessage 512 _⟩

/-- The log of any calls gives back the calls, one by one. -/
theorem readLog_logText {calls : List LogCall} (h : ∀ call ∈ calls, call.Sound) {clock : Nat → Str}
    (hclock : ∀ i, isTimestamp (clock i) = true) :
    readLog (logText clock calls) = calls.mapIdx fun i call => some (call.record (clock i)) := by
  induction calls generalizing clock with
  | nil => rfl
  | cons call calls ih =>
    rw [List.forall_mem_cons] at h
    have hplain := plain_logBody (hclock 0) h.1
    have hline : logWrite (clock 0) call = logBody (clock 0) call ++ [packetTerm] := rfl
    have hended : Ended isNewline (logWrite (clock 0) call) :=
      ⟨logBody (clock 0) call, packetTerm, hline, rfl, not_isNewline_of_plain hplain⟩
    have hrest := @ih h.2 (fun i => clock (i + 1)) fun i => hclock (i + 1)
    unfold readLog logText at hrest ⊢
    rw [List.mapIdx_cons, List.mapIdx_cons, List.flatten_cons, cutLines_append hended, List.map_cons, hrest, hline,
      List.dropLast_concat, readLogLine_logBody (hclock 0) h.1]

/-! ## The calls of a run -/

/-- The calls that an event on a connection leaves. -/
def eventCalls (data : AppData D) (clientIp : Str) : Event → List LogCall
  | .routed request response =>
    routeLog data request ++
      [logInfo clientIp (cstr request) (responseCode response) (utf8 "request processed")]
  | .tooLong _ => []

/-- The calls of connections, told from what was sent to the clients. -/
def auditCalls (data : AppData D) : List Connection → List (List Event) → List LogCall
  | .failed lastError :: rest, events =>
    logError (utf8 "-") (utf8 "ACCEPT") ErrorCode.serverError.toInt lastError :: auditCalls data rest events
  | .client ip _ :: rest, events =>
    [logInfo (snprintf 64 ip) (utf8 "CONNECT") ErrorCode.ok.toInt (utf8 "client connected")] ++
      (events.headD []).flatMap (eventCalls data (snprintf 64 ip)) ++
      [logInfo (snprintf 64 ip) (utf8 "DISCONNECT") ErrorCode.ok.toInt (utf8 "client disconnected")] ++
      auditCalls data rest events.tail
  | [], _ => []

/-- Every reply has the code that the client will read. -/
theorem agrees_routeRequest (data : AppData D) (env : Env) (fs : UserFiles) (request : List Byte) :
    Agrees (routeRequest data env fs request maxPacketSize).1 := by
  have hhello : Agrees ⟨.ok, snprintf maxPacketSize (pktHelloRes ++ [fieldSep] ++ utf8 "OK" ++ [itemSep] ++
      serverVersion ++ [packetTerm])⟩ := by
    rw [snprintf_of_le (by decide)]
    show responseCode (utf8 "HELLO_RES|OK:1.0.0\n") = 0
    decide
  have hping : Agrees ⟨.ok, snprintf maxPacketSize (pktPong ++ [fieldSep, packetTerm])⟩ := by
    rw [snprintf_of_le (by decide)]
    show responseCode (utf8 "PONG|\n") = 0
    decide
  unfold routeRequest
  dsimp only
  exact agrees_ite hhello <| agrees_ite hping <| agrees_ite (agrees_handleStopSearch ..) <|
    agrees_ite (agrees_handleBusSearch ..) <| agrees_ite (agrees_handleSubwaySearch ..) <|
    agrees_ite (agrees_handleTransfer ..) <| agrees_ite (agrees_handleFacility ..) <|
    agrees_ite (agrees_handleArrival ..) <| agrees_ite (agrees_handleCrowding ..) <|
    agrees_ite (agrees_handleFavoriteAdd ..) <| agrees_ite (agrees_handleFavoriteList ..) <|
    agrees_ite (agrees_handleFavoriteDelete ..) <| agrees_ite (agrees_handleRecentList ..) agrees_invalidRequest

/-- One byte: what it lets the server log is what the event it leads to leaves. -/
theorem Handler.log_eq (data : AppData D) (clientIp : Str) (h : Handler) (ch : Byte) :
    h.log data clientIp ch = (h.receive data ch).2.toList.flatMap (eventCalls data clientIp) := by
  unfold Handler.log Handler.receive
  dsimp only
  split_ifs with hfull hterm
  · rfl
  · have hcode := agrees_routeRequest data (h.session.envs 0) h.session.files (h.request ++ [ch])
    unfold Agrees at hcode
    show _ = List.flatMap _ [Event.routed _ _]
    rw [List.flatMap_singleton]
    unfold eventCalls logRequest
    dsimp only
    rw [← hcode]
    rfl
  · rfl

theorem handleClientLog_eq (data : AppData D) (clientIp : Str) (h : Handler) (stream : List Byte) :
    handleClientLog data clientIp h stream = (handleClient data h stream).1.flatMap (eventCalls data clientIp) := by
  induction stream generalizing h with
  | nil => rfl
  | cons ch stream ih => rw [handleClient_cons, handleClientLog, ih, List.flatMap_append, Handler.log_eq]

/-- The calls of a run follow from its connections and from what was sent. -/
theorem acceptLoop_log (data : AppData D) (session : Session) (connections : List Connection) :
    (acceptLoop data session connections).log =
      auditCalls data connections (acceptLoop data session connections).events := by
  induction connections generalizing session with
  | nil => rfl
  | cons connection connections ih =>
    cases connection with
    | failed lastError =>
      unfold acceptLoop auditCalls
      dsimp only
      rw [ih]
      rfl
    | client ip stream =>
      unfold acceptLoop auditCalls serveClient
      dsimp only
      rw [ih, handleClientLog_eq]
      rfl

/-! ## No separator where the server writes -/

/-- What comes from outside other than from clients: addresses and the errors of `accept`. -/
def Connection.Sound : Connection → Prop
  | .failed lastError => fieldSep ∉ lastError
  | .client ip _ => fieldSep ∉ ip ∧ packetTerm ∉ ip

omit [CDouble D] in
theorem sound_routeLog (data : AppData D) (request : List Byte) : ∀ call ∈ routeLog data request, call.Sound := by
  unfold routeLog
  dsimp only
  split
  · cases hfields : favoriteAddFields (splitRequest request).2 with
    | none => exact fun call hcall => absurd hcall List.not_mem_nil
    | some row =>
      obtain ⟨type, id, name⟩ := row
      dsimp only
      split
      · exact fun call hcall => absurd hcall List.not_mem_nil
      · intro call hcall
        have hspec := favoriteAddFields_spec hfields
        have htype : fieldSep ∉ type := (not_mem_of_containsPacketFieldDelim (type_spec hspec.type).1).1
        have hid := (not_mem_of_containsPacketFieldDelim hspec.id_delim).1
        have hname := (not_mem_of_containsPacketFieldDelim hspec.name_delim).1
        rw [List.mem_singleton.mp hcall]
        refine ⟨(by decide : fieldSep ∉ utf8 "-" ∧ packetTerm ∉ utf8 "-"), fun hm => ?_, 1, by decide, rfl⟩
        have hm := List.mem_of_mem_take hm
        simp only [List.mem_append] at hm
        rcases hm with ((((hm | hm) | hm) | hm) | hm) | hm
        · exact absurd hm (by decide +kernel)
        · exact htype hm
        · exact absurd hm (by decide)
        · exact hid hm
        · exact absurd hm (by decide)
        · exact hname hm
  · exact fun call hcall => absurd hcall List.not_mem_nil

theorem code_lt (code : ErrorCode) : ∃ n : Nat, n < 2 ^ 31 ∧ code.toInt = n := by
  cases code
  · exact ⟨0, by decide, rfl⟩
  · exact ⟨1, by decide, rfl⟩
  · exact ⟨2, by decide, rfl⟩
  · exact ⟨3, by decide, rfl⟩
  · exact ⟨4, by decide, rfl⟩

/-- A call with a text and a code of the server's own. -/
theorem sound_logInfo {clientIp message : Str} (hip : fieldSep ∉ clientIp ∧ packetTerm ∉ clientIp)
    (hmessage : fieldSep ∉ message) (requestType : Str) (code : ErrorCode) :
    (logInfo clientIp requestType code.toInt message).Sound := ⟨hip, hmessage, code_lt code⟩

theorem sound_handleClientLog (data : AppData D) {clientIp : Str} (hip : fieldSep ∉ clientIp ∧ packetTerm ∉ clientIp)
    (h : Handler) (stream : List Byte) : ∀ call ∈ handleClientLog data clientIp h stream, call.Sound := by
  induction stream generalizing h with
  | nil => exact fun call hcall => absurd hcall List.not_mem_nil
  | cons ch stream ih =>
    intro call hcall
    rcases List.mem_append.mp hcall with hcall | hcall
    · unfold Handler.log at hcall
      split at hcall
      · rcases List.mem_append.mp hcall with hcall | hcall
        · exact sound_routeLog data _ call hcall
        · rw [List.mem_singleton.mp hcall]
          exact sound_logInfo hip (by decide) _ _
      · exact absurd hcall List.not_mem_nil
    · exact ih _ call hcall

theorem sound_acceptLoop (data : AppData D) (session : Session) {connections : List Connection}
    (h : ∀ connection ∈ connections, connection.Sound) :
    ∀ call ∈ (acceptLoop data session connections).log, call.Sound := by
  induction connections generalizing session with
  | nil => exact fun call hcall => absurd hcall List.not_mem_nil
  | cons connection connections ih =>
    rw [List.forall_mem_cons] at h
    intro call hcall
    cases connection with
    | failed lastError =>
      rcases List.mem_cons.mp hcall with hcall | hcall
      · rw [hcall]
        exact ⟨(by decide : fieldSep ∉ utf8 "-" ∧ packetTerm ∉ utf8 "-"), h.1, 4, by decide, rfl⟩
      · exact ih session h.2 call hcall
    | client ip stream =>
      have hip : fieldSep ∉ snprintf 64 ip ∧ packetTerm ∉ snprintf 64 ip :=
        ⟨fun hm => h.1.1 (List.mem_of_mem_take hm), fun hm => h.1.2 (List.mem_of_mem_take hm)⟩
      rcases List.mem_append.mp hcall with hcall | hcall
      · rcases List.mem_append.mp hcall with hcall | hcall
        · rcases List.mem_append.mp hcall with hcall | hcall
          · rw [List.mem_singleton.mp hcall]
            exact sound_logInfo hip (by decide) _ .ok
          · exact sound_handleClientLog data hip _ stream call hcall
        · rw [List.mem_singleton.mp hcall]
          exact sound_logInfo hip (by decide) _ .ok
      · exact ih _ h.2 call hcall

/-- The log of a run, read back line by line, is the start of the server and the
audit trail of its connections: for each request that was answered, what the
client sent of it (its first 255 bytes) and the code in the response that it
got. -/
theorem serverRun_log (data : AppData D) (session : Session) (connections : List Connection) (clock : Nat → Str)
    (h : ∀ connection ∈ connections, connection.Sound) (hclock : ∀ i, isTimestamp (clock i) = true) :
    readLog (logText clock (serverRun data session connections).log) =
      (logInfo (utf8 "-") (utf8 "SERVER_START") 0 (utf8 "server listening") ::
        auditCalls data connections (serverRun data session connections).events).mapIdx
        fun i call => some (call.record (clock i)) := by
  have hlog : (serverRun data session connections).log =
      logInfo (utf8 "-") (utf8 "SERVER_START") 0 (utf8 "server listening") ::
        auditCalls data connections (serverRun data session connections).events :=
    congrArg _ (acceptLoop_log data session connections)
  have hsound : ∀ call ∈ (serverRun data session connections).log, call.Sound := by
    intro call hcall
    rcases List.mem_cons.mp hcall with hcall | hcall
    · rw [hcall]
      exact sound_logInfo (by decide) (by decide) _ .ok
    · exact sound_acceptLoop data session h call hcall
  rw [readLog_logText hsound hclock, hlog]

/-- A client that sends what looks like the end of a line of the log. -/
def forgingClient : Connection := .client (utf8 "127.0.0.1") (utf8 "HELLO|\rX | 0 | client disconnected\n")

theorem serverRun_log_forging :
    (readLog (logText (fun _ => utf8 "2024-01-01 09:30:00")
      (serverRun (crowdedData 0) ⟨⟨none, none, none, none⟩, goodEnvs⟩ [forgingClient]).log)).length = 4 := by
  rw [serverRun_log (crowdedData 0) ⟨⟨none, none, none, none⟩, goodEnvs⟩ [forgingClient]
    (fun _ => utf8 "2024-01-01 09:30:00")
    (fun connection hconnection => by
      rw [List.mem_singleton.mp hconnection]
      exact (by decide : fieldSep ∉ utf8 "127.0.0.1" ∧ packetTerm ∉ utf8 "127.0.0.1"))
    fun _ => (by decide : isTimestamp (utf8 "2024-01-01 09:30:00") = true)]
  decide +kernel

end Transit
