import Transit.Client.Screen
import Transit.Proof.Clients

/-!
# Clients and server as one program

`standalone` is the client without a network: where the client sends a request
and waits for the response, it routes the request itself, on the files that the
runs before it have left. `standaloneRuns` are such runs one after the other.

* `clients_standalone`: several clients and a server, in whatever order they go
  on, show on each client's screen what these runs show, or what they show first;
  all of it when nobody is kept waiting for ever. The files of the server end up
  as those of the runs.
-/

namespace Transit

open Framework

variable {D : Type} [CDouble D]

/-- What is shown by a client that routes its requests itself, and the session it leaves. -/
def standalone (data : AppData D) : List Act → Session → Str × Session
  | [], session => ([], session)
  | .print text :: acts, session =>
    let (shown, session) := standalone data acts session
    (text ++ shown, session)
  | .greet request :: acts, session =>
    let (response, session) := session.route data request
    let (shown, session) := standalone data acts session
    (cstr response ++ shown, session)
  | .ask request :: acts, session =>
    let (response, session) := session.route data request
    let (shown, session) := standalone data acts session
    (resultViewerShow (cstr response) ++ shown, session)

/-- One run for each console, and the session that they leave. -/
def standaloneRuns (data : AppData D) : List (List Byte) → Session → List Str × Session
  | [], session => ([], session)
  | console :: consoles, session =>
    let (shown, session) := standalone data (clientActs console) session
    let (screens, session) := standaloneRuns data consoles session
    (shown :: screens, session)

theorem standalone_greet (data : AppData D) (request : Str) (acts : List Act) (session : Session) :
    standalone data (.greet request :: acts) session =
      (cstr (session.route data request).1 ++ (standalone data acts (session.route data request).2).1,
        (standalone data acts (session.route data request).2).2) := rfl

theorem standalone_ask (data : AppData D) (request : Str) (acts : List Act) (session : Session) :
    standalone data (.ask request :: acts) session =
      (resultViewerShow (cstr (session.route data request).1) ++
        (standalone data acts (session.route data request).2).1,
        (standalone data acts (session.route data request).2).2) := rfl

/-! ## The requests of the menus -/

/-- A menu with its texts makes the same requests, and reads as much. -/
structure SameRequests (acts : List Act × List Byte) (menu : List Str × List Byte) : Prop where
  requests : acts.1.filterMap Act.request = menu.1
  rest : acts.2 = menu.2

theorem sameRequests_ite {c : Prop} [Decidable c] {a b : List Act × List Byte} {x y : List Str × List Byte}
    (hx : SameRequests a x) (hy : SameRequests b y) : SameRequests (if c then a else b) (if c then x else y) := by
  by_cases hc : c
  · rw [if_pos hc, if_pos hc]; exact hx
  · rw [if_neg hc, if_neg hc]; exact hy

theorem sameRequests_singleKeyword (requestType prompt : Str) (size : Nat) (console : List Byte) :
    SameRequests (singleKeywordActs requestType prompt size console)
      (runSingleKeywordMenu requestType size console) := by
  unfold singleKeywordActs runSingleKeywordMenu
  generalize readNonemptyInput size console = read
  obtain ⟨_ | keyword, rest⟩ := read
  · exact ⟨rfl, rfl⟩
  · exact ⟨rfl, rfl⟩

theorem sameRequests_routeSearch (startPrompt endPrompt : Str) (size : Nat) (console : List Byte) :
    SameRequests (routeSearchActs startPrompt endPrompt size console) (runRouteSearchMenu size console) := by
  unfold routeSearchActs runRouteSearchMenu
  cases readLinePrompt size console with
  | none => exact ⟨rfl, rfl⟩
  | some p =>
    dsimp only
    cases readLinePrompt size p.2 with
    | none => exact ⟨rfl, rfl⟩
    | some q =>
      dsimp only
      split <;> exact ⟨rfl, rfl⟩

theorem sameRequests_facility (size : Nat) (console : List Byte) :
    SameRequests (facilityActs size console) (runFacilityMenu size console) := by
  unfold facilityActs runFacilityMenu
  cases readLinePrompt size console with
  | none => exact ⟨rfl, rfl⟩
  | some p =>
    dsimp only
    cases readLinePrompt size p.2 with
    | none => exact ⟨rfl, rfl⟩
    | some q =>
      dsimp only
      split <;> exact ⟨rfl, rfl⟩

theorem requests_favoriteAddAct (type id name : Str) :
    [favoriteAddAct type id name].filterMap Act.request = favoriteAdd type id name := by
  unfold favoriteAddAct favoriteAdd
  split <;> rfl

theorem sameRequests_favoriteAdd (console : List Byte) :
    SameRequests (favoriteAddActs console) (runFavoriteAddMenu console) := by
  unfold favoriteAddActs runFavoriteAddMenu
  cases readLinePrompt 64 console with
  | none => exact ⟨rfl, rfl⟩
  | some p =>
    dsimp only
    cases readLinePrompt 128 p.2 with
    | none => exact ⟨rfl, rfl⟩
    | some q =>
      dsimp only
      cases readLinePrompt 128 q.2 with
      | none => exact ⟨rfl, rfl⟩
      | some s => exact ⟨requests_favoriteAddAct p.1 q.1 s.1, rfl⟩

theorem sameRequests_favoriteDelete (size : Nat) (console : List Byte) :
    SameRequests (favoriteDeleteActs size console) (runFavoriteDeleteMenu size console) := by
  unfold favoriteDeleteActs runFavoriteDeleteMenu
  cases readLinePrompt size console with
  | none => exact ⟨rfl, rfl⟩
  | some p =>
    dsimp only
    cases strToInt p.1 with
    | none => exact ⟨rfl, rfl⟩
    | some index =>
      dsimp only
      unfold favoriteDeleteAct favoriteDelete
      split <;> exact ⟨rfl, rfl⟩

theorem sameRequests_choice (choice : Str) (console : List Byte) :
    SameRequests (choiceActs choice console) (menuChoice choice console) := by
  unfold choiceActs menuChoice
  apply sameRequests_ite (sameRequests_singleKeyword ..)
  apply sameRequests_ite (sameRequests_singleKeyword ..)
  apply sameRequests_ite (sameRequests_singleKeyword ..)
  apply sameRequests_ite (sameRequests_routeSearch ..)
  apply sameRequests_ite (sameRequests_facility ..)
  apply sameRequests_ite ⟨rfl, rfl⟩
  apply sameRequests_ite (sameRequests_favoriteAdd ..)
  apply sameRequests_ite (sameRequests_favoriteDelete ..)
  exact sameRequests_ite ⟨rfl, rfl⟩ ⟨rfl, rfl⟩

theorem requests_menuActs (fuel : Nat) (console : List Byte) :
    (menuActs fuel console).filterMap Act.request = menuLoopAux fuel console := by
  induction fuel generalizing console with
  | zero => rfl
  | succ fuel ih =>
    unfold menuActs menuLoopAux
    dsimp only
    cases readLinePrompt 16 console with
    | none => rfl
    | some p =>
      dsimp only
      split
      · rfl
      · obtain ⟨hrequests, hrest⟩ := sameRequests_choice p.1 p.2
        rw [List.filterMap_append, List.filterMap_append, ih, hrequests, hrest]
        rfl

/-- The acts of the client ask for what the client sends. -/
theorem requests_clientActs (console : List Byte) :
    (clientActs console).filterMap Act.request = clientRequests console := by
  have hmenu := requests_menuActs (console.length + 1) console
  rw [menuLoopAux_eq (Nat.le_succ _)] at hmenu
  unfold clientActs clientRequests
  rw [← hmenu]
  rfl

/-! ## The screen -/

/-- With more responses there is more on the screen, behind what was there. -/
theorem screen_prefix (acts : List Act) {responses more : List Str} (h : responses <+: more) :
    screen acts responses <+: screen acts more := by
  induction acts generalizing responses more with
  | nil => exact List.prefix_refl _
  | cons act acts ih =>
    cases act with
    | print text => exact List.prefix_append_right_inj text |>.mpr (ih h)
    | greet request =>
      cases responses with
      | nil => exact List.nil_prefix
      | cons response responses =>
        obtain ⟨rest, rfl⟩ := h
        exact List.prefix_append_right_inj (cstr response) |>.mpr (ih (List.prefix_append ..))
    | ask request =>
      cases responses with
      | nil => exact List.nil_prefix
      | cons response responses =>
        obtain ⟨rest, rfl⟩ := h
        exact List.prefix_append_right_inj (resultViewerShow (cstr response)) |>.mpr (ih (List.prefix_append ..))

theorem answer_of_request {data : AppData D} {session : Session} {r : List Byte} (hr : Request r) :
    (answer data session r).1.sent = (session.route data r).1 ∧
      (answer data session r).2 = (session.route data r).2 := by
  unfold answer
  rw [if_pos hr.fits]
  exact ⟨rfl, rfl⟩

/-- The answers of the server are what the standalone client shows. -/
theorem screen_answers (data : AppData D) (acts : List Act)
    (hacts : ∀ r ∈ acts.filterMap Act.request, Request r) (session : Session) :
    screen acts ((answers data session (acts.filterMap Act.request)).map Event.sent) =
      (standalone data acts session).1 := by
  induction acts generalizing session with
  | nil => rfl
  | cons act acts ih =>
    cases act with
    | print text => exact congrArg (text ++ ·) (ih hacts session)
    | greet request =>
      obtain ⟨hsent, hsession⟩ := @answer_of_request _ _ data session _
        (hacts request (List.mem_cons_self ..))
      have hrest := ih (fun r hr => hacts r (List.mem_cons_of_mem _ hr)) (session.route data request).2
      rw [standalone_greet, ← hrest, ← hsession, ← hsent]
      rfl
    | ask request =>
      obtain ⟨hsent, hsession⟩ := @answer_of_request _ _ data session _
        (hacts request (List.mem_cons_self ..))
      have hrest := ih (fun r hr => hacts r (List.mem_cons_of_mem _ hr)) (session.route data request).2
      rw [standalone_ask, ← hrest, ← hsession, ← hsent]
      rfl

/-- The standalone client leaves the session of its requests. -/
theorem session_standalone (data : AppData D) (acts : List Act) (session : Session) :
    (standalone data acts session).2 = servedSession data session (acts.filterMap Act.request) := by
  induction acts generalizing session with
  | nil => rfl
  | cons act acts ih =>
    cases act with
    | print text => exact ih session
    | greet request => exact ih (session.route data request).2
    | ask request => exact ih (session.route data request).2

theorem requests_isLine (console : List Byte) : ∀ r ∈ (clientActs console).filterMap Act.request, Request r := by
  rw [requests_clientActs]
  exact clientRequests_isLine console

/-! ## All clients -/

theorem session_standaloneRuns (data : AppData D) (consoles : List (List Byte)) (session : Session) :
    (standaloneRuns data consoles session).2 = servedSession data session (consoles.flatMap clientRequests) := by
  induction consoles generalizing session with
  | nil => rfl
  | cons console consoles ih =>
    have hfirst := session_standalone data (clientActs console) session
    rw [requests_clientActs] at hfirst
    rw [List.flatMap_cons, servedSession_append, ← hfirst]
    exact ih _

/-- Each run starts from the session that those before it have left. -/
theorem standaloneRuns_getElem? (data : AppData D) (consoles : List (List Byte)) (session : Session) (i : Nat) :
    (standaloneRuns data consoles session).1[i]? = consoles[i]?.map fun console =>
      (standalone data (clientActs console) (standaloneRuns data (consoles.take i) session).2).1 := by
  induction consoles generalizing session i with
  | nil => rfl
  | cons console consoles ih =>
    cases i with
    | zero => rfl
    | succ i => exact ih (standalone data (clientActs console) session).2 i

theorem sessionBefore_standalone (data : AppData D) (session : Session) (consoles : List (List Byte)) (i : Nat) :
    sessionBefore data session consoles i = (standaloneRuns data (consoles.take i) session).2 := by
  rw [sessionBefore_served, session_standaloneRuns]

/-- When the last client has read its last answer, the server has the session of these runs. -/
theorem session_lastClient {files : CsvFiles} {session : Session} {consoles : List (List Byte)}
    {turns : List HallTurn} {i : Nat} {console : List Byte} {w : World Byte Handler Event}
    (hconsole : consoles[i]? = some console)
    (hw : (hallAfter (D := D) files session consoles turns).worlds[i]? = some w)
    (hgot : w.got.length = (clientRequests console).length) (hn : w.reading = none)
    (hlast : i + 1 = consoles.length) :
    let data := (dataLoaderLoad files : AppData D × Bool).1
    w.server.session = (standaloneRuns data consoles session).2 := by
  intro data
  have hne : w.got ≠ [] := fun hnil => by
    rw [hnil] at hgot
    cases hgot
  have hall : servedBefore consoles i w.got.length = consoles.flatMap clientRequests := by
    have htake : consoles = consoles.take i ++ [console] := by
      conv_lhs => rw [← List.take_length (l := consoles), ← hlast, List.take_add_one, hconsole]
      rfl
    unfold servedBefore
    rw [hconsole, Option.getD_some, hgot, List.take_length]
    conv_rhs => rw [htake, List.flatMap_append, List.flatMap_singleton]
  rw [hallAfter_session hconsole hw hne hn, hall, session_standaloneRuns]

/-- For every store the loader builds, any number of clients and everything that
is typed at them: in whatever order clients and server go on, the screen of each
client shows what its standalone run shows, up to where it waits; when nobody is
kept waiting for ever, all of it, and the server is left with the files of these
runs, as it is when the clients come one after the other. -/
theorem clients_standalone (files : CsvFiles) (session : Session) (consoles : List (List Byte)) :
    let data := (dataLoaderLoad files : AppData D × Bool).1
    let runs := standaloneRuns data consoles session
    let start := Hall.start (consoles.map clientRequests) ⟨[], session⟩
    (∀ turns (i : Nat) (console : List Byte) w, consoles[i]? = some console →
      (runHall (connection data) Handler.accepted turns start).worlds[i]? = some w →
        ∃ shown, runs.1[i]? = some shown ∧ screen (clientActs console) w.got <+: shown) ∧
    (∀ turns : FairTurns (consoles.map clientRequests).length, ∃ n, ∀ (i : Nat) (console : List Byte) w,
      consoles[i]? = some console →
      (runHallFor (connection data) Handler.accepted turns n start).worlds[i]? = some w →
        runs.1[i]? = some (screen (clientActs console) w.got) ∧
          (i + 1 = consoles.length → w.server.session = runs.2)) ∧
    (serverRun data session (consoles.map connectionOf)).session = runs.2 := by
  intro data runs start
  have hshown : ∀ (i : Nat) (console : List Byte), consoles[i]? = some console →
      runs.1[i]? = some (screen (clientActs console)
        ((answers data (sessionBefore data session consoles i) (clientRequests console)).map Event.sent)) := by
    intro i console hconsole
    have hscreen := screen_answers data (clientActs console) (requests_isLine console)
      (sessionBefore data session consoles i)
    rw [requests_clientActs] at hscreen
    rw [hscreen, sessionBefore_standalone]
    exact (standaloneRuns_getElem? data consoles session i).trans (by rw [hconsole]; rfl)
  refine ⟨fun turns i console w hconsole hw => ⟨_, hshown i console hconsole, ?_⟩, fun turns => ?_, ?_⟩
  · have hlockstep : Lockstep data (sessionBefore data session consoles i) (clientRequests console) w :=
      hallAfter_lockstep hconsole hw
    exact screen_prefix _ (hlockstep.got.trans (hlockstep.produced.map _))
  · obtain ⟨n, hn⟩ := hall_answered D files session consoles turns
    refine ⟨n, fun i console w hconsole hw => ?_⟩
    obtain ⟨hgot, hreading, -⟩ := hn i console w hconsole hw
    refine ⟨by rw [hshown i console hconsole, hgot], fun hlast => ?_⟩
    exact session_lastClient hconsole hw (by rw [hgot, List.length_map, length_answers]) hreading hlast
  · show (serverRun data session (consoles.map connectionOf)).session = (standaloneRuns data consoles session).2
    rw [session_standaloneRuns]
    exact acceptLoop_served data (acceptLoop_connectionOf data) consoles session

end Transit
