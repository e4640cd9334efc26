import Transit.Framework.Lockstep

/-!
# Clients that wait for one server

A server that has to do with one connection at a time: it serves the client
that connected first until that client has read its last response, and then
turns to the next one, while the others may already have sent a request. The
state that it keeps from one connection to the next is handed on by `accept`.

For every order in which they all go on, each client gets the answers that it
would get if the clients came one after the other (`runHall_inTurn`), and none
before those ahead of it are through. When nobody is kept waiting for ever, all
of them get all of their answers (`hall_finishes`).
-/

namespace Framework

variable {α σ ε : Type*}

/-! ## Turns -/

section Turns

variable {τ S : Type*} (step : τ → S → Option S)

/-- The state after these turns; a turn that cannot be taken changes nothing. -/
def runTurns (turns : List τ) (s : S) : S := turns.foldl (fun s turn => (step turn s).getD s) s

/-- The state after the first `n` turns of an endless order. -/
def runTurnsFor (turn : Nat → τ) (n : Nat) (s : S) : S := runTurns step ((List.range n).map turn) s

variable {step}

theorem runTurnsFor_succ (turn : Nat → τ) (n : Nat) (s : S) :
    runTurnsFor step turn (n + 1) s =
      (step (turn n) (runTurnsFor step turn n s)).getD (runTurnsFor step turn n s) := by
  unfold runTurnsFor runTurns
  rw [List.range_succ, List.map_append, List.foldl_append]
  rfl

/-- What every turn keeps, all turns keep. -/
theorem runTurns_keep {P : S → Prop} (hstep : ∀ {turn s s'}, P s → step turn s = some s' → P s')
    (turns : List τ) {s : S} (hs : P s) : P (runTurns step turns s) := by
  refine List.foldlRecOn turns _ hs fun s h turn _ => ?_
  cases hturn : step turn s with
  | none => exact h
  | some s' => exact hstep h hturn

variable {P Done : S → Prop} {live : τ → Prop} {work : S → Nat}

/-- Turns leave the state as it is, or use up work. -/
theorem runTurnsFor_work (hkeep : ∀ {turn s s'}, P s → step turn s = some s' → P s')
    (hwork : ∀ {turn s s'}, P s → step turn s = some s' → work s' < work s)
    (turn : Nat → τ) {s : S} (hs : P s) (n k : Nat) :
    runTurnsFor step turn (n + k) s = runTurnsFor step turn n s ∨
      work (runTurnsFor step turn (n + k) s) < work (runTurnsFor step turn n s) := by
  induction k with
  | zero => exact .inl rfl
  | succ k ih =>
    rw [← Nat.add_assoc, runTurnsFor_succ]
    cases hstep : step (turn (n + k)) (runTurnsFor step turn (n + k) s) with
    | none => exact ih
    | some s' =>
      have hlt := hwork (runTurns_keep hkeep ((List.range (n + k)).map turn) hs) hstep
      refine .inr ?_
      rcases ih with heq | hless
      · rw [← heq]; exact hlt
      · exact Nat.lt_trans hlt hless

/-- Where every step uses up work and some live turn can be taken until all is
done, it gets done as soon as every live turn comes again and again. -/
theorem turns_finish (hkeep : ∀ {turn s s'}, P s → step turn s = some s' → P s')
    (hwork : ∀ {turn s s'}, P s → step turn s = some s' → work s' < work s)
    (hprogress : ∀ {s}, P s → Done s ∨ ∃ turn s', live turn ∧ step turn s = some s')
    {turn : Nat → τ} (hfair : ∀ t, live t → ∀ n, ∃ m, n ≤ m ∧ turn m = t) {s : S} (hs : P s) :
    ∃ n, Done (runTurnsFor step turn n s) := by
  suffices h : ∀ m n, work (runTurnsFor step turn n s) = m → ∃ n, Done (runTurnsFor step turn n s) from h _ 0 rfl
  intro m
  induction m using Nat.strongRecOn with
  | ind m ih =>
    intro n hm
    have hkept : ∀ n, P (runTurnsFor step turn n s) := fun n => runTurns_keep hkeep ((List.range n).map turn) hs
    rcases hprogress (hkept n) with hdone | ⟨t, s', hlive, hstep⟩
    · exact ⟨n, hdone⟩
    · -- by the next such turn, some work is done
      obtain ⟨j, hj, hturn⟩ := hfair t hlive n
      obtain ⟨k, rfl⟩ : ∃ k, j = n + k := ⟨j - n, by omega⟩
      have hless : work (runTurnsFor step turn (n + k + 1) s) < m := by
        rw [← hm]
        rcases runTurnsFor_work hkeep hwork turn hs n k with heq | hlt
        · rw [runTurnsFor_succ, heq, hturn, hstep]
          exact hwork (hkept n) hstep
        · rcases runTurnsFor_work hkeep hwork turn hs (n + k) 1 with heq | hlt'
          · rw [heq]; exact hlt
          · exact Nat.lt_trans hlt' hlt
      exact ih _ hless (n + k + 1) rfl

end Turns

/-! ## The hall -/

/-- The client has read its last response, and closes the connection. -/
def World.through (w : World α σ ε) : Bool := w.pending.isEmpty && w.reading.isNone

/-- The connections in the order in which the clients connected. The first
`closed` of them are over; the server has to do with the next one, and the
`server` of those behind it is not in use. -/
structure Hall (α σ ε : Type*) where
  worlds : List (World α σ ε)
  closed : Nat

inductive HallTurn where
  | client (i : Nat)
  | server
  deriving DecidableEq

variable (p : Parties α σ ε) (accept : σ → σ)

/-- The server goes on with its connection; when the client is through and
nothing it sent is left, it turns to the next one. -/
def hallServerStep (h : Hall α σ ε) : Option (Hall α σ ε) :=
  match h.worlds[h.closed]? with
  | none => none
  | some w =>
    match serverStep p w with
    | some w' => some { h with worlds := h.worlds.set h.closed w' }
    | none =>
      if w.through then
        some { worlds := h.worlds.modify (h.closed + 1) fun next => { next with server := accept w.server }
               closed := h.closed + 1 }
      else none

def hallClientStep (i : Nat) (h : Hall α σ ε) : Option (Hall α σ ε) :=
  match h.worlds[i]? with
  | none => none
  | some w => (clientStep p w).map fun w' => { h with worlds := h.worlds.set i w' }

def hallStep : HallTurn → Hall α σ ε → Option (Hall α σ ε)
  | .client i => hallClientStep p i
  | .server => hallServerStep p accept

/-- Before the first request of each of the clients. -/
def Hall.start (clients : List (List (List α))) (s₀ : σ) : Hall α σ ε :=
  ⟨clients.map fun requests => .start requests s₀, 0⟩

/-- The state in which the server would accept client `i`, had it served the
clients before one after the other. -/
def acceptedIn (clients : List (List (List α))) (s₀ : σ) : Nat → σ
  | 0 => s₀
  | i + 1 => accept (feed p (acceptedIn clients s₀ i) (clients[i]?.getD []).flatten).1

/-- A world seen as if its client were served next: one that waits has not been
told the state of the server yet. -/
def Hall.view (h : Hall α σ ε) (s : σ) (i : Nat) (w : World α σ ε) : World α σ ε :=
  if i ≤ h.closed then w else { w with server := s }

/-- Between two turns. -/
structure HallInv (idle : σ → Prop) (clients : List (List (List α))) (s₀ : σ) (h : Hall α σ ε) : Prop where
  length : h.worlds.length = clients.length
  closed_le : h.closed ≤ clients.length
  phase : ∀ i requests w, clients[i]? = some requests → h.worlds[i]? = some w →
    Phase p idle (acceptedIn p accept clients s₀ i) requests (h.view (acceptedIn p accept clients s₀ i) i w)
  through : ∀ i w, i < h.closed → h.worlds[i]? = some w → w.through = true
  waiting : ∀ i w, h.closed < i → h.worlds[i]? = some w → w.produced = []

/-- What client `i` can tell, and what it cannot: the server does for it what it
would do if all clients before it had come and gone. -/
structure InTurn (clients : List (List (List α))) (s₀ : σ) (h : Hall α σ ε) (i : Nat)
    (requests : List (List α)) (w : World α σ ε) : Prop where
  produced : w.produced = (feed p (acceptedIn p accept clients s₀ i)
    (requests.take w.produced.length).flatten).2
  got : w.got = (w.produced.map p.bytes).take w.got.length
  between : w.reading = none → w.toServer = [] ∧ w.toClient = [] ∧ w.got.length = w.produced.length ∧
    w.produced.length + w.pending.length = requests.length
  /-- Between two requests the server is where those that it has answered have brought it. -/
  server : w.produced ≠ [] → w.reading = none →
    w.server = (feed p (acceptedIn p accept clients s₀ i) (requests.take w.got.length).flatten).1
  /-- It is answered after those ahead of it. -/
  alone : w.produced ≠ [] → ∀ j v, j < i → h.worlds[j]? = some v → v.through = true

variable {p accept} {idle : σ → Prop} {s₀ : σ} {clients : List (List (List α))} {size : Nat} {h h' : Hall α σ ε}

/-! ## One turn -/

theorem through_iff {w : World α σ ε} : w.through = true ↔ w.pending = [] ∧ w.reading = none := by
  unfold World.through
  rw [Bool.and_eq_true, List.isEmpty_iff, Option.isNone_iff_eq_none]

theorem view_of_le {s : σ} {i : Nat} {w : World α σ ε} (hi : i ≤ h.closed) : h.view s i w = w := if_pos hi

theorem view_of_lt {s : σ} {i : Nat} {w : World α σ ε} (hi : h.closed < i) :
    h.view s i w = { w with server := s } := if_neg (by omega)

/-- The client does not look at the server. -/
theorem clientStep_server (w : World α σ ε) (s : σ) :
    clientStep p { w with server := s } = (clientStep p w).map fun w' => { w' with server := s } := by
  unfold clientStep
  cases w.reading with
  | none => cases w.pending <;> rfl
  | some buf =>
    cases w.toClient with
    | nil => cases w.pending <;> rfl
    | cons a as =>
      dsimp only
      rcases p.take buf a with ⟨next, _ | _⟩ <;> rfl

theorem clientStep_produced {w w' : World α σ ε} (hstep : clientStep p w = some w') :
    w'.produced = w.produced := by
  rcases clientStep_cases hstep with ⟨r, rs, -, -, rfl⟩ | ⟨buf, a, s, next, -, -, ⟨-, rfl⟩ | ⟨-, rfl⟩⟩
  · rfl
  · rfl
  · rfl

/-- A client that is through does not go on. -/
theorem clientStep_through {w : World α σ ε} (hw : w.through = true) : clientStep p w = none := by
  obtain ⟨hp, hr⟩ := through_iff.mp hw
  unfold clientStep
  rw [hr, hp]

theorem acceptedIn_idle (hs : idle s₀) (ha : ∀ s, idle (accept s)) (i : Nat) :
    idle (acceptedIn p accept clients s₀ i) := by
  cases i with
  | zero => exact hs
  | succ i => exact ha _

theorem hallInv_start (hs : idle s₀) (ha : ∀ s, idle (accept s)) :
    HallInv p accept idle clients s₀ (Hall.start clients s₀) where
  length := List.length_map _
  closed_le := Nat.zero_le _
  phase i requests w hrequests hw := by
    rw [show (Hall.start clients s₀ : Hall α σ ε).worlds[i]? = _ from List.getElem?_map .., hrequests] at hw
    obtain rfl := Option.some.inj hw
    cases i with
    | zero => exact phase_start hs
    | succ i => exact phase_start (acceptedIn_idle hs ha (i + 1))
  through i w hi := absurd hi (Nat.not_lt_zero i)
  waiting i w _ hw := by
    rw [show (Hall.start clients s₀ : Hall α σ ε).worlds[i]? = _ from List.getElem?_map ..] at hw
    obtain ⟨requests, -, rfl⟩ := Option.map_eq_some_iff.mp hw
    rfl

theorem hallClientStep_cases {i : Nat} (hstep : hallClientStep p i h = some h') :
    ∃ w w', h.worlds[i]? = some w ∧ clientStep p w = some w' ∧ h' = { h with worlds := h.worlds.set i w' } := by
  unfold hallClientStep at hstep
  cases hw : h.worlds[i]? with
  | none => rw [hw] at hstep; cases hstep
  | some w =>
    rw [hw] at hstep
    obtain ⟨w', hw', heq⟩ := Option.map_eq_some_iff.mp hstep
    exact ⟨w, w', rfl, hw', heq.symm⟩

/-- What the server can do: a step of its connection, or the next connection. -/
theorem hallServerStep_cases (hstep : hallServerStep p accept h = some h') :
    ∃ w, h.worlds[h.closed]? = some w ∧
      ((∃ w', serverStep p w = some w' ∧ h' = { h with worlds := h.worlds.set h.closed w' }) ∨
        serverStep p w = none ∧ w.through = true ∧
          h' = { worlds := h.worlds.modify (h.closed + 1) fun next => { next with server := accept w.server }
                 closed := h.closed + 1 }) := by
  unfold hallServerStep at hstep
  cases hw : h.worlds[h.closed]? with
  | none => rw [hw] at hstep; cases hstep
  | some w =>
    rw [hw] at hstep
    dsimp only at hstep
    refine ⟨w, rfl, ?_⟩
    cases hs : serverStep p w with
    | some w' =>
      rw [hs] at hstep
      exact .inl ⟨w', rfl, (Option.some.inj hstep).symm⟩
    | none =>
      rw [hs] at hstep
      dsimp only at hstep
      split at hstep
      · rename_i hthrough
        exact .inr ⟨rfl, hthrough, (Option.some.inj hstep).symm⟩
      · cases hstep

/-- A world is replaced by one that its client or the server made of it. -/
theorem getElem?_set_cases {ws : List (World α σ ε)} {i j : Nat} {w v : World α σ ε}
    (hv : (ws.set i w)[j]? = some v) : (j = i ∧ v = w) ∨ (j ≠ i ∧ ws[j]? = some v) := by
  rw [List.getElem?_set] at hv
  by_cases hij : i = j
  · rw [if_pos hij] at hv
    split at hv
    · exact .inl ⟨hij.symm, (Option.some.inj hv).symm⟩
    · cases hv
  · rw [if_neg hij] at hv
    exact .inr ⟨Ne.symm hij, hv⟩

theorem HallInv.of_client (hinv : HallInv p accept idle clients s₀ h)
    (ha : ∀ requests ∈ clients, ∀ r ∈ requests, Answers p idle size r) {i : Nat}
    (hstep : hallClientStep p i h = some h') : HallInv p accept idle clients s₀ h' := by
  obtain ⟨w, w', hw, hclient, rfl⟩ := hallClientStep_cases hstep
  refine ⟨by rw [← hinv.length]; exact List.length_set, hinv.closed_le, ?_, ?_, ?_⟩
  · intro j requests v hrequests hv
    rcases getElem?_set_cases hv with ⟨rfl, rfl⟩ | ⟨-, hv⟩
    · have hphase := hinv.phase j requests w hrequests hw
      have hanswers := ha requests (List.mem_of_getElem? hrequests)
      show Phase p idle _ requests (h.view _ j v)
      by_cases hj : j ≤ h.closed
      · rw [view_of_le hj] at hphase ⊢
        exact hphase.of_clientStep hanswers hclient
      · rw [view_of_lt (by omega)] at hphase ⊢
        refine hphase.of_clientStep hanswers ?_
        rw [clientStep_server, hclient]
        rfl
    · exact hinv.phase j requests v hrequests hv
  · intro j v hj hv
    rcases getElem?_set_cases hv with ⟨rfl, rfl⟩ | ⟨-, hv⟩
    · rw [clientStep_through (hinv.through j w hj hw)] at hclient
      cases hclient
    · exact hinv.through j v hj hv
  · intro j v hj hv
    rcases getElem?_set_cases hv with ⟨rfl, rfl⟩ | ⟨-, hv⟩
    · rw [clientStep_produced hclient]
      exact hinv.waiting j w hj hw
    · exact hinv.waiting j v hj hv

/-- A client that is through has got everything, and the server is where its
requests have brought it. -/
theorem Phase.through {s : σ} {requests : List (List α)} {w : World α σ ε}
    (hphase : Phase p idle s requests w) (hw : w.through = true) :
    w.toServer = [] ∧ (feed p s requests.flatten) = (w.server, w.produced) := by
  obtain ⟨hp, hr⟩ := through_iff.mp hw
  cases hphase with
  | resting done hrequests _ hserver _ hdone =>
    rw [hp, List.append_nil] at hrequests
    rw [hrequests]
    exact ⟨hserver, hdone.fed⟩
  | asking done r body s hrequests hreading => rw [hreading] at hr; cases hr
  | answering done es e buf hrequests hserver hreading => rw [hreading] at hr; cases hr

theorem HallInv.of_server (hinv : HallInv p accept idle clients s₀ h)
    (ha : ∀ requests ∈ clients, ∀ r ∈ requests, Answers p idle size r)
    (hstep : hallServerStep p accept h = some h') : HallInv p accept idle clients s₀ h' := by
  obtain ⟨w, hw, ⟨w', hserver, rfl⟩ | ⟨hserver, hthrough, rfl⟩⟩ := hallServerStep_cases hstep
  · refine ⟨by rw [← hinv.length]; exact List.length_set, hinv.closed_le, ?_, ?_, ?_⟩
    · intro j requests v hrequests hv
      rcases getElem?_set_cases hv with ⟨rfl, rfl⟩ | ⟨-, hv⟩
      · have hphase := hinv.phase _ requests w hrequests hw
        show Phase p idle _ requests (h.view _ _ v)
        rw [view_of_le (Nat.le_refl _)] at hphase ⊢
        exact hphase.of_serverStep (ha requests (List.mem_of_getElem? hrequests)) hserver
      · exact hinv.phase j requests v hrequests hv
    · intro j v hj hv
      rcases getElem?_set_cases hv with ⟨rfl, -⟩ | ⟨-, hv⟩
      · exact absurd hj (Nat.lt_irrefl _)
      · exact hinv.through j v hj hv
    · intro j v hj hv
      rcases getElem?_set_cases hv with ⟨rfl, -⟩ | ⟨-, hv⟩
      · exact absurd hj (Nat.lt_irrefl _)
      · exact hinv.waiting j v hj hv
  · have hlt : h.closed < clients.length := by
      rw [← hinv.length]
      exact (List.getElem?_eq_some_iff.mp hw).1
    have hrequests : clients[h.closed]? = some clients[h.closed] := List.getElem?_eq_getElem hlt
    have hphase := hinv.phase _ _ w hrequests hw
    rw [view_of_le (Nat.le_refl _)] at hphase
    -- the next client is accepted in the state that the requests so far have led to
    have hnext : acceptedIn p accept clients s₀ (h.closed + 1) = accept w.server := by
      rw [acceptedIn, hrequests]
      exact congrArg (fun r => accept r.1) (hphase.through hthrough).2
    refine ⟨by rw [← hinv.length]; exact List.length_modify .., hlt, ?_, ?_, ?_⟩
    · intro j requests v hrequests hv
      change (h.worlds.modify (h.closed + 1) _)[j]? = some v at hv
      show Phase p idle _ requests (Hall.view ⟨_, h.closed + 1⟩ _ j v)
      rw [List.getElem?_modify] at hv
      obtain ⟨u, hu, rfl⟩ := Option.map_eq_some_iff.mp hv
      have hphase := hinv.phase j requests u hrequests hu
      rcases Nat.lt_trichotomy j (h.closed + 1) with hj | rfl | hj
      · rw [view_of_le (by omega)] at hphase
        rw [view_of_le (show j ≤ h.closed + 1 by omega), if_neg (by omega)]
        exact hphase
      · rw [view_of_lt (by omega)] at hphase
        rw [view_of_le (Nat.le_refl _), if_pos rfl]
        rw [hnext] at hphase ⊢
        exact hphase
      · rw [view_of_lt (by omega)] at hphase
        rw [view_of_lt (show h.closed + 1 < j by omega), if_neg (by omega)]
        exact hphase
    · intro j v hj hv
      change j < h.closed + 1 at hj
      change (h.worlds.modify (h.closed + 1) _)[j]? = some v at hv
      rw [List.getElem?_modify_ne _ _ (by omega)] at hv
      rcases Nat.lt_succ_iff_lt_or_eq.mp hj with hj | rfl
      · exact hinv.through j v hj hv
      · rw [hw] at hv
        obtain rfl := Option.some.inj hv
        exact hthrough
    · intro j v hj hv
      change h.closed + 1 < j at hj
      change (h.worlds.modify (h.closed + 1) _)[j]? = some v at hv
      rw [List.getElem?_modify_ne _ _ (by omega)] at hv
      exact hinv.waiting j v (by omega) hv

theorem HallInv.turn (hinv : HallInv p accept idle clients s₀ h)
    (ha : ∀ requests ∈ clients, ∀ r ∈ requests, Answers p idle size r) {turn : HallTurn}
    (hstep : hallStep p accept turn h = some h') : HallInv p accept idle clients s₀ h' := by
  cases turn with
  | client i => exact hinv.of_client ha hstep
  | server => exact hinv.of_server ha hstep

/-! ## Whole runs -/

variable (p accept) in
/-- The hall after these turns. -/
def runHall (turns : List HallTurn) (h : Hall α σ ε) : Hall α σ ε := runTurns (hallStep p accept) turns h

/-- Between two requests the server has served those that are answered, and nothing else. -/
theorem Phase.server_between {s : σ} {requests : List (List α)} {w : World α σ ε}
    (hphase : Phase p idle s requests w) (hn : w.reading = none) :
    w.server = (feed p s (requests.take w.got.length).flatten).1 := by
  cases hphase with
  | resting done hrequests _ _ _ hdone hgot =>
    have htake : requests.take w.got.length = done := by
      rw [hgot, List.length_map, hdone.length, hrequests, List.take_left]
    rw [htake, hdone.fed]
  | asking done r body s hrequests hreading => rw [hreading] at hn; cases hn
  | answering done es e buf hrequests hserver hreading => rw [hreading] at hn; cases hn

theorem HallInv.inTurn (hinv : HallInv p accept idle clients s₀ h) {i : Nat} {requests : List (List α)}
    {w : World α σ ε} (hrequests : clients[i]? = some requests) (hw : h.worlds[i]? = some w) :
    InTurn p accept clients s₀ h i requests w := by
  have hstep := (hinv.phase i requests w hrequests hw).inStep
  have hsame : (h.view (acceptedIn p accept clients s₀ i) i w).produced = w.produced ∧
      (h.view (acceptedIn p accept clients s₀ i) i w).got = w.got ∧
      (h.view (acceptedIn p accept clients s₀ i) i w).reading = w.reading ∧
      (h.view (acceptedIn p accept clients s₀ i) i w).toServer = w.toServer ∧
      (h.view (acceptedIn p accept clients s₀ i) i w).toClient = w.toClient ∧
      (h.view (acceptedIn p accept clients s₀ i) i w).pending = w.pending := by
    unfold Hall.view
    split <;> exact ⟨rfl, rfl, rfl, rfl, rfl, rfl⟩
  obtain ⟨hproduced, hgot, hreading, hserver, hclient, hpending⟩ := hsame
  have hserved : w.produced ≠ [] → i ≤ h.closed := fun hne => by
    by_contra hlt
    exact hne (hinv.waiting i w (by omega) hw)
  refine ⟨?_, ?_, fun hn => ?_, fun hne hn => ?_, fun hne j v hj hv => ?_⟩
  · have := hstep.produced
    rwa [hproduced] at this
  · have := hstep.got
    rwa [hgot, hproduced] at this
  · have := hstep.between (hreading.trans hn)
    rwa [hserver, hclient, hgot, hproduced, hpending] at this
  · have hphase := hinv.phase i requests w hrequests hw
    rw [view_of_le (hserved hne)] at hphase
    exact hphase.server_between hn
  · exact hinv.through j v (Nat.lt_of_lt_of_le hj (hserved hne)) hv

/-- Whatever the order in which they go on, each client is served in its turn. -/
theorem runHall_inTurn (ha : ∀ requests ∈ clients, ∀ r ∈ requests, Answers p idle size r) (hs : idle s₀)
    (haccept : ∀ s, idle (accept s)) (turns : List HallTurn) {i : Nat} {requests : List (List α)}
    {w : World α σ ε} (hrequests : clients[i]? = some requests)
    (hw : (runHall p accept turns (Hall.start clients s₀)).worlds[i]? = some w) :
    InTurn p accept clients s₀ (runHall p accept turns (Hall.start clients s₀)) i requests w :=
  (runTurns_keep (fun hinv hstep => hinv.turn ha hstep) turns (hallInv_start hs haccept)).inTurn hrequests hw

/-- A bound on the turns still to come. -/
def Hall.work (size : Nat) (h : Hall α σ ε) : Nat :=
  (h.worlds.map (World.work size)).sum + (h.worlds.length - h.closed)

theorem sum_set_lt {ws : List (World α σ ε)} {i : Nat} {w w' : World α σ ε} (hw : ws[i]? = some w)
    (hlt : w'.work size < w.work size) :
    ((ws.set i w').map (World.work size)).sum < (ws.map (World.work size)).sum := by
  induction ws generalizing i with
  | nil => cases hw
  | cons v ws ih =>
    cases i with
    | zero =>
      cases hw
      simp only [List.set_cons_zero, List.map_cons, List.sum_cons]
      omega
    | succ i =>
      have := ih hw
      simp only [List.set_cons_succ, List.map_cons, List.sum_cons]
      omega

theorem map_work_modify (ws : List (World α σ ε)) (i : Nat) (s : σ) :
    (ws.modify i fun next => { next with server := s }).map (World.work size) = ws.map (World.work size) := by
  refine List.ext_getElem? fun j => ?_
  rw [List.getElem?_map, List.getElem?_map, List.getElem?_modify]
  cases ws[j]? with
  | none => rfl
  | some w =>
    refine congrArg some ?_
    dsimp only
    by_cases hij : i = j
    · rw [if_pos hij]
      rfl
    · rw [if_neg hij]

theorem HallInv.work_step (hinv : HallInv p accept idle clients s₀ h)
    (ha : ∀ requests ∈ clients, ∀ r ∈ requests, Answers p idle size r) {turn : HallTurn}
    (hstep : hallStep p accept turn h = some h') : h'.work size < h.work size := by
  cases turn with
  | client i =>
    obtain ⟨w, w', hw, hclient, rfl⟩ := hallClientStep_cases hstep
    have hlt : i < clients.length := by
      rw [← hinv.length]
      exact (List.getElem?_eq_some_iff.mp hw).1
    have hphase := hinv.phase i _ w (List.getElem?_eq_getElem hlt) hw
    have hanswers := ha _ (List.getElem_mem hlt)
    have hless : w'.work size < w.work size := by
      by_cases hi : i ≤ h.closed
      · rw [view_of_le hi] at hphase
        exact hphase.work_step hanswers (show step p .client w = some w' from hclient)
      · rw [view_of_lt (by omega)] at hphase
        have hview : step p .client { w with server := acceptedIn p accept clients s₀ i } =
            some { w' with server := acceptedIn p accept clients s₀ i } := by
          show clientStep p _ = _
          rw [clientStep_server, hclient]
          rfl
        have hwork := hphase.work_step hanswers hview
        exact hwork
    have hsum := sum_set_lt hw hless
    simp only [Hall.work, List.length_set]
    omega
  | server =>
    obtain ⟨w, hw, ⟨w', hserver, rfl⟩ | ⟨-, -, rfl⟩⟩ := hallServerStep_cases hstep
    · have hlt : h.closed < clients.length := by
        rw [← hinv.length]
        exact (List.getElem?_eq_some_iff.mp hw).1
      have hphase := hinv.phase _ _ w (List.getElem?_eq_getElem hlt) hw
      rw [view_of_le (Nat.le_refl _)] at hphase
      have hsum := sum_set_lt hw (hphase.work_step (ha _ (List.getElem_mem hlt))
        (show step p .server w = some w' from hserver))
      simp only [Hall.work, List.length_set]
      omega
    · have hlt := (List.getElem?_eq_some_iff.mp hw).1
      simp only [Hall.work, map_work_modify, List.length_modify]
      omega

/-- As long as not all connections are over, somebody can go on. -/
theorem HallInv.progress (hinv : HallInv p accept idle clients s₀ h) :
    h.closed = clients.length ∨ ∃ turn h', (turn = .server ∨ ∃ i < clients.length, turn = .client i) ∧
      hallStep p accept turn h = some h' := by
  rcases Nat.lt_or_eq_of_le hinv.closed_le with hlt | heq
  · obtain ⟨w, hw⟩ : ∃ w, h.worlds[h.closed]? = some w :=
      ⟨_, List.getElem?_eq_getElem (by rw [hinv.length]; exact hlt)⟩
    have hphase := hinv.phase _ _ w (List.getElem?_eq_getElem hlt) hw
    rw [view_of_le (Nat.le_refl _)] at hphase
    rcases hphase.inStep.progress with ⟨hreading, hpending⟩ | ⟨party, w', hstep⟩
    · have hthrough := through_iff.mpr ⟨hpending, hreading⟩
      have hserver : serverStep p w = none := by
        unfold serverStep
        rw [(hphase.through hthrough).1]
      refine .inr ⟨.server, ⟨h.worlds.modify (h.closed + 1) fun next => { next with server := accept w.server },
        h.closed + 1⟩, .inl rfl, ?_⟩
      show hallServerStep p accept h = _
      unfold hallServerStep
      rw [hw]
      dsimp only
      rw [hserver, hthrough]
      rfl
    · cases party with
      | client =>
        refine .inr ⟨.client h.closed, { h with worlds := h.worlds.set h.closed w' }, .inr ⟨_, hlt, rfl⟩, ?_⟩
        show hallClientStep p h.closed h = _
        unfold hallClientStep
        rw [hw]
        dsimp only
        rw [show clientStep p w = some w' from hstep]
        rfl
      | server =>
        refine .inr ⟨.server, { h with worlds := h.worlds.set h.closed w' }, .inl rfl, ?_⟩
        show hallServerStep p accept h = _
        unfold hallServerStep
        rw [hw]
        dsimp only
        rw [show serverStep p w = some w' from hstep]
  · exact .inl heq

/-- An order in which the server and each of `n` clients get their turn again and again. -/
structure FairTurns (n : Nat) where
  turn : Nat → HallTurn
  server : ∀ k, ∃ m, k ≤ m ∧ turn m = .server
  client : ∀ i < n, ∀ k, ∃ m, k ≤ m ∧ turn m = .client i

/-- Turn by turn, the server last. -/
instance (n : Nat) : Inhabited (FairTurns n) where
  default :=
    { turn := fun m => if m % (n + 1) = n then .server else .client (m % (n + 1))
      server := fun k => ⟨(n + 1) * k + n, Nat.le_add_right_of_le (Nat.le_mul_of_pos_left k n.succ_pos), if_pos (by
        rw [Nat.mul_add_mod]
        exact Nat.mod_eq_of_lt (Nat.lt_succ_self n))⟩
      client := fun i hi k => ⟨(n + 1) * k + i, Nat.le_add_right_of_le (Nat.le_mul_of_pos_left k n.succ_pos), by
        have hmod : ((n + 1) * k + i) % (n + 1) = i := by
          rw [Nat.mul_add_mod]
          exact Nat.mod_eq_of_lt (by omega)
        rw [hmod, if_neg (by omega)]⟩ }

variable (p accept) in
/-- The hall after the first `n` turns. -/
def runHallFor (turns : FairTurns clients.length) (n : Nat) (h : Hall α σ ε) : Hall α σ ε :=
  runHall p accept ((List.range n).map turns.turn) h

/-- When nobody is kept waiting for ever, every client gets through. -/
theorem hall_finishes (ha : ∀ requests ∈ clients, ∀ r ∈ requests, Answers p idle size r) (hs : idle s₀)
    (haccept : ∀ s, idle (accept s)) (turns : FairTurns clients.length) :
    ∃ n, ∀ w ∈ (runHallFor p accept turns n (Hall.start clients s₀)).worlds, w.through = true := by
  have hkeep : ∀ {turn h h'}, HallInv p accept idle clients s₀ h → hallStep p accept turn h = some h' →
      HallInv p accept idle clients s₀ h' := fun hinv hstep => hinv.turn ha hstep
  have hstart := @hallInv_start _ _ _ p accept idle s₀ clients hs haccept
  obtain ⟨n, hn⟩ := @turns_finish _ _ (hallStep p accept) (HallInv p accept idle clients s₀)
    (fun h => h.closed = clients.length) (fun turn => turn = .server ∨ ∃ i < clients.length, turn = .client i)
    (Hall.work size) hkeep (fun hinv hstep => hinv.work_step ha hstep) (fun hinv => hinv.progress) turns.turn
    (fun t ht k => by
      rcases ht with rfl | ⟨i, hi, rfl⟩
      · exact turns.server k
      · exact turns.client i hi k) _ hstart
  refine ⟨n, fun w hw => ?_⟩
  obtain ⟨i, hi⟩ := List.mem_iff_getElem?.mp hw
  have hinv : HallInv p accept idle clients s₀ (runHallFor p accept turns n (Hall.start clients s₀)) :=
    runTurns_keep hkeep ((List.range n).map turns.turn) hstart
  refine hinv.through i w ?_ hi
  have hlt := (List.getElem?_eq_some_iff.mp hi).1
  have hlen : (runHallFor p accept turns n (Hall.start clients s₀)).worlds.length = clients.length := hinv.length
  rw [hlen] at hlt
  exact hn ▸ hlt

end Framework
