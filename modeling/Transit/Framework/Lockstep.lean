import Mathlib.Algebra.BigOperators.Group.List.Basic
import Mathlib.Algebra.GroupWithZero.Nat
import Mathlib.Data.List.Basic
import Mathlib.Tactic.Common

/-!
# A client and a server that take turns

A client sends requests one at a time and reads, after each, until it has a
response; a server takes the bytes it is sent one by one, and now and then
answers. The bytes on their way are the two channels of a `World`; `step` lets
either party go on, and is `none` where it has to wait.

When the server answers every request at its last byte and the client's reader
stops at the last byte of every answer (`Whole`), the two stay in step, for
every order in which they go on (`run_inStep`). Every step uses up some of a
bounded amount of work, so that the last response is read as soon as neither
party is kept waiting for ever (`finishes`).
-/

namespace Framework

/-- The programs of the two parties: what the server does with a byte, what its
answers put on the channel, and what the client's reader does with a byte. -/
structure Parties (α σ ε : Type*) where
  serve : σ → α → σ × Option ε
  bytes : ε → List α
  take : List α → α → List α × Bool

/-- Both parties and the channels between them. `reading` is the client's buffer
while it waits for a response. -/
structure World (α σ ε : Type*) where
  pending : List (List α)
  reading : Option (List α)
  toServer : List α
  toClient : List α
  server : σ
  produced : List ε
  got : List (List α)

inductive Party where
  | client
  | server

variable {α σ ε : Type*} (p : Parties α σ ε)

def clientStep (w : World α σ ε) : Option (World α σ ε) :=
  match w.reading, w.pending, w.toClient with
  | none, [], _ => none
  | none, r :: rs, _ => some { w with pending := rs, reading := some [], toServer := w.toServer ++ r }
  | some _, _, [] => none
  | some buf, _, a :: s =>
    match p.take buf a with
    | (buf, false) => some { w with reading := some buf, toClient := s }
    | (buf, true) => some { w with reading := none, toClient := s, got := w.got ++ [buf] }

def serverStep (w : World α σ ε) : Option (World α σ ε) :=
  match w.toServer with
  | [] => none
  | a :: s =>
    match p.serve w.server a with
    | (t, none) => some { w with toServer := s, server := t }
    | (t, some e) =>
      some { w with toServer := s, server := t, toClient := w.toClient ++ p.bytes e,
                    produced := w.produced ++ [e] }

def step : Party → World α σ ε → Option (World α σ ε)
  | .client => clientStep p
  | .server => serverStep p

/-- The world after the parties went on in this order; one that has to wait does nothing. -/
def run (schedule : List Party) (w : World α σ ε) : World α σ ε :=
  schedule.foldl (fun w party => (step p party w).getD w) w

/-- An order in which each party gets its turn again and again. -/
structure FairSchedule where
  turn : Nat → Party
  fair : ∀ party n, ∃ m, n ≤ m ∧ turn m = party

/-- Turn by turn. -/
instance : Inhabited FairSchedule where
  default :=
    { turn := fun n => if n % 2 = 0 then .client else .server
      fair := fun party n => by
        cases party with
        | client => exact ⟨2 * n, by omega, if_pos (by omega)⟩
        | server => exact ⟨2 * n + 1, by omega, if_neg (by omega)⟩ }

/-- The world after the first `n` turns. -/
def runFor (schedule : FairSchedule) (n : Nat) (w : World α σ ε) : World α σ ε :=
  run p ((List.range n).map schedule.turn) w

/-- Before the first request. -/
def World.start (requests : List (List α)) (s : σ) : World α σ ε :=
  ⟨requests, none, [], [], s, [], []⟩

/-- The server alone, on a stream of bytes. -/
def feed : σ → List α → σ × List ε
  | s, [] => (s, [])
  | s, a :: as =>
    ((feed (p.serve s a).1 as).1, (p.serve s a).2.toList ++ (feed (p.serve s a).1 as).2)

/-- The client's reader stops at the last element of `response`, and not before. -/
structure Whole (response : List α) : Prop where
  ne_nil : response ≠ []
  stops : ∀ body a rest, response = body ++ a :: rest → p.take body a = (body ++ [a], rest.isEmpty)

/-- From a state in `idle`, the server answers `request` at its last byte, in no
more than `size` bytes, and is idle again. -/
def Answers (idle : σ → Prop) (size : Nat) (request : List α) : Prop :=
  ∀ s, idle s → ∃ body a t u e, request = body ++ [a] ∧ feed p s body = (t, []) ∧
    p.serve t a = (u, some e) ∧ idle u ∧ Whole p (p.bytes e) ∧ (p.bytes e).length ≤ size

/-- The server has answered the first requests and is idle again. -/
structure Answered (idle : σ → Prop) (s₀ : σ) (done : List (List α)) (s : σ) (es : List ε) : Prop where
  fed : feed p s₀ done.flatten = (s, es)
  idle : idle s
  length : es.length = done.length

/-- Where the exchange can be. -/
inductive Phase (idle : σ → Prop) (s₀ : σ) (requests : List (List α)) (w : World α σ ε) : Prop where
  /-- Nobody has to do with a request. -/
  | resting (done : List (List α)) (hr : requests = done ++ w.pending) (hreading : w.reading = none)
      (hserver : w.toServer = []) (hclient : w.toClient = [])
      (ha : Answered p idle s₀ done w.server w.produced) (hgot : w.got = w.produced.map p.bytes)
  /-- The server has not seen the end of the last request. -/
  | asking (done : List (List α)) (r body : List α) (s : σ) (hr : requests = done ++ r :: w.pending)
      (hreading : w.reading = some []) (hserver : w.toServer ≠ []) (hrest : r = body ++ w.toServer)
      (hclient : w.toClient = []) (ha : Answered p idle s₀ done s w.produced)
      (hbody : feed p s body = (w.server, [])) (hgot : w.got = w.produced.map p.bytes)
  /-- The client has not seen the end of the last response. -/
  | answering (done : List (List α)) (es : List ε) (e : ε) (buf : List α) (hr : requests = done ++ w.pending)
      (hserver : w.toServer = []) (hreading : w.reading = some buf) (hclient : w.toClient ≠ [])
      (ha : Answered p idle s₀ done w.server w.produced) (hp : w.produced = es ++ [e])
      (hwhole : Whole p (p.bytes e)) (hrest : p.bytes e = buf ++ w.toClient)
      (hgot : w.got = es.map p.bytes)

variable {p} {idle : σ → Prop} {s₀ : σ} {requests : List (List α)} {size : Nat}

theorem feed_cons (s : σ) (a : α) (as : List α) :
    feed p s (a :: as) =
      ((feed p (p.serve s a).1 as).1, (p.serve s a).2.toList ++ (feed p (p.serve s a).1 as).2) := rfl

theorem feed_singleton {s t : σ} {a : α} {o : Option ε} (h : p.serve s a = (t, o)) :
    feed p s [a] = (t, o.toList) := by
  rw [feed_cons, h]
  show (t, o.toList ++ []) = (t, o.toList)
  rw [List.append_nil]

theorem feed_append (s : σ) (as bs : List α) :
    feed p s (as ++ bs) = ((feed p (feed p s as).1 bs).1, (feed p s as).2 ++ (feed p (feed p s as).1 bs).2) := by
  induction as generalizing s with
  | nil => rfl
  | cons a as ih =>
    rw [List.cons_append, feed_cons, feed_cons, ih]
    simp only [List.append_assoc]

/-- A request is answered by one event, at its last byte. -/
theorem Answered.next {done : List (List α)} {s t u : σ} {es : List ε} {body : List α} {a : α} {e : ε}
    (h : Answered p idle s₀ done s es) (hbody : feed p s body = (t, [])) (hserve : p.serve t a = (u, some e))
    (hu : idle u) : Answered p idle s₀ (done ++ [body ++ [a]]) u (es ++ [e]) where
  fed := by
    have hlast : feed p s (body ++ [a]) = (u, [e]) := by
      rw [feed_append, hbody]
      show ((feed p t [a]).1, [] ++ (feed p t [a]).2) = (u, [e])
      rw [feed_singleton hserve]
      rfl
    rw [List.flatten_append, feed_append, h.fed, List.flatten_singleton, hlast]
  idle := hu
  length := by rw [List.length_append, List.length_append, h.length, List.length_singleton, List.length_singleton]

/-! ## One step -/

theorem phase_start (hs : idle s₀) : Phase p idle s₀ requests (World.start requests s₀ : World α σ ε) :=
  .resting [] rfl rfl rfl rfl ⟨rfl, hs, rfl⟩ rfl

/-- What a step of the client can be: it sends a request, or reads one element. -/
theorem clientStep_cases {w w' : World α σ ε} (h : clientStep p w = some w') :
    (∃ r rs, w.reading = none ∧ w.pending = r :: rs ∧
      w' = { w with pending := rs, reading := some [], toServer := w.toServer ++ r }) ∨
    ∃ buf a s next, w.reading = some buf ∧ w.toClient = a :: s ∧
      (p.take buf a = (next, false) ∧ w' = { w with reading := some next, toClient := s } ∨
        p.take buf a = (next, true) ∧ w' = { w with reading := none, toClient := s, got := w.got ++ [next] }) := by
  unfold clientStep at h
  cases hr : w.reading with
  | none =>
    rw [hr] at h
    cases hp : w.pending with
    | nil => rw [hp] at h; cases h
    | cons r rs =>
      rw [hp] at h
      exact .inl ⟨r, rs, rfl, rfl, (Option.some.inj h).symm⟩
  | some buf =>
    rw [hr] at h
    cases hc : w.toClient with
    | nil => cases hp : w.pending <;> rw [hp, hc] at h <;> cases h
    | cons a s =>
      rw [hc] at h
      dsimp only at h
      rcases ht : p.take buf a with ⟨next, _ | _⟩
      · rw [ht] at h
        exact .inr ⟨buf, a, s, next, rfl, rfl, .inl ⟨ht, (Option.some.inj h).symm⟩⟩
      · rw [ht] at h
        exact .inr ⟨buf, a, s, next, rfl, rfl, .inr ⟨ht, (Option.some.inj h).symm⟩⟩

/-- What a step of the server can be: it takes one element, and answers or does not. -/
theorem serverStep_cases {w w' : World α σ ε} (h : serverStep p w = some w') :
    ∃ a s t, w.toServer = a :: s ∧
      (p.serve w.server a = (t, none) ∧ w' = { w with toServer := s, server := t } ∨
        ∃ e, p.serve w.server a = (t, some e) ∧
          w' = { w with toServer := s, server := t, toClient := w.toClient ++ p.bytes e,
                        produced := w.produced ++ [e] }) := by
  unfold serverStep at h
  cases hs : w.toServer with
  | nil => rw [hs] at h; cases h
  | cons a s =>
    rw [hs] at h
    dsimp only at h
    rcases hv : p.serve w.server a with ⟨t, _ | e⟩
    · rw [hv] at h
      exact ⟨a, s, t, rfl, .inl ⟨hv, (Option.some.inj h).symm⟩⟩
    · rw [hv] at h
      exact ⟨a, s, t, rfl, .inr ⟨e, hv, (Option.some.inj h).symm⟩⟩

theorem Phase.of_clientStep {w w' : World α σ ε} (ha : ∀ r ∈ requests, Answers p idle size r)
    (h : Phase p idle s₀ requests w) (hstep : clientStep p w = some w') :
    Phase p idle s₀ requests w' := by
  rcases clientStep_cases hstep with ⟨r, rs, hread, hp, rfl⟩ | ⟨buf, a, s, next, hread, hs, htake⟩
  · cases h with
    | resting done hr hreading hserver hclient hdone hgot =>
      rw [hp] at hr
      -- a request is not empty: it has a last byte to be answered at
      obtain ⟨body, a, t, u, e, hbody, -⟩ := ha r (by rw [hr]; simp) w.server hdone.idle
      refine .asking done r [] w.server hr rfl ?_ ?_ hclient hdone rfl hgot
      · show w.toServer ++ r ≠ []
        rw [hserver, hbody]; simp
      · show r = [] ++ (w.toServer ++ r)
        rw [hserver, List.nil_append, List.nil_append]
    | asking done r body s hr hreading => rw [hreading] at hread; cases hread
    | answering done es e buf hr hserver hreading => rw [hreading] at hread; cases hread
  · cases h with
    | resting done hr hreading => rw [hreading] at hread; cases hread
    | asking done r body s hr hreading hserver hrest hclient => rw [hclient] at hs; cases hs
    | answering done es e buf' hr hserver hreading hclient hdone hp hwhole hrest hgot =>
      obtain rfl := Option.some_inj.mp (hreading.symm.trans hread)
      rw [hs] at hrest
      rw [hwhole.stops buf' a s hrest] at htake
      cases s with
      | nil =>
        obtain ⟨hmore, -⟩ | ⟨hlast, rfl⟩ := htake
        · cases hmore
        cases hlast
        refine .resting done hr rfl hserver rfl hdone ?_
        show w.got ++ [buf' ++ [a]] = w.produced.map p.bytes
        rw [hgot, hp, List.map_append, List.map_singleton, hrest]
      | cons b s =>
        obtain ⟨hmore, rfl⟩ | ⟨hlast, -⟩ := htake
        · cases hmore
          refine .answering done es e (buf' ++ [a]) hr hserver rfl (List.cons_ne_nil b s) hdone hp hwhole ?_ hgot
          show p.bytes e = (buf' ++ [a]) ++ b :: s
          rw [hrest, List.append_assoc, List.singleton_append]
        · cases hlast

/-- What the server does with a byte of a request: it answers the last. -/
theorem Answers.serve {r body rest : List α} {a : α} {s t : σ} (h : Answers p idle size r) (hs : idle s)
    (hr : r = body ++ a :: rest) (hbody : feed p s body = (t, [])) :
    (rest = [] ∧ ∃ u e, p.serve t a = (u, some e) ∧ idle u ∧ Whole p (p.bytes e) ∧
      (p.bytes e).length ≤ size) ∨ (rest ≠ [] ∧ ∃ u, p.serve t a = (u, none)) := by
  obtain ⟨body', a', t', u, e, hr', hfeed, hserve, hu, hwhole, hsize⟩ := h s hs
  have hcat := hr.symm.trans hr'
  cases rest with
  | nil =>
    obtain ⟨rfl, ha⟩ := List.append_inj' hcat rfl
    cases ha
    rw [hbody, Prod.mk.injEq] at hfeed
    exact .inl ⟨rfl, u, e, by rw [hfeed.1]; exact hserve, hu, hwhole, hsize⟩
  | cons b rest =>
    have hdrop := congrArg List.dropLast hcat
    rw [List.dropLast_concat, List.dropLast_append_of_ne_nil (List.cons_ne_nil _ _),
      List.dropLast_cons_of_ne_nil (List.cons_ne_nil _ _)] at hdrop
    rw [← hdrop, feed_append, hbody] at hfeed
    have hquiet := congrArg Prod.snd hfeed
    dsimp only at hquiet
    rw [feed_cons] at hquiet
    rcases hv : p.serve t a with ⟨v, _ | e⟩
    · exact .inr ⟨List.cons_ne_nil b rest, v, rfl⟩
    · rw [hv] at hquiet
      simp at hquiet

theorem Phase.of_serverStep {w w' : World α σ ε} (ha : ∀ r ∈ requests, Answers p idle size r)
    (h : Phase p idle s₀ requests w) (hstep : serverStep p w = some w') :
    Phase p idle s₀ requests w' := by
  obtain ⟨a, rest, t, hs, hserved⟩ := serverStep_cases hstep
  cases h with
  | resting done hr hreading hserver => rw [hserver] at hs; cases hs
  | answering done es e buf hr hserver => rw [hserver] at hs; cases hs
  | asking done r body s hr hreading hserver hrest hclient hdone hbody hgot =>
    rw [hs] at hrest
    rcases (ha r (by rw [hr]; simp)).serve hdone.idle hrest hbody with
      ⟨rfl, u, e, hserve, hu, hwhole, -⟩ | ⟨hne, u, hserve⟩
    · rw [hserve] at hserved
      obtain ⟨hquiet, -⟩ | ⟨e', hanswer, rfl⟩ := hserved
      · cases hquiet
      cases hanswer
      have hnext := hdone.next hbody hserve hu
      rw [← hrest] at hnext
      refine .answering (done ++ [r]) w.produced e [] ?_ rfl hreading ?_ hnext rfl hwhole ?_ hgot
      · rw [hr, List.append_assoc, List.singleton_append]
      · show w.toClient ++ p.bytes e ≠ []
        rw [hclient, List.nil_append]; exact hwhole.ne_nil
      · show p.bytes e = [] ++ (w.toClient ++ p.bytes e)
        rw [hclient, List.nil_append, List.nil_append]
    · rw [hserve] at hserved
      obtain ⟨hquiet, rfl⟩ | ⟨e', hanswer, -⟩ := hserved
      · cases hquiet
        refine .asking done r (body ++ [a]) s hr hreading hne ?_ hclient hdone ?_ hgot
        · show r = (body ++ [a]) ++ rest
          rw [hrest, List.append_assoc, List.singleton_append]
        · show feed p s (body ++ [a]) = (t, [])
          rw [feed_append, hbody]
          show ((feed p w.server [a]).1, [] ++ (feed p w.server [a]).2) = (t, [])
          rw [feed_singleton hserve]
          rfl
      · cases hanswer

/-! ## Whole runs -/

theorem phase_run (ha : ∀ r ∈ requests, Answers p idle size r) (hs : idle s₀) (schedule : List Party) :
    Phase p idle s₀ requests (run p schedule (World.start requests s₀)) := by
  refine List.foldlRecOn schedule _ (phase_start hs) fun w h party _ => ?_
  cases hstep : step p party w with
  | none => exact h
  | some w' =>
    cases party with
    | client => exact h.of_clientStep ha hstep
    | server => exact h.of_serverStep ha hstep

/-- What holds of a client and a server in step. -/
structure InStep (p : Parties α σ ε) (s₀ : σ) (requests : List (List α)) (w : World α σ ε) : Prop where
  /-- The server's answers are those to the first requests. -/
  produced : w.produced = (feed p s₀ (requests.take w.produced.length).flatten).2
  /-- The client's responses are the first of the answers, each whole. -/
  got : w.got = (w.produced.map p.bytes).take w.got.length
  /-- Between two calls nothing is left over, and nothing is missing. -/
  between : w.reading = none → w.toServer = [] ∧ w.toClient = [] ∧ w.got.length = w.produced.length ∧
    w.produced.length + w.pending.length = requests.length
  /-- The exchange goes on until the last response is read. -/
  progress : (w.reading = none ∧ w.pending = []) ∨ ∃ party w', step p party w = some w'

theorem Phase.inStep {w : World α σ ε} (h : Phase p idle s₀ requests w) : InStep p s₀ requests w := by
  cases h with
  | resting done hr hreading hserver hclient ha hgot =>
    have htake : requests.take w.produced.length = done := by
      rw [hr, ha.length, List.take_left]
    have hlen : w.got.length = w.produced.length := by rw [hgot, List.length_map]
    refine ⟨by rw [htake, ha.fed], ?_, fun _ => ⟨hserver, hclient, hlen, ?_⟩, ?_⟩
    · rw [hlen, hgot, List.take_of_length_le (Nat.le_of_eq (List.length_map _))]
    · rw [hr, List.length_append, ha.length]
    · cases hp : w.pending with
      | nil => exact .inl ⟨hreading, rfl⟩
      | cons r rs =>
        refine .inr ⟨.client, ?_⟩
        show ∃ w', clientStep p w = some w'
        unfold clientStep
        rw [hreading, hp]
        exact ⟨_, rfl⟩
  | asking done r body s hr hreading hserver hrest hclient ha hbody hgot =>
    have htake : requests.take w.produced.length = done := by
      rw [hr, ha.length, List.take_left]
    have hlen : w.got.length = w.produced.length := by rw [hgot, List.length_map]
    refine ⟨by rw [htake, ha.fed], ?_, fun hn => ?_, .inr ⟨.server, ?_⟩⟩
    · rw [hlen, hgot, List.take_of_length_le (Nat.le_of_eq (List.length_map _))]
    · rw [hreading] at hn; cases hn
    · show ∃ w', serverStep p w = some w'
      obtain ⟨a, rest, hs⟩ := List.exists_cons_of_ne_nil hserver
      unfold serverStep
      rw [hs]
      rcases hv : p.serve w.server a with ⟨v, _ | e⟩
      · simp only [hv]; exact ⟨_, rfl⟩
      · simp only [hv]; exact ⟨_, rfl⟩
  | answering done es e buf hr hserver hreading hclient ha hp hwhole hrest hgot =>
    have htake : requests.take w.produced.length = done := by
      rw [hr, ha.length, List.take_left]
    refine ⟨by rw [htake, ha.fed], ?_, fun hn => ?_, .inr ⟨.client, ?_⟩⟩
    · rw [hgot, hp, List.map_append, List.length_map, ← List.length_map p.bytes, List.take_left]
    · rw [hreading] at hn; cases hn
    · show ∃ w', clientStep p w = some w'
      obtain ⟨a, rest, hs⟩ := List.exists_cons_of_ne_nil hclient
      unfold clientStep
      rw [hreading, hs]
      rcases hv : p.take buf a with ⟨b, _ | _⟩
      · simp only [hv]; exact ⟨_, rfl⟩
      · simp only [hv]; exact ⟨_, rfl⟩

/-- Whatever the order in which they go on, client and server stay in step. -/
theorem run_inStep (ha : ∀ r ∈ requests, Answers p idle size r) (hs : idle s₀) (schedule : List Party) :
    InStep p s₀ requests (run p schedule (World.start requests s₀)) := (phase_run ha hs schedule).inStep

/-- A bound on the steps still to come, for answers of at most `size` bytes. -/
def World.work (size : Nat) (w : World α σ ε) : Nat :=
  (w.pending.map fun r => r.length + size + 1).sum + w.toServer.length +
    (if w.toServer = [] then 0 else size) + w.toClient.length

/-- Every step uses some of it up. -/
theorem Phase.work_step {w w' : World α σ ε} (ha : ∀ r ∈ requests, Answers p idle size r)
    (h : Phase p idle s₀ requests w) {party : Party} (hstep : step p party w = some w') :
    w'.work size < w.work size := by
  cases party with
  | client =>
    rcases clientStep_cases hstep with ⟨r, rs, hread, hp, rfl⟩ | ⟨buf, a, s, next, hread, hs, htake⟩
    · cases h with
      | resting done hr hreading hserver hclient =>
        simp only [World.work, hp, hserver, hclient, List.nil_append, List.map_cons, List.sum_cons,
          List.length_nil]
        split <;> omega
      | asking done r body s hr hreading => rw [hreading] at hread; cases hread
      | answering done es e buf hr hserver hreading => rw [hreading] at hread; cases hread
    · obtain ⟨-, rfl⟩ | ⟨-, rfl⟩ := htake
      · simp only [World.work, hs, List.length_cons]
        omega
      · simp only [World.work, hs, List.length_cons]
        omega
  | server =>
    obtain ⟨a, rest, t, hs, hserved⟩ := serverStep_cases hstep
    cases h with
    | resting done hr hreading hserver => rw [hserver] at hs; cases hs
    | answering done es e buf hr hserver => rw [hserver] at hs; cases hs
    | asking done r body s hr hreading hserver hrest hclient hdone hbody hgot =>
      rw [hs] at hrest
      rcases (ha r (by rw [hr]; simp)).serve hdone.idle hrest hbody with
        ⟨rfl, u, e, hserve, -, -, hsize⟩ | ⟨hne, u, hserve⟩
      · rw [hserve] at hserved
        obtain ⟨hquiet, -⟩ | ⟨e', hanswer, rfl⟩ := hserved
        · cases hquiet
        cases hanswer
        simp only [World.work, hs, hclient, List.nil_append, List.length_nil, List.length_singleton,
          ↓reduceIte, List.cons_ne_nil]
        omega
      · rw [hserve] at hserved
        obtain ⟨hquiet, rfl⟩ | ⟨e', hanswer, -⟩ := hserved
        · simp only [World.work, hs, hne, List.length_cons, ↓reduceIte, List.cons_ne_nil]
          omega
        · cases hanswer

theorem runFor_succ (schedule : FairSchedule) (n : Nat) (w : World α σ ε) :
    runFor p schedule (n + 1) w =
      (step p (schedule.turn n) (runFor p schedule n w)).getD (runFor p schedule n w) := by
  unfold runFor run
  rw [List.range_succ, List.map_append, List.foldl_append]
  rfl

/-- Turns leave the world as it is, or use up work. -/
theorem runFor_work (ha : ∀ r ∈ requests, Answers p idle size r) (hs : idle s₀) (schedule : FairSchedule)
    (n k : Nat) :
    runFor p schedule (n + k) (World.start requests s₀) = runFor p schedule n (World.start requests s₀) ∨
      (runFor p schedule (n + k) (World.start requests s₀)).work size <
        (runFor p schedule n (World.start requests s₀)).work size := by
  induction k with
  | zero => exact .inl rfl
  | succ k ih =>
    rw [← Nat.add_assoc, runFor_succ]
    cases hstep : step p (schedule.turn (n + k)) (runFor p schedule (n + k) (World.start requests s₀)) with
    | none => exact ih
    | some w' =>
      have hlt := (phase_run ha hs ((List.range (n + k)).map schedule.turn)).work_step ha hstep
      refine .inr ?_
      rcases ih with heq | hless
      · rw [← heq]; exact hlt
      · exact Nat.lt_trans hlt hless

/-- When nobody is kept waiting for ever, the last response is read. -/
theorem finishes (ha : ∀ r ∈ requests, Answers p idle size r) (hs : idle s₀) (schedule : FairSchedule) :
    ∃ n, (runFor p schedule n (World.start requests s₀)).reading = none ∧
      (runFor p schedule n (World.start requests s₀)).pending = [] := by
  suffices h : ∀ m n, (runFor p schedule n (World.start requests s₀)).work size = m →
      ∃ n, (runFor p schedule n (World.start requests s₀)).reading = none ∧
        (runFor p schedule n (World.start requests s₀)).pending = [] from h _ 0 rfl
  intro m
  induction m using Nat.strongRecOn with
  | ind m ih =>
    intro n hm
    rcases (run_inStep ha hs ((List.range n).map schedule.turn)).progress with hdone | ⟨party, w', hstep⟩
    · exact ⟨n, hdone⟩
    · -- by the next turn of that party, some work is done
      obtain ⟨j, hj, hturn⟩ := schedule.fair party n
      have hless : (runFor p schedule (j + 1) (World.start requests s₀)).work size < m := by
        rw [← hm]
        obtain ⟨k, rfl⟩ : ∃ k, j = n + k := ⟨j - n, by omega⟩
        rcases runFor_work ha hs schedule n k with heq | hlt
        · have hnow : step p party (runFor p schedule n (World.start requests s₀)) = some w' := hstep
          rw [runFor_succ, heq, hturn, hnow]
          exact (phase_run ha hs ((List.range n).map schedule.turn)).work_step ha hstep
        · rcases runFor_work ha hs schedule (n + k) 1 with heq | hlt'
          · rw [heq]; exact hlt
          · exact Nat.lt_trans hlt' hlt
      exact ih _ hless (j + 1) rfl

end Framework
