import StreamTunnel.Proofs.Link.Budget
import StreamTunnel.Proofs.Link.Run

namespace StreamTunnel

def Signal.call? : Signal → Option ChannelCall
  | .asked call => some call
  | _ => none

def Channel.answers {σ : Type} [Channel σ] (peer : Identity) (timeout : Span) :
    List UInt32 → σ → List (Except ChannelError SessionId)
  | [], _ => []
  | port :: rest, c =>
      let (r, c) := Channel.connect peer port timeout c
      r :: answers peer timeout rest c

theorem add_ofNat_succ (port : UInt32) (i : Nat) :
    port + UInt32.ofNat (i + 1 + 1) = port + 1 + UInt32.ofNat (i + 1) := by
  rw [UInt32.ofNat_add (i + 1), UInt32.add_comm (UInt32.ofNat (i + 1)), UInt32.add_assoc]
  rfl

inductive Deed where
  | reports (e : LinkEvent)
  | asks (call : ChannelCall)
deriving DecidableEq

namespace Deed

def event? : Deed → Option LinkEvent
  | .reports e => some e
  | .asks _ => none

def call? : Deed → Option ChannelCall
  | .reports _ => none
  | .asks call => some call

def tries (peer : Identity) (timeout : Span) (attempt : Nat) (port : UInt32) (n : Nat) : List Deed :=
  (List.range n).flatMap fun i =>
    [.reports (.reconnecting (attempt + (i + 1)) (port + UInt32.ofNat (i + 1))),
      .asks (.connect peer (port + UInt32.ofNat (i + 1)) timeout)]

theorem tries_succ (peer : Identity) (timeout : Span) (attempt : Nat) (port : UInt32) (n : Nat) :
    tries peer timeout attempt port (n + 1) =
      .reports (.reconnecting (attempt + 1) (port + 1)) :: .asks (.connect peer (port + 1) timeout) ::
        tries peer timeout (attempt + 1) (port + 1) n := by
  rw [tries, List.range_succ_eq_map, List.flatMap_cons, List.flatMap_map, tries]
  simp only [add_ofNat_succ, Nat.add_assoc, Nat.add_comm 1]
  rfl

end Deed

/-- A guest that tries again: it has no session, a call is due, or it is over. -/
inductive Pursuit (τ : Type) where
  | lost (reason : CloseReason) (l : Link (Recorded τ))
  | due (w : Waiting) (l : Link (Recorded τ))
  | over (handling : Handling) (l : Link (Recorded τ))

namespace Link

variable {τ : Type}

def asked (l : Link (Recorded τ)) : List ChannelCall :=
  l.record.filterMap Signal.call?

def granted (a : Attempt) (retries : Retries) (l : Link (Recorded τ)) : Link (Recorded τ) :=
  (l.update (fun st => { st with retries })).emit (.reconnecting a.number a.virtualPort)

variable [Channel τ]

def answers (peer : Identity) (l : Link (Recorded τ)) : List (Except ChannelError SessionId) :=
  Channel.answers peer l.state.settings.connectTimeout
    ((List.range l.state.retries.remaining).map
      (fun i => l.state.retries.virtualPort + UInt32.ofNat (i + 1)))
    l.channel.channel

def tries (peer : Identity) (n : Nat) (l : Link (Recorded τ)) : List Deed :=
  Deed.tries peer l.state.settings.connectTimeout l.state.retries.attempt l.state.retries.virtualPort n

/-- Tries again, and waits for each backoff. -/
def pursue (reason : CloseReason) (l : Link (Recorded τ)) : LinkRun τ :=
  (LinkRun.handled (l.reconnect reason)).run (List.replicate l.state.retries.remaining .resume)

end Link

namespace Pursuit

variable {τ : Type}

def link : Pursuit τ → Link (Recorded τ)
  | .lost _ l => l
  | .due _ l => l
  | .over _ l => l

def news (x y : Pursuit τ) : List Deed :=
  (y.link.events.drop x.link.events.length).map .reports ++
    (y.link.asked.drop x.link.asked.length).map .asks

theorem news_eq {x y : Pursuit τ} (events : List LinkEvent) (calls : List ChannelCall)
    (reported : y.link.events = x.link.events ++ events)
    (asked : y.link.asked = x.link.asked ++ calls) :
    x.news y = events.map .reports ++ calls.map .asks := by
  rw [news, reported, asked, List.drop_left, List.drop_left]

variable [Channel τ]

def step : Pursuit τ → Pursuit τ
  | .lost reason l =>
      match l.state.peer with
      | none => .over .done (l.update (fun st => { st with phase := .closed }))
      | some peer =>
          match l.state.retries.next with
          | (.exhausted _, _) =>
              .over .done ((l.update (fun st => { st with phase := .closed })).emit
                (.disconnected reason))
          | (.fault e, r) => .over (.fault e) (l.update (fun st => { st with retries := r }))
          | (.granted a, r) => .due ⟨peer, a⟩ (l.granted a r)
  | .due w l =>
      match l.dial w.peer w.attempt.virtualPort with
      | (.ok s, l) => .over .done (l.await s)
      | (.error e, l) => .lost e.toReason l
  | .over h l => .over h l

def walk : Nat → Pursuit τ → Pursuit τ
  | 0, x => x
  | n + 1, x => walk n x.step

def log : Nat → Pursuit τ → List Deed
  | 0, _ => []
  | n + 1, x => x.news x.step ++ log n x.step

theorem walk_over (n : Nat) (h : Handling) (l : Link (Recorded τ)) :
    walk n (.over h l) = .over h l := by
  induction n with
  | zero => rfl
  | succ n ih => exact ih

theorem log_over (n : Nat) (h : Handling) (l : Link (Recorded τ)) : log n (.over h l) = [] := by
  induction n with
  | zero => rfl
  | succ n ih =>
      rw [log]
      simp [news, step, ih]

end Pursuit

namespace Link

variable {τ : Type} [Channel τ] {l l' : Link (Recorded τ)} {reason : CloseReason} {peer : Identity}
  {a : Attempt} {r : Retries}

theorem dial_answered {port : UInt32} {answer : Except ChannelError SessionId} {c : τ}
    (answered : Channel.connect peer port l.state.settings.connectTimeout l.channel.channel =
      (answer, c)) :
    ∃ noted, l.dial peer port = (answer, { l with channel := ⟨c, l.record ++ noted⟩ }) ∧
      noted.filterMap Signal.call? = [.connect peer port l.state.settings.connectTimeout] := by
  cases answer with
  | ok s =>
      refine ⟨[.asked (.connect peer port l.state.settings.connectTimeout), .gave s], ?_, rfl⟩
      simp only [dial, Channel.connect, Recorded.asking, answered, Recorded.giving]
      simp [record]
  | error e =>
      refine ⟨[.asked (.connect peer port l.state.settings.connectTimeout)], ?_, rfl⟩
      simp only [dial, Channel.connect, Recorded.asking, answered, Recorded.giving]
      rfl

/-! ## The steps are those of the link -/

theorem reconnect_of_granted (known : l.state.peer = some peer)
    (grant : l.state.retries.next = (.granted a, r)) :
    l.reconnect reason = if a.backoff.isZero then (l.granted a r).resume ⟨peer, a⟩
      else (.waiting ⟨peer, a⟩, l.granted a r) := by
  rw [reconnect, reconnectWith, known, grant]
  dsimp only
  split
  · rw [resume, ← granted]
    -- the tries that are left are as many after the call as before it
    have fewer : (l.granted a r).state.retries.remaining + 1 = l.state.retries.remaining :=
      Retries.remaining_next_of_granted grant
    rcases dial_cases peer a.virtualPort (l.granted a r) with ⟨s, c, dialed, -⟩ | ⟨e, c, dialed, -⟩
    · rw [dialed]
    · rw [dialed, ← fewer]
      rfl
  · rfl

theorem step_lost_cases (reason : CloseReason) (l : Link (Recorded τ)) :
    (∃ h l', (Pursuit.lost reason l).step = .over h l' ∧ l.reconnect reason = (h, l') ∧
      ∀ w, h ≠ .waiting w) ∨
    ∃ peer a r, l.state.peer = some peer ∧ l.state.retries.next = (.granted a, r) ∧
      (Pursuit.lost reason l).step = .due ⟨peer, a⟩ (l.granted a r) := by
  cases known : l.state.peer with
  | none =>
      left
      refine ⟨_, _, by rw [Pursuit.step, known], by rw [reconnect, reconnectWith, known], by simp⟩
  | some peer =>
      obtain ⟨⟨outcome, r⟩, next⟩ : ∃ p, l.state.retries.next = p := ⟨_, rfl⟩
      cases outcome with
      | granted a => exact .inr ⟨peer, a, r, rfl, next, by rw [Pursuit.step, known, next]⟩
      | exhausted n =>
          left
          refine ⟨_, _, by rw [Pursuit.step, known, next],
            by rw [reconnect, reconnectWith, known, next], by simp⟩
      | fault e =>
          left
          refine ⟨_, _, by rw [Pursuit.step, known, next],
            by rw [reconnect, reconnectWith, known, next], by simp⟩

theorem step_due_cases (w : Waiting) (l : Link (Recorded τ)) :
    (∃ l', (Pursuit.due w l).step = .over .done l' ∧ l.resume w = (.done, l')) ∨
    ∃ e l', (Pursuit.due w l).step = .lost (ChannelError.toReason e) l' ∧
      l.resume w = l'.reconnect e.toReason ∧ l'.state = l.state := by
  rcases dial_cases w.peer w.attempt.virtualPort l with ⟨s, c, dialed, -⟩ | ⟨e, c, dialed, -⟩
  · exact .inl ⟨_, by rw [Pursuit.step, dialed], by rw [resume, dialed]⟩
  · exact .inr ⟨e, { l with channel := c }, by rw [Pursuit.step, dialed], by rw [resume, dialed], rfl⟩

theorem run_resumes {x : LinkRun τ} (ready : ∀ w, x.handling ≠ .waiting w) (n : Nat) :
    x.run (List.replicate n .resume) = x := by
  have idle : x.step .resume = x := by
    rw [LinkRun.step]
    split
    · next w waits => exact absurd waits (ready w)
    · rfl
  induction n with
  | zero => rfl
  | succ n ih =>
      rw [List.replicate_succ, LinkRun.run, List.foldl_cons, idle]
      exact ih

theorem run_of_granted (known : l.state.peer = some peer)
    (grant : l.state.retries.next = (.granted a, r)) (n : Nat)
    (ready : ∀ w, ((LinkRun.handled ((l.granted a r).resume ⟨peer, a⟩)).run
      (.replicate n .resume)).handling ≠ .waiting w) :
    (LinkRun.handled (l.reconnect reason)).run (.replicate (n + 1) .resume) =
      (LinkRun.handled ((l.granted a r).resume ⟨peer, a⟩)).run (.replicate n .resume) := by
  rw [reconnect_of_granted known grant]
  split
  · rw [List.replicate_succ', LinkRun.run, List.foldl_append]
    exact run_resumes ready 1
  · rfl

def EndsAt (x : Pursuit τ) (steps : Nat) (y : LinkRun τ) : Prop :=
  x.walk steps = .over y.handling y.link ∧ ∀ w, y.handling ≠ .waiting w

theorem endsAt_of_over {x : Pursuit τ} {h : Handling} (stops : x.step = .over h l)
    (ready : ∀ w, h ≠ .waiting w) (steps n : Nat) :
    EndsAt x (steps + 1) ((LinkRun.handled (h, l)).run (.replicate n .resume)) := by
  rw [EndsAt, Pursuit.walk, stops, Pursuit.walk_over, run_resumes ready]
  exact ⟨rfl, ready⟩

theorem endsAt_of_due {w : Waiting} {n : Nat}
    (later : ∀ (reason : CloseReason) (l' : Link (Recorded τ)), l'.state = l.state →
      EndsAt (.lost reason l') (2 * n + 1)
        ((LinkRun.handled (l'.reconnect reason)).run (.replicate n .resume))) :
    EndsAt (.due w l) (2 * n + 2) ((LinkRun.handled (l.resume w)).run (.replicate n .resume)) := by
  rcases step_due_cases w l with ⟨l', stepped, answer⟩ | ⟨e, l', stepped, answer, same⟩
  · rw [answer]
    exact endsAt_of_over stepped (by simp) _ _
  · rw [answer, EndsAt, Pursuit.walk, stepped]
    exact later e.toReason l' same

theorem pursue_eq_walk (reason : CloseReason) (l : Link (Recorded τ)) :
    EndsAt (.lost reason l) (2 * l.state.retries.remaining + 1) (l.pursue reason) := by
  obtain ⟨n, left⟩ : ∃ n, l.state.retries.remaining = n := ⟨_, rfl⟩
  rw [pursue, left]
  induction n generalizing reason l with
  | zero =>
      rcases step_lost_cases reason l with ⟨h, l', stepped, answer, ready⟩ | ⟨peer, a, r, -, grant, -⟩
      · rw [answer]
        exact endsAt_of_over stepped ready _ _
      · have fewer := Retries.remaining_next_of_granted grant
        rw [left] at fewer
        cases fewer
  | succ n ih =>
      rcases step_lost_cases reason l with
        ⟨h, l', stepped, answer, ready⟩ | ⟨peer, a, r, known, grant, stepped⟩
      · rw [answer]
        exact endsAt_of_over stepped ready _ _
      · have fewer := (Retries.remaining_next_of_granted grant).trans left
        obtain ⟨walked, ready⟩ := endsAt_of_due (l := l.granted a r) (w := ⟨peer, a⟩) (n := n)
          fun reason l' same => ih reason l' (by rw [same]; exact Nat.succ.inj fewer)
        rw [run_of_granted known grant n ready, EndsAt, Nat.mul_succ, Pursuit.walk, stepped]
        exact ⟨walked, ready⟩

/-! ## What comes of the steps -/

theorem getLast_toReason (reason : CloseReason) (e : ChannelError) (errors : List ChannelError) :
    ((e :: errors).getLast?.map ChannelError.toReason).getD reason =
      (errors.getLast?.map ChannelError.toReason).getD e.toReason := by
  rw [List.getLast?_cons]
  cases errors.getLast? <;> rfl

structure Chased (peer : Identity) (reason : CloseReason) (l l' : Link (Recorded τ))
    (log : List Deed) : Prop where
  events : l'.events = l.events ++ log.filterMap Deed.event?
  asked : l'.asked = l.asked ++ log.filterMap Deed.call?
  few : (log.filterMap Deed.call?).length ≤ l.state.retries.remaining
  found : ∀ (errors : List ChannelError) s more,
    l.answers peer = errors.map .error ++ .ok s :: more →
      log = l.tries peer (errors.length + 1) ∧ l'.state.pending = some s
  failed : ∀ errors : List ChannelError, l.answers peer = errors.map .error →
    log = l.tries peer l.state.retries.remaining ++
        [.reports (.disconnected ((errors.getLast?.map ChannelError.toReason).getD reason))] ∧
      l'.state.phase = .closed ∧ l'.state.pending = none

theorem chased_spent (idle : l.state.pending = none) (spent : l.state.retries.remaining = 0) :
    Chased peer reason l ((l.update (fun st => { st with phase := .closed })).emit
      (.disconnected reason)) [.reports (.disconnected reason)] := by
  have silent : l.answers peer = [] := by
    rw [answers, spent]
    rfl
  constructor
  · rfl
  · exact (List.append_nil _).symm
  · exact Nat.zero_le _
  · intro errors s more answers
    rw [silent] at answers
    simp at answers
  · intro errors answers
    rw [silent, eq_comm, List.map_eq_nil_iff] at answers
    rw [answers, spent]
    exact ⟨rfl, rfl, idle⟩

structure Tries (peer : Identity) (l l' : Link (Recorded τ))
    (answer : Except ChannelError SessionId) : Prop where
  known : l'.state.peer = l.state.peer
  pending : l'.state.pending = l.state.pending
  settings : l'.state.settings = l.state.settings
  attempt : l'.state.retries.attempt = l.state.retries.attempt + 1
  port : l'.state.retries.virtualPort = l.state.retries.virtualPort + 1
  left : l'.state.retries.remaining + 1 = l.state.retries.remaining
  events : l'.events = l.events ++
    [.reconnecting (l.state.retries.attempt + 1) (l.state.retries.virtualPort + 1)]
  asked : l'.asked = l.asked ++
    [.connect peer (l.state.retries.virtualPort + 1) l.state.settings.connectTimeout]
  answers : l.answers peer = answer :: l'.answers peer

theorem Tries.tries_succ {answer : Except ChannelError SessionId} (h : Tries peer l l' answer)
    (n : Nat) : l.tries peer (n + 1) =
      .reports (.reconnecting (l.state.retries.attempt + 1) (l.state.retries.virtualPort + 1)) ::
        .asks (.connect peer (l.state.retries.virtualPort + 1) l.state.settings.connectTimeout) ::
          l'.tries peer n := by
  rw [tries, Deed.tries_succ, tries, h.settings, h.attempt, h.port]

theorem Tries.found {s : SessionId} (h : Tries peer l l' (.ok s)) :
    Chased peer reason l (l'.await s)
      [.reports (.reconnecting (l.state.retries.attempt + 1) (l.state.retries.virtualPort + 1)),
        .asks (.connect peer (l.state.retries.virtualPort + 1) l.state.settings.connectTimeout)] := by
  constructor
  · exact h.events
  · exact h.asked
  · rw [← h.left]
    exact Nat.succ_le_succ (Nat.zero_le _)
  · intro errors s' more answers
    rw [h.answers] at answers
    cases errors with
    | nil =>
        cases answers
        exact ⟨(h.tries_succ 0).symm, rfl⟩
    | cons e rest => cases answers
  · intro errors answers
    rw [h.answers] at answers
    cases errors <;> cases answers

theorem Tries.failed {e : ChannelError} {last : Link (Recorded τ)} {log : List Deed}
    (h : Tries peer l l' (.error e)) (rest : Chased peer e.toReason l' last log) :
    Chased peer reason l last
      (.reports (.reconnecting (l.state.retries.attempt + 1) (l.state.retries.virtualPort + 1)) ::
        .asks (.connect peer (l.state.retries.virtualPort + 1) l.state.settings.connectTimeout) ::
          log) := by
  constructor
  · rw [rest.events, h.events, List.append_assoc]
    rfl
  · rw [rest.asked, h.asked, List.append_assoc]
    rfl
  · rw [← h.left]
    exact Nat.succ_le_succ rest.few
  · intro errors s more answers
    rw [h.answers] at answers
    cases errors with
    | nil => cases answers
    | cons e' errors =>
        obtain ⟨-, answers⟩ := List.cons.inj answers
        obtain ⟨log, pending⟩ := rest.found errors s more answers
        rw [List.length_cons, h.tries_succ, log]
        exact ⟨rfl, pending⟩
  · intro errors answers
    rw [h.answers] at answers
    cases errors with
    | nil => cases answers
    | cons e' errors =>
        obtain ⟨same, later⟩ := List.cons.inj answers
        obtain rfl := Except.error.inj same
        obtain ⟨log, phase, pending⟩ := rest.failed errors later
        rw [← h.left, h.tries_succ, log, getLast_toReason]
        exact ⟨rfl, phase, pending⟩

theorem tries_granted (peer : Identity) (grant : l.state.retries.next = (.granted a, r)) :
    ∃ answer l', (l.granted a r).dial peer a.virtualPort = (answer, l') ∧
      l'.events = (l.granted a r).events ∧ Tries peer l l' answer := by
  have fewer := Retries.remaining_next_of_granted grant
  obtain ⟨number, port, attempt, port'⟩ := Retries.next_of_granted grant
  obtain ⟨⟨answer, c⟩, answered⟩ : ∃ p, Channel.connect peer a.virtualPort
    (l.granted a r).state.settings.connectTimeout (l.granted a r).channel.channel = p := ⟨_, rfl⟩
  obtain ⟨noted, dialed, calls⟩ := dial_answered answered
  refine ⟨answer, _, dialed, rfl, ?_⟩
  constructor
  · rfl
  · rfl
  · rfl
  · exact attempt
  · exact port'
  · exact fewer
  · rw [← number, ← port]
    rfl
  · rw [← port]
    change (l.record ++ noted).filterMap Signal.call? = _
    rw [List.filterMap_append, calls]
    rfl
  · have ports : (List.range l.state.retries.remaining).map
        (fun i => l.state.retries.virtualPort + UInt32.ofNat (i + 1)) = a.virtualPort ::
          (List.range r.remaining).map (fun i => r.virtualPort + UInt32.ofNat (i + 1)) := by
      rw [← fewer, List.range_succ_eq_map, List.map_cons, List.map_map, port, port']
      simp only [Function.comp_def, add_ofNat_succ]
      rfl
    have answered : Channel.connect peer a.virtualPort l.state.settings.connectTimeout
        l.channel.channel = (answer, c) := answered
    rw [answers, ports, Channel.answers, answered]
    rfl

def answered (l : Link (Recorded τ)) : Except ChannelError SessionId → Pursuit τ
  | .ok s => .over .done (l.await s)
  | .error e => .lost e.toReason l

theorem step_due {w : Waiting} {answer : Except ChannelError SessionId}
    (dialed : l.dial w.peer w.attempt.virtualPort = (answer, l')) :
    (Pursuit.due w l).step = l'.answered answer := by
  cases answer <;> rw [Pursuit.step, dialed, answered]

theorem log_granted (reason : CloseReason) (known : l.state.peer = some peer)
    (grant : l.state.retries.next = (.granted a, r)) :
    ∃ answer l', Tries peer l l' answer ∧ (Pursuit.lost reason l).step.step = l'.answered answer ∧
      ∀ n, (Pursuit.lost reason l).log (n + 2) =
        .reports (.reconnecting (l.state.retries.attempt + 1) (l.state.retries.virtualPort + 1)) ::
          .asks (.connect peer (l.state.retries.virtualPort + 1) l.state.settings.connectTimeout) ::
            (l'.answered answer).log n := by
  obtain ⟨answer, l', dialed, quiet, tried⟩ := tries_granted peer grant
  have first : (Pursuit.lost reason l).step = .due ⟨peer, a⟩ (l.granted a r) := by
    rw [Pursuit.step, known, grant]
  have second : (Pursuit.due ⟨peer, a⟩ (l.granted a r)).step = l'.answered answer := step_due dialed
  have reported := Pursuit.news_eq (x := .lost reason l) (y := .due ⟨peer, a⟩ (l.granted a r))
    _ [] (quiet.symm.trans tried.events) (List.append_nil _).symm
  have same : (l'.answered answer).link.events = l'.events ∧
      (l'.answered answer).link.asked = l'.asked := by
    cases answer <;> exact ⟨rfl, rfl⟩
  have called := Pursuit.news_eq (x := .due ⟨peer, a⟩ (l.granted a r)) (y := l'.answered answer) [] _
    (by rw [same.1, quiet, List.append_nil]; rfl) (same.2.trans tried.asked)
  refine ⟨answer, l', tried, by rw [first, second], fun n => ?_⟩
  rw [Pursuit.log, Pursuit.log, first, second, reported, called]
  rfl

theorem walk_of_spent (reason : CloseReason) (known : l.state.peer = some peer)
    (idle : l.state.pending = none) (spent : l.state.retries.remaining = 0) :
    ∃ l', (Pursuit.lost reason l).walk 1 = .over .done l' ∧
      Chased peer reason l l' ((Pursuit.lost reason l).log 1) := by
  have stepped : (Pursuit.lost reason l).step = .over .done
      ((l.update (fun st => { st with phase := .closed })).emit (.disconnected reason)) := by
    rw [Pursuit.step, known, Retries.next_of_spent (Nat.sub_eq_zero_iff_le.mp spent)]
  have news := Pursuit.news_eq (x := .lost reason l) (y := .over .done
    ((l.update (fun st => { st with phase := .closed })).emit (.disconnected reason)))
    [.disconnected reason] [] rfl (List.append_nil _).symm
  refine ⟨_, by rw [Pursuit.walk, stepped]; rfl, ?_⟩
  rw [Pursuit.log, stepped, news]
  exact chased_spent idle spent

theorem chased (known : l.state.peer = some peer) (idle : l.state.pending = none)
    (computes : ∀ e l', (Pursuit.lost reason l).walk (2 * l.state.retries.remaining + 1) ≠
      .over (.fault e) l') :
    ∃ l', (Pursuit.lost reason l).walk (2 * l.state.retries.remaining + 1) = .over .done l' ∧
      Chased peer reason l l' ((Pursuit.lost reason l).log (2 * l.state.retries.remaining + 1)) := by
  obtain ⟨n, left⟩ : ∃ n, l.state.retries.remaining = n := ⟨_, rfl⟩
  rw [left] at computes ⊢
  induction n generalizing reason l with
  | zero => exact walk_of_spent reason known idle left
  | succ n ih =>
      have more : l.state.retries.attempt < l.state.retries.policy.maxAttempts := by
        rw [Retries.remaining] at left
        omega
      cases grown : l.state.retries.policy.grow l.state.retries.backoff with
      | error e =>
          rw [Pursuit.walk, Pursuit.step, known, Retries.next_of_fault more grown] at computes
          exact absurd (Pursuit.walk_over ..) (computes e _)
      | ok b =>
          obtain ⟨answer, l', tried, stepped, log⟩ :=
            log_granted reason known (Retries.next_of_grown more grown)
          rw [Nat.mul_succ, Nat.add_right_comm] at computes ⊢
          rw [log]
          rw [Pursuit.walk, Pursuit.walk, stepped] at computes ⊢
          cases answer with
          | ok s =>
              rw [answered, Pursuit.log_over]
              exact ⟨l'.await s, Pursuit.walk_over .., tried.found⟩
          | error e =>
              obtain ⟨last, walked, chased⟩ := ih (tried.known.trans known)
                (tried.pending.trans idle) computes (Nat.succ.inj (tried.left.trans left))
              exact ⟨last, walked, tried.failed chased⟩

/-- What a guest does that tries again, in the order in which it does so. -/
def deeds (reason : CloseReason) (l : Link (Recorded τ)) : List Deed :=
  (Pursuit.lost reason l).log (2 * l.state.retries.remaining + 1)

/-- Each call is reported before it is made. The first session that the channel gives is waited for;
if it gives none, the guest gives up with the reason of the last failure. -/
theorem pursue_is_exact (known : l.state.peer = some peer) (idle : l.state.pending = none)
    (computes : ∀ e, (l.pursue reason).handling ≠ .fault e) :
    (l.pursue reason).handling = .done ∧
      (l.pursue reason).link.events = l.events ++ (l.deeds reason).filterMap Deed.event? ∧
      (l.pursue reason).link.asked = l.asked ++ (l.deeds reason).filterMap Deed.call? ∧
      ((l.deeds reason).filterMap Deed.call?).length ≤
        l.state.retries.policy.maxAttempts - l.state.retries.attempt ∧
      (∀ (errors : List ChannelError) s more,
        l.answers peer = errors.map .error ++ .ok s :: more →
          l.deeds reason = l.tries peer (errors.length + 1) ∧
            (l.pursue reason).link.state.pending = some s) ∧
      ∀ errors : List ChannelError, l.answers peer = errors.map .error →
        l.deeds reason = l.tries peer (l.state.retries.policy.maxAttempts - l.state.retries.attempt) ++
            [.reports (.disconnected ((errors.getLast?.map ChannelError.toReason).getD reason))] ∧
          (l.pursue reason).link.state.phase = .closed ∧
          (l.pursue reason).link.state.pending = none := by
  obtain ⟨walked, -⟩ := pursue_eq_walk reason l
  have fine : ∀ e l', (Pursuit.lost reason l).walk (2 * l.state.retries.remaining + 1) ≠
      .over (.fault e) l' := by
    intro e l' faulted
    obtain ⟨handling, -⟩ := Pursuit.over.inj (walked.symm.trans faulted)
    exact computes e handling
  obtain ⟨l', walked', chased⟩ := chased known idle fine
  obtain ⟨handling, link⟩ := Pursuit.over.inj (walked.symm.trans walked')
  rw [link]
  exact ⟨handling, chased.events, chased.asked, chased.few, chased.found, chased.failed⟩

theorem pursue_is_exact_second_call :
    let settings : LinkSettings := { retry := { initialBackoff := .ofSecs 1 } }
    let l : Link (Recorded Script) :=
      { state := { LinkState.start settings with role := some .guest, peer := some "host" }
        channel := { channel := { connects := [some .timeout] } } }
    (l.pursue .byPeer).handling = .done ∧
      (l.pursue .byPeer).link.events = [.reconnecting 1 1, .reconnecting 2 2] ∧
      (l.pursue .byPeer).link.state.pending = some ⟨1⟩ := by
  intro settings l
  have done : (l.pursue .byPeer).handling = .done := by decide +kernel
  have computes : ∀ e, (l.pursue .byPeer).handling ≠ .fault e := by simp [done]
  obtain ⟨-, events, -, -, found, -⟩ := pursue_is_exact (l := l) rfl rfl computes
  obtain ⟨deeds, pending⟩ := found [.timeout] ⟨1⟩ [.ok ⟨2⟩] rfl
  refine ⟨done, ?_, pending⟩
  rw [events, deeds]
  rfl

end Link
end StreamTunnel
