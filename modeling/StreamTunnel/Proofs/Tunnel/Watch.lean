import StreamTunnel.Proofs.Tunnel.Run

/-!
# A host under watch

A `Watch` is a host with what an observer of one session sees: the events of the session, and what the
far ends of its sockets do. `Solo` is a machine that has nothing but this one session; the sockets of
the session are numbered there in the order in which they were dialed.
-/

namespace StreamTunnel

/-- A channel of which the answers to sends are set: of the packets on a session the `n`-th is taken or
not as `takes` has it. -/
structure Answered (τ : Type) where
  channel : τ
  takes : SessionId → Nat → Bool
  sent : List (SessionId × Bytes) := []

namespace Answered

variable {τ : Type}

def on (s : SessionId) (c : Answered τ) : List Bytes :=
  (c.sent.filter (·.1 = s)).map (·.2)

def asking {α : Type} (r : α × τ) (c : Answered τ) : α × Answered τ :=
  (r.1, { c with channel := r.2 })

instance [Channel τ] : Channel (Answered τ) where
  listen c := c.asking (Channel.listen c.channel)
  closeListener c := { c with channel := Channel.closeListener c.channel }
  connect peer port timeout c := c.asking (Channel.connect peer port timeout c.channel)
  accept s c := c.asking (Channel.accept s c.channel)
  send s data r c :=
    (if c.takes s (c.on s).length then .ok () else .error .connectionClosed,
      { c with channel := (Channel.send s data r c.channel).2, sent := c.sent ++ [(s, data)] })
  quality s c := c.asking (Channel.quality s c.channel)
  close s reason c := { c with channel := Channel.close s reason c.channel }

end Answered

/-- What is heard of one session. -/
inductive News where
  | opened
  | closed
  | message (data : Bytes)
  | far (n : Nat) (a : FarAct)
  | over
deriving DecidableEq

structure Solo where
  route : Option Multiplexer := none
  sockets : Sockets
  sent : List Bytes := []

namespace Solo

def lane (takes : Nat → Bool) : Outlet (List Bytes) where
  offer p sent := (takes sent.length, sent ++ [p])

def desk (y : Solo) (m : Multiplexer) : Desk (List Bytes) :=
  { mux := m, outlet := y.sent, sockets := y.sockets }

def work (f : Desk (List Bytes) → Desk (List Bytes)) (y : Solo) : Solo :=
  match y.route with
  | none => y
  | some m =>
      let d := f (y.desk m)
      { route := some d.mux, sockets := d.sockets, sent := d.outlet }

def hear (fresh : Multiplexer) (takes : Nat → Bool) (y : Solo) : News → Solo
  | .opened => { y.work (·.teardown) with route := some fresh }
  | .closed | .over => { y.work (·.teardown) with route := none }
  | .message data => y.work (·.packet (lane takes) data)
  | .far n a =>
      { y with sockets := (y.sockets.act (.service (n + 1)) a).2 }.work
        (·.readSocket (lane takes) (.service (n + 1)))

def run (fresh : Multiplexer) (takes : Nat → Bool) (y : Solo) (news : List News) : Solo :=
  news.foldl (hear fresh takes) y

def start (target : Target) : Solo :=
  { sockets := { target } }

end Solo

/-- A host and what an observer of one session sees. -/
structure Watch (τ : Type) where
  host : TunnelEnd (Answered τ)
  own : List SocketId := []
  news : List News := []

/-- The sockets of a session, numbered in the order in which they were dialed. -/
def number (own : List SocketId) (socket : SocketId) : SocketId :=
  .service (own.idxOf socket + 1)

namespace TunnelEnd

variable {σ : Type}

def newsOf (s : SessionId) (e : TunnelEnd σ) (ev : LinkEvent) : List News :=
  if e.status.isRunning then
    match ev with
    | .opened s' _ => if s' = s then [.opened] else []
    | .closed s' _ => if s' = s then [.closed] else []
    | .message s' data => if s' = s then [.message data] else []
    | .disconnected _ => [.over]
    | .reconnecting .. => []
  else []

def dialedFor (s : SessionId) (e : TunnelEnd σ) (ev : LinkEvent) : List SocketId :=
  match ev with
  | .message s' data =>
      if s' = s ∧ e.status.isRunning ∧ e.board.wantsDial s data then e.sockets.dial.1.toList else []
  | _ => []

end TunnelEnd

namespace Watch

variable {τ : Type} [Channel τ]

def drive (s : SessionId) (x : Watch τ) (ev : LinkEvent) : Watch τ where
  host := x.host.drive ev
  own := x.own ++ x.host.dialedFor s ev
  news := x.news ++ x.host.newsOf s ev

def finish (status : RunStatus) (x : Watch τ) : Watch τ :=
  { x with host := x.host.finish status, news := x.news ++ [.over] }

def hear (s : SessionId) (x : Watch τ) (ev : ChannelEvent) : Watch τ :=
  if x.host.status.isRunning then
    let (events, link) := (x.host.link.handle ev).2.takeEvents
    let x := events.foldl (drive s) { x with host := { x.host with link } }
    { x with host := x.host.handOn }
  else x

def begin (s : SessionId) (x : Watch τ) : Watch τ :=
  match { x.host with status := .running }.sample.setUp with
  | (.error err, e) => finish (.failed err) { x with host := e }
  | (.ok (), e) =>
      if e.stopRequested then finish .finished { x with host := e }
      else e.inbox.foldl (hear s) { x with host := { e with inbox := [] } }

/-- As `TunnelEnd.step`, with a look at the session. -/
def step (s : SessionId) (x : Watch τ) : EndAct → Watch τ
  | .start => if x.host.status = .notStarted then x.begin s else x
  | .event ev =>
      if x.host.isDeaf then x
      else if x.host.status = .notStarted then
        { x with host := { x.host with inbox := x.host.inbox ++ [ev] } }
      else x.hear s ev
  | .far socket a =>
      { x with
        host := x.host.step (.far socket a)
        news := x.news ++ if socket ∈ x.own then [.far (x.own.idxOf socket) a] else [] }
  | .stop =>
      { x with
        host := x.host.stop
        news := x.news ++ if x.host.status.isRunning then [.over] else [] }
  | .endEvents => { x with host := x.host.endEvents }
  | .knock => { x with host := x.host.step .knock }
  | .pass elapsed => { x with host := x.host.pass elapsed }

def run (s : SessionId) (acts : List EndAct) (x : Watch τ) : Watch τ :=
  acts.foldl (step s) x

theorem host_drives (s : SessionId) (events : List LinkEvent) (x : Watch τ) :
    (events.foldl (drive s) x).host = events.foldl TunnelEnd.drive x.host := by
  induction events generalizing x with
  | nil => rfl
  | cons ev rest ih => exact ih (x.drive s ev)

theorem host_hear (s : SessionId) (x : Watch τ) (ev : ChannelEvent) :
    (x.hear s ev).host = x.host.hear ev := by
  rw [hear, TunnelEnd.hear]
  split
  · exact congrArg TunnelEnd.handOn (host_drives s _ _)
  · rfl

theorem host_hears (s : SessionId) (events : List ChannelEvent) (x : Watch τ) :
    (events.foldl (hear s) x).host = events.foldl TunnelEnd.hear x.host := by
  induction events generalizing x with
  | nil => rfl
  | cons ev rest ih =>
      rw [List.foldl_cons, List.foldl_cons, ih, host_hear]

theorem host_begin (s : SessionId) (x : Watch τ) (new : x.host.status = .notStarted) :
    (x.begin s).host = x.host.run.2 := by
  rw [begin, TunnelEnd.run, if_pos new]
  dsimp only
  generalize { x.host with status := .running }.sample.setUp = r
  obtain ⟨result, e⟩ := r
  cases result with
  | error err => rfl
  | ok done =>
      dsimp only
      split
      · rfl
      · exact host_hears s e.inbox _

theorem host_step (s : SessionId) (x : Watch τ) (a : EndAct) : (x.step s a).host = x.host.step a := by
  cases a with
  | start =>
      rw [step, TunnelEnd.step]
      split
      · next new => exact host_begin s x new
      · next again => rw [TunnelEnd.run, if_neg again]
  | event ev =>
      rw [step, TunnelEnd.step, TunnelEnd.event]
      split
      · rfl
      · split
        · rfl
        · exact host_hear s x ev
  | endEvents | knock | far | pass | stop => rfl

theorem host_run (s : SessionId) (acts : List EndAct) (x : Watch τ) :
    (x.run s acts).host = acts.foldl TunnelEnd.step x.host := by
  induction acts generalizing x with
  | nil => rfl
  | cons a rest ih =>
      rw [List.foldl_cons, ← host_step s]
      exact ih (x.step s a)

end Watch

end StreamTunnel
