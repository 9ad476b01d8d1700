import StreamTunnel.Config.Settings
import StreamTunnel.Link.Basic
import StreamTunnel.Local.Acceptor
import StreamTunnel.Mux.Desk
import StreamTunnel.Tunnel.Switchboard

/-!
One end of a tunnel: a link on some channel, a switchboard with a multiplexer for each session of
the link, and local sockets. A host dials its target for the streams of its guests; a guest opens a
local port, and each client of it becomes a stream on the session that carries the link.

An end runs once. It begins by hosting or connecting, and is over when it is told to stop, when it
cannot begin, or when a guest's link is lost. Then every stream is ended, every session closed, and
nothing is opened any more.
-/

namespace StreamTunnel

inductive TunnelError where
  | link (e : LinkError)
  | entrance (address : SocketAddress) (detail : String)
  | linkLost (reason : CloseReason)
  | alreadyRunning
deriving DecidableEq, Repr

def entranceFault (address : SocketAddress) (detail : String) : String :=
  "Failed to bind " ++ address.toString ++ ": " ++ detail

def TunnelError.message : TunnelError → String
  | link e => "Connection error: " ++ e.message
  | entrance address detail => "Local listener error: " ++ entranceFault address detail
  | linkLost reason => "Link to peer lost: " ++ reason.message
  | alreadyRunning => "Tunnel already running"

inductive RunStatus where
  | notStarted
  | running
  | finished
  | failed (e : TunnelError)
deriving DecidableEq, Repr

namespace RunStatus

def isRunning (s : RunStatus) : Bool :=
  s = .running

def isOver : RunStatus → Bool
  | notStarted | running => false
  | finished | failed _ => true

end RunStatus

structure TunnelEnd (σ : Type) where
  settings : Settings
  link : Link σ
  routes : Table SessionId Multiplexer := ∅
  sockets : Sockets := {}
  drawn : Nat := 0
  acceptor : Acceptor
  status : RunStatus := .notStarted
  bindFault : Option String := none
  isBound : Bool := false
  stopRequested : Bool := false
  isDeaf : Bool := false
  inbox : List ChannelEvent := []

inductive Knock where
  | welcome
  | notBound
  | refused
deriving DecidableEq, Repr

namespace TunnelEnd

variable {σ : Type} [Channel σ]

/-- An end as it is created, in a place where the target answers and the local port can be opened or
not. -/
def ready (settings : Settings) (channel : σ) (target : Target) (bindFault : Option String) :
    TunnelEnd σ :=
  { settings
    link := .start settings.link channel
    sockets := { target }
    acceptor := { mode := settings.acceptMode }
    bindFault }

def create (settings : Settings) (channel : settings.fault = none → σ) :
    Except SettingsFault (TunnelEnd σ) :=
  match usable : settings.fault with
  | some e => .error e
  | none => .ok (ready settings (channel usable) .absent none)

def outlet (s : SessionId) : Outlet (Link σ) where
  offer p l :=
    match l.send s p with
    | (.ok (), l) => (true, l)
    | (.error _, l) => (false, l)

def board (e : TunnelEnd σ) : Switchboard (Link σ) :=
  { routes := e.routes, outlet := e.link }

def switch (f : Switchboard (Link σ) → Switchboard (Link σ)) (e : TunnelEnd σ) : TunnelEnd σ :=
  let b := f e.board
  { e with
    routes := b.routes
    link := b.outlet
    sockets := b.actions.foldl Desk.perform e.sockets }

def atDesk {α : Type} (s : SessionId) (f : Desk (Link σ) → α × Desk (Link σ)) (e : TunnelEnd σ) :
    Option α × TunnelEnd σ :=
  match e.routes.get? s with
  | none => (none, e)
  | some mux =>
      let (a, d) := f { mux, outlet := e.link, sockets := e.sockets, drawn := e.drawn }
      (some a, { e with
        routes := e.routes.insert s d.mux
        link := d.outlet
        sockets := d.sockets
        drawn := d.drawn })

def sessionCount (e : TunnelEnd σ) : Nat :=
  e.routes.size

def streamCount (e : TunnelEnd σ) : Nat :=
  e.board.streamCount

def isOpen (r : StreamRef) (e : TunnelEnd σ) : Bool :=
  e.board.isOpen r

def closeSocket (socket : SocketId) (e : TunnelEnd σ) : TunnelEnd σ :=
  { e with sockets := e.sockets.modify socket Pipe.closeNear }

def attach (socket : SocketId) (e : TunnelEnd σ) : Option StreamRef × TunnelEnd σ :=
  match e.link.state.primary with
  | none => (none, e.closeSocket socket)
  | some s =>
      match e.atDesk s (·.attach (outlet s) socket) with
      | (some r, e) => (r, e)
      | (none, e) => (none, e.closeSocket socket)

def handOn (e : TunnelEnd σ) : TunnelEnd σ :=
  let (acceptor, e) := e.acceptor.serve attach isOpen e
  { e with acceptor }

/-- The run is over: every stream ends without a word to the peer, the link is shut down, and local
clients that still wait are turned away. -/
def finish (status : RunStatus) (e : TunnelEnd σ) : TunnelEnd σ :=
  let e := e.switch (·.closeAll)
  let waiting := e.acceptor.waiting
  { e with
    status
    link := (e.link.disconnect.takeEvents).2
    sockets := waiting.foldl (fun s c => s.modify c Pipe.closeNear) e.sockets
    acceptor := { e.acceptor.stop with waiting := [] }
    isDeaf := true
    inbox := [] }

def fresh (e : TunnelEnd σ) : Multiplexer :=
  .start e.settings.mux e.link.state.isHost

def drive (e : TunnelEnd σ) (ev : LinkEvent) : TunnelEnd σ :=
  if e.status.isRunning then
    match ev with
    | .disconnected reason => e.finish (.failed (.linkLost reason))
    | .message s data =>
        if e.board.wantsDial s data then
          let (dialed, sockets) := e.sockets.dial
          { e with sockets }.switch (·.apply e.fresh outlet ev dialed)
        else e.switch (·.apply e.fresh outlet ev none)
    | _ => e.switch (·.apply e.fresh outlet ev none)
  else e

def driveAll (e : TunnelEnd σ) : TunnelEnd σ :=
  let (events, link) := e.link.takeEvents
  events.foldl drive { e with link }

/-- The link handles a channel event. Its retries have no backoff in the settings, so it never
waits. -/
def hear (e : TunnelEnd σ) (ev : ChannelEvent) : TunnelEnd σ :=
  if e.status.isRunning then { e with link := (e.link.handle ev).2 }.driveAll.handOn else e

/-- A channel event comes. One that comes before the start is kept; false if nobody listens. -/
def event (ev : ChannelEvent) (e : TunnelEnd σ) : Bool × TunnelEnd σ :=
  if e.isDeaf then (false, e)
  else if e.status = .notStarted then (true, { e with inbox := e.inbox ++ [ev] })
  else (true, e.hear ev)

def endEvents (e : TunnelEnd σ) : TunnelEnd σ :=
  { e with isDeaf := true }

def setUp (e : TunnelEnd σ) : Except TunnelError Unit × TunnelEnd σ :=
  match e.settings.role with
  | .host =>
      match e.link.host with
      | (.ok (), link) => (.ok (), { e with link })
      | (.error err, link) => (.error (.link err), { e with link })
  | .guest =>
      match e.bindFault with
      | some detail => (.error (.entrance e.settings.entrance detail), e)
      | none =>
          let e := { e with isBound := true }
          match e.link.connect (e.settings.peer.getD "") with
          | (.ok _, link) => (.ok (), { e with link, acceptor := e.acceptor.start })
          | (.error err, link) => (.error (.link err), { e with link })

def sample (e : TunnelEnd σ) : TunnelEnd σ :=
  if e.status.isRunning then { e with link := e.link.samplePing.2 } else e

/-- Starts the run. An end that was told to stop before begins all the same, and then stops. -/
def run (e : TunnelEnd σ) : Except TunnelError Unit × TunnelEnd σ :=
  if e.status = .notStarted then
    let e := { e with status := .running }.sample
    let e := match e.setUp with
      | (.error err, e) => e.finish (.failed err)
      | (.ok (), e) =>
          if e.stopRequested then e.finish .finished
          else e.inbox.foldl hear { e with inbox := [] }
    (.ok (), e)
  else (.error .alreadyRunning, e)

def stop (e : TunnelEnd σ) : TunnelEnd σ :=
  let e := { e with stopRequested := true }
  if e.status.isRunning then e.finish .finished else e

def knock (e : TunnelEnd σ) : Knock × TunnelEnd σ :=
  if !e.isBound then (.notBound, e)
  else if e.status.isOver then (.refused, e)
  else
    let (socket, sockets) := e.sockets.arrive
    (.welcome, { e with sockets, acceptor := e.acceptor.arrive socket }.handOn)

def act (socket : SocketId) (a : FarAct) (e : TunnelEnd σ) : Bool × TunnelEnd σ :=
  let (there, sockets) := e.sockets.act socket a
  let e := { e with sockets }
  match e.board.owner? socket with
  | none => (there, e)
  | some s => (there, (e.atDesk s (fun d => ((), d.readSocket (outlet s) socket))).2.handOn)

def pass (elapsed : Span) (e : TunnelEnd σ) : TunnelEnd σ :=
  if e.settings.pingInterval.nanos ≤ elapsed.nanos then e.sample else e

end TunnelEnd
end StreamTunnel
