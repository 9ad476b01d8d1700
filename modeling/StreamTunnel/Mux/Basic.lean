import StreamTunnel.Local.Socket
import StreamTunnel.Packet
import StreamTunnel.Time.Span

/-!
A multiplexer carries the streams of many local sockets over one outlet of packets. It knows each
stream by its id: one that began at a local client has an id drawn here, one that the peer began is
adopted under the peer's id, which a host does by dialing its target. An id for which there is no
target is missing.

The multiplexer does not touch sockets. It answers with actions on them, and is told what was read.
-/

namespace StreamTunnel

inductive Origin where
  | accepted
  | adopted
deriving DecidableEq, Repr

structure MuxSettings where
  targetPort : Option Nat := none
  chunkSize : Nat := 61440
  readBufferSize : Nat := 1048576
  dialTimeout : Span := .ofSecs 5
  notifyPeer : Bool := true
deriving DecidableEq, Repr

structure Entry where
  origin : Origin
  socket : SocketId
deriving DecidableEq, Repr

/-- One life of a stream: its id and the socket that it was made for. -/
structure StreamRef where
  id : StreamId
  socket : SocketId
deriving DecidableEq, Repr

structure Multiplexer where
  settings : MuxSettings
  isHost : Bool
  entries : Table StreamId Entry := ∅
  missing : List StreamId := []
deriving Repr

inductive SocketAction where
  | write (socket : SocketId) (payload : Bytes)
  | release (socket : SocketId)
deriving DecidableEq, Repr

/-- Where packets go: an outlet takes a packet or refuses it. -/
structure Outlet (σ : Type) where
  offer : Bytes → σ → Bool × σ

structure Outbox where
  isOpen : Bool := true
  packets : List Bytes := []
deriving DecidableEq, Repr

def Outlet.outbox : Outlet Outbox where
  offer p box :=
    if box.isOpen then (true, { box with packets := box.packets ++ [p] }) else (false, box)

namespace Multiplexer

def start (settings : MuxSettings) (isHost : Bool) : Multiplexer :=
  { settings, isHost }

def count (m : Multiplexer) : Nat :=
  m.entries.size

def ids (m : Multiplexer) : List StreamId :=
  m.entries.keys

def lookup (id : StreamId) (m : Multiplexer) : Option StreamRef :=
  (m.entries.get? id).map (fun e => ⟨id, e.socket⟩)

def isOpen (r : StreamRef) (m : Multiplexer) : Bool :=
  m.lookup r.id = some r

def isMissing (id : StreamId) (m : Multiplexer) : Bool :=
  m.missing.contains id

def owner? (socket : SocketId) (m : Multiplexer) : Option StreamRef :=
  (m.entries.toList.find? (fun e => e.2.socket = socket)).map (fun e => ⟨e.1, socket⟩)

def canDial (m : Multiplexer) : Bool :=
  m.isHost && m.settings.targetPort.isSome

def wantsDial (raw : Bytes) (m : Multiplexer) : Bool :=
  match Packet.decode raw with
  | .ok ⟨id, .data, _⟩ => m.canDial && !m.entries.contains id
  | _ => false

end Multiplexer

/-- A multiplexer at work, with the state of its outlet and the actions it asks for. -/
structure Station (σ : Type) where
  mux : Multiplexer
  outlet : σ
  actions : List SocketAction := []

namespace Station

variable {σ : Type}

def update (f : Multiplexer → Multiplexer) (s : Station σ) : Station σ :=
  { s with mux := f s.mux }

def ask (a : SocketAction) (s : Station σ) : Station σ :=
  { s with actions := s.actions ++ [a] }

def offer (out : Outlet σ) (p : Packet) (s : Station σ) : Bool × Station σ :=
  let (taken, o) := out.offer p.encode s.outlet
  (taken, { s with outlet := o })

def offerAll (out : Outlet σ) : List Packet → Station σ → (Nat × Bool) × Station σ
  | [], s => ((0, true), s)
  | p :: rest, s =>
      match s.offer out p with
      | (false, s) => ((0, false), s)
      | (true, s) =>
          let ((n, all), s) := offerAll out rest s
          ((n + 1, all), s)

def framed (id : StreamId) (payload : Bytes) (kind : PacketKind) (m : Multiplexer) : List Packet :=
  match kind with
  | .data => Packet.chunked id payload m.settings.chunkSize
  | .disconnect => [Packet.disconnect id]

def sendFramed (out : Outlet σ) (id : StreamId) (payload : Bytes) (kind : PacketKind)
    (s : Station σ) : Option Nat × Station σ :=
  let ((n, all), s) := s.offerAll out (framed id payload kind s.mux)
  (if all then some n else none, s)

def sayGone (out : Outlet σ) (id : StreamId) (s : Station σ) : Station σ :=
  (s.offer out (.disconnect id)).2

def remove (id : StreamId) (s : Station σ) : Bool × Station σ :=
  let entry := s.mux.entries.get? id
  let s := s.update (fun m =>
    { m with entries := m.entries.erase id, missing := m.missing.filter (· ≠ id) })
  match entry with
  | none => (false, s)
  | some e => (true, s.ask (.release e.socket))

def closeFromLocal (out : Outlet σ) (id : StreamId) (s : Station σ) : Station σ :=
  match s.remove id with
  | (false, s) => s
  | (true, s) => if s.mux.settings.notifyPeer then s.sayGone out id else s

def register (id : StreamId) (e : Entry) (s : Station σ) : Station σ :=
  s.update (fun m =>
    { m with entries := m.entries.insert id e, missing := m.missing.filter (· ≠ id) })

/-- Takes a local client in, under the first of the drawn ids that is free. -/
def attach (socket : SocketId) (drawn : List StreamId) (s : Station σ) :
    Option StreamRef × Station σ :=
  match StreamId.firstFree s.mux.entries.contains drawn with
  | none => (none, s)
  | some (id, _) => (some ⟨id, socket⟩, s.register id ⟨.accepted, socket⟩)

def miss (out : Outlet σ) (id : StreamId) (s : Station σ) : Station σ :=
  (s.update (fun m => { m with missing := m.missing.insert id })).sayGone out id

/-- Brings a payload to its stream. The last argument is the socket that dialing the target gives,
should it be dialed. -/
def deliver (out : Outlet σ) (id : StreamId) (payload : Bytes) (dialed : Option SocketId)
    (s : Station σ) : Station σ :=
  match s.mux.entries.get? id with
  | some e =>
      (s.update (fun m => { m with missing := m.missing.filter (· ≠ id) })).ask
        (.write e.socket payload)
  | none =>
      if s.mux.canDial then
        match dialed with
        | none => s.sayGone out id
        | some socket => (s.register id ⟨.adopted, socket⟩).ask (.write socket payload)
      else s.miss out id

/-- Ends the dial for a payload when other things may have come between. A stream that is there by now
keeps its socket. -/
def dialEnded (out : Outlet σ) (id : StreamId) (payload : Bytes) (dialed : Option SocketId)
    (s : Station σ) : Station σ :=
  match dialed with
  | none => s.sayGone out id
  | some socket =>
      match s.mux.entries.get? id with
      | some e => (s.ask (.release socket)).ask (.write e.socket payload)
      | none => (s.register id ⟨.adopted, socket⟩).ask (.write socket payload)

def packet (out : Outlet σ) (raw : Bytes) (dialed : Option SocketId) (s : Station σ) : Station σ :=
  match Packet.decode raw with
  | .error _ => s
  | .ok ⟨id, .data, payload⟩ => s.deliver out id payload dialed
  | .ok ⟨id, .disconnect, _⟩ => (s.remove id).2

def read (out : Outlet σ) (r : StreamRef) (piece : Bytes) (s : Station σ) : Station σ :=
  if s.mux.isOpen r then
    match s.sendFramed out r.id piece .data with
    | (some _, s) => s
    | (none, s) => s.closeFromLocal out r.id
  else s

def readEnded (out : Outlet σ) (r : StreamRef) (s : Station σ) : Station σ :=
  if s.mux.isOpen r then s.closeFromLocal out r.id else s

def writeFailed (out : Outlet σ) (r : StreamRef) (s : Station σ) : Station σ :=
  s.closeFromLocal out r.id

/-- Ends every stream and forgets what was missing; the peer is told nothing. -/
def teardown (s : Station σ) : Station σ :=
  let sockets := s.mux.entries.toList.map (fun e => e.2.socket)
  let s := s.update (fun m => { m with entries := ∅, missing := [] })
  { s with actions := s.actions ++ sockets.map .release }

end Station
end StreamTunnel
