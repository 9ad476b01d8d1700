import StreamTunnel.Proofs.Mux.Turn

/-!
# Two linked multiplexers

A guest and a host that has a target. The outlet of each is a queue, and what one side sends the
other takes in that order. A `Move` is one atomic step: a client comes to the guest, a piece is read
from the socket of a stream that is there, a socket ends, or a side takes the next packet. A run is
any list of moves; a move that has nothing to act on changes nothing. `log` keeps what came to pass,
and a new socket is numbered by the length that the log has then.

A packet that makes the host dial counts as taken when the dial is over: until then the host has no
stream for it, and takes no other packet.
-/

namespace StreamTunnel

def SocketId.number : SocketId → Nat
  | client n | service n => n

inductive Side where
  | guest
  | host
deriving DecidableEq, Repr

namespace Side

def other : Side → Side
  | guest => host
  | host => guest

def socket (n : Nat) : Side → SocketId
  | guest => .client n
  | host => .service n

@[simp] theorem other_other (side : Side) : side.other.other = side := by
  cases side <;> rfl

@[simp] theorem other_ne (side : Side) : side.other ≠ side := by
  cases side <;> simp [other]

@[simp] theorem ne_other (side : Side) : side ≠ side.other :=
  (other_ne side).symm

end Side

inductive Event where
  | opened (side : Side) (r : StreamRef)
  | heard (side : Side) (r : StreamRef) (piece : Bytes)
  | queued (side : Side) (r : StreamRef) (payload : Bytes)
  | closed (side : Side) (r : StreamRef) (told : Bool)
  /-- A payload is lost: there is no stream for it, and none could be begun. -/
  | refused (side : Side) (id : StreamId) (payload : Bytes)
deriving DecidableEq, Repr

namespace Event

def id : Event → StreamId
  | opened _ r | heard _ r _ | queued _ r _ | closed _ r _ => r.id
  | refused _ id _ => id

def place? : Event → Option (Side × StreamRef)
  | opened side r | heard side r _ | queued side r _ | closed side r _ => some (side, r)
  | refused .. => none

def heardFrom (side : Side) (r : StreamRef) : Event → Bytes
  | heard side' r' piece => if side' = side ∧ r' = r then piece else []
  | _ => []

def queuedTo (side : Side) (socket : SocketId) : Event → Bytes
  | queued side' r payload => if side' = side ∧ r.socket = socket then payload else []
  | _ => []

theorem place?_of_heardFrom {e : Event} {side : Side} {r : StreamRef}
    (something : e.heardFrom side r ≠ []) : e.place? = some (side, r) := by
  cases e <;> simp only [heardFrom, ne_eq, not_true_eq_false] at something
  split at something
  · next same => simp [place?, same]
  · simp at something

theorem place?_of_queuedTo {e : Event} {side : Side} {socket : SocketId}
    (something : e.queuedTo side socket ≠ []) :
    ∃ r, e.place? = some (side, r) ∧ r.socket = socket := by
  cases e <;> simp only [queuedTo, ne_eq, not_true_eq_false] at something
  split at something
  · next r _ same => exact ⟨r, by simp [place?, same], same.2⟩
  · simp at something

theorem id_of_place? {e : Event} {side : Side} {r : StreamRef} (h : e.place? = some (side, r)) :
    e.id = r.id := by
  cases e <;> simp_all [place?, id]

/-- What the arrival of a packet brings about, from the streams before and after it. -/
def ofArrival (side : Side) (raw : Bytes) (before after : Multiplexer) : List Event :=
  match Packet.decode raw with
  | .ok ⟨id, .data, payload⟩ =>
      match before.lookup id, after.lookup id with
      | some r, _ => [queued side r payload]
      | none, some r => [opened side r, queued side r payload]
      | none, none => [refused side id payload]
  | .ok ⟨id, .disconnect, _⟩ => (before.lookup id).toList.map (closed side · true)
  | .error _ => []

end Event

structure LinkedPair where
  station : Side → Station (List Bytes)
  log : List Event := []

inductive Move where
  | attach (drawn : List StreamId)
  | read (side : Side) (r : StreamRef) (piece : Bytes)
  | ended (side : Side) (r : StreamRef)
  | failed (side : Side) (r : StreamRef)
  | deliver (side : Side) (reached : Bool)
deriving DecidableEq, Repr

namespace LinkedPair

def start (settings : Side → MuxSettings) (port : Nat) : LinkedPair where
  station
    | .guest => { mux := .start (settings .guest) false, outlet := [] }
    | .host => { mux := .start { settings .host with targetPort := some port } true, outlet := [] }

def newSocket (side : Side) (s : LinkedPair) : SocketId :=
  side.socket s.log.length

def note (side : Side) (station : Station (List Bytes)) (events : List Event) (s : LinkedPair) :
    LinkedPair where
  station := Function.update s.station side station
  log := s.log ++ events

def attach (drawn : List StreamId) (s : LinkedPair) : LinkedPair :=
  let taken := (s.station .guest).attach (s.newSocket .guest) drawn
  s.note .guest taken.2 (taken.1.toList.map (.opened .guest ·))

def closing (side : Side) (id : StreamId) (s : LinkedPair) : List Event :=
  ((s.station side).mux.lookup id).toList.map (.closed side · false)

def ended (side : Side) (r : StreamRef) (s : LinkedPair) : LinkedPair :=
  s.note side ((s.station side).readEnded .queue r)
    (if (s.station side).mux.isOpen r then s.closing side r.id else [])

def setSent (side : Side) (packets : List Bytes) (s : LinkedPair) : LinkedPair :=
  { s with
    station := Function.update s.station side { s.station side with outlet := packets } }

def receive (side : Side) (raw : Bytes) (reached : Bool) (s : LinkedPair) : LinkedPair :=
  let dialed := if reached then some (s.newSocket side) else none
  let station := (s.station side).packet .queue raw dialed
  s.note side station (Event.ofArrival side raw (s.station side).mux station.mux)

def step (s : LinkedPair) : Move → LinkedPair
  | .attach drawn => s.attach drawn
  | .read side r piece =>
      -- A read that brings no byte is the end of the stream.
      if piece.isEmpty then s.ended side r
      else s.note side ((s.station side).read .queue r piece)
        (if (s.station side).mux.isOpen r then [.heard side r piece] else [])
  | .ended side r => s.ended side r
  | .failed side r =>
      s.note side ((s.station side).writeFailed .queue r) (s.closing side r.id)
  | .deliver side reached =>
      match (s.station side.other).outlet with
      | [] => s
      | raw :: rest => (s.setSent side.other rest).receive side raw reached

def run (s : LinkedPair) (moves : List Move) : LinkedPair :=
  moves.foldl step s

/-- Data is under way when the service ends the stream, and makes the host dial again. -/
def redial (id : StreamId) : LinkedPair :=
  (start (fun _ => {}) 80).run [
    .attach [id], .read .guest ⟨id, .client 0⟩ [1, 2], .deliver .host true,
    .read .guest ⟨id, .client 0⟩ [3, 4], .ended .host ⟨id, .service 2⟩,
    .deliver .guest true, .deliver .host true]

def stream (side : Side) (id : StreamId) (s : LinkedPair) : Option StreamRef :=
  (s.station side).mux.lookup id

def sent (side : Side) (s : LinkedPair) : List Bytes :=
  (s.station side).outlet

def heardFrom (side : Side) (r : StreamRef) (s : LinkedPair) : Bytes :=
  s.log.flatMap (·.heardFrom side r)

def written (socket : SocketId) : SocketAction → Bytes
  | .write socket' payload => if socket' = socket then payload else []
  | .release _ => []

def writtenTo (side : Side) (socket : SocketId) (s : LinkedPair) : Bytes :=
  (s.station side).actions.flatMap (written socket)

end LinkedPair

inductive Letter where
  | data (payload : Bytes)
  | gone
deriving DecidableEq, Repr

namespace Letter

def payload : Letter → Bytes
  | data b => b
  | gone => []

def of? (id : StreamId) (p : Packet) : Option Letter :=
  if p.stream = id then
    some (match p.kind with
      | .data => data p.payload
      | .disconnect => gone)
  else none

def about? (id : StreamId) (raw : Bytes) : Option Letter :=
  (Packet.decode raw).toOption.bind (of? id)

end Letter

def letters (id : StreamId) (packets : List Bytes) : List Letter :=
  packets.filterMap (Letter.about? id)

def carried (id : StreamId) (packets : List Bytes) : Bytes :=
  (letters id packets).flatMap Letter.payload

end StreamTunnel
