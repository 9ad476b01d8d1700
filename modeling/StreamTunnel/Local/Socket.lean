import StreamTunnel.Bytes
import StreamTunnel.Table

/-!
Local sockets as byte pipes. A socket has a near end, held by this side of the tunnel, and a far
end, held by a client that came in or by the service that was dialed. Bytes arrive in order and none
is lost while the end that should read them is there.
-/

namespace StreamTunnel

inductive SocketId where
  | client (n : Nat)
  | service (n : Nat)
deriving DecidableEq, Repr

namespace SocketId

def rank : SocketId → Nat
  | client n => 2 * n
  | service n => 2 * n + 1

instance : LT SocketId := ⟨fun a b => a.rank < b.rank⟩

instance : DecidableLT SocketId := fun a b => inferInstanceAs (Decidable (a.rank < b.rank))

def isService : SocketId → Bool
  | service _ => true
  | client _ => false

end SocketId

inductive Ending where
  | finished
  | broken
deriving DecidableEq, Repr

structure Pipe where
  toNear : Bytes := []
  ending : Option Ending := none
  toFar : Bytes := []
  nearClosed : Bool := false
  farGone : Bool := false
deriving DecidableEq, Repr

inductive FarAct where
  | write (b : Bytes)
  | halfClose
  | close
  | reset
deriving DecidableEq, Repr

namespace Pipe

/-- A write has an effect only while both ends are there to send and to read. -/
def act (a : FarAct) (p : Pipe) : Pipe :=
  match a with
  | .write b => if p.nearClosed || p.ending.isSome then p else { p with toNear := p.toNear ++ b }
  | .halfClose => { p with ending := p.ending.or (some .finished) }
  | .close => { p with ending := p.ending.or (some .finished), farGone := true }
  | .reset => { p with ending := some .broken, farGone := true }

def write (b : Bytes) (p : Pipe) : Pipe :=
  if p.farGone then p else { p with toFar := p.toFar ++ b }

def closeNear (p : Pipe) : Pipe :=
  { p with nearClosed := true }

def hasEnded (p : Pipe) : Bool :=
  p.nearClosed || p.farGone

end Pipe

/-- What answers at the local port that is dialed for new streams. A silent one takes connections
and never shows them. -/
inductive Target where
  | absent
  | serving
  | refusing
  | silent
deriving DecidableEq, Repr

structure Sockets where
  pipes : Table SocketId Pipe := ∅
  clients : Nat := 0
  services : Nat := 0
  target : Target := .absent
deriving Repr

namespace Sockets

def arrive (s : Sockets) : SocketId × Sockets :=
  let id := SocketId.client (s.clients + 1)
  (id, { s with clients := s.clients + 1, pipes := s.pipes.insert id {} })

def dial (s : Sockets) : Option SocketId × Sockets :=
  match s.target with
  | .absent | .refusing => (none, s)
  | .serving | .silent =>
      let id := SocketId.service (s.services + 1)
      (some id, { s with services := s.services + 1, pipes := s.pipes.insert id {} })

def modify (id : SocketId) (f : Pipe → Pipe) (s : Sockets) : Sockets :=
  { s with pipes := s.pipes.modify id f }

def act (id : SocketId) (a : FarAct) (s : Sockets) : Bool × Sockets :=
  match s.pipes.get? id with
  | none => (false, s)
  | some p => if p.farGone then (false, s) else (true, s.modify id (·.act a))

/-- What each far end received since it last looked, and whether its socket ended. The ends of a
silent target are not seen. -/
def look (s : Sockets) : List (SocketId × Bytes × Bool) × Sockets :=
  let seen := s.pipes.toList.filter (fun e => !(e.1.isService && s.target = .silent))
  (seen.map (fun e => (e.1, e.2.toFar, e.2.hasEnded)),
    { s with pipes := ⟨s.pipes.toList.map (fun e => (e.1, { e.2 with toFar := [] }))⟩ })

end Sockets
end StreamTunnel
