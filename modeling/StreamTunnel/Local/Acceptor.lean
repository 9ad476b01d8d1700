import StreamTunnel.Mux.Basic

namespace StreamTunnel

inductive AcceptMode where
  | concurrent
  | single
deriving DecidableEq, Repr

def AcceptMode.name : AcceptMode → String
  | .concurrent => "concurrent"
  | .single => "single"

structure Acceptor where
  mode : AcceptMode
  waiting : List SocketId := []
  /-- In single mode, the stream whose end is waited for. -/
  serving : Option StreamRef := none
  isStarted : Bool := false
  isStopped : Bool := false
deriving Repr

namespace Acceptor

def start (a : Acceptor) : Acceptor := { a with isStarted := true }

def stop (a : Acceptor) : Acceptor := { a with isStopped := true }

def isRunning (a : Acceptor) : Bool := a.isStarted && !a.isStopped

def arrive (socket : SocketId) (a : Acceptor) : Acceptor :=
  { a with waiting := a.waiting ++ [socket] }

def next? (a : Acceptor) : Option (SocketId × Acceptor) :=
  if a.isRunning && a.serving.isNone then
    match a.waiting with
    | [] => none
    | socket :: rest => some (socket, { a with waiting := rest })
  else none

def handed (r : Option StreamRef) (a : Acceptor) : Acceptor :=
  match a.mode with
  | .concurrent => a
  | .single => { a with serving := r }

def release (isOpen : StreamRef → Bool) (a : Acceptor) : Acceptor :=
  { a with serving := a.serving.filter isOpen }

def serveWith {ω : Type} (attach : SocketId → ω → Option StreamRef × ω)
    (isOpen : StreamRef → ω → Bool) : Nat → Acceptor → ω → Acceptor × ω
  | 0, a, w => (a, w)
  | fuel + 1, a, w =>
      match (a.release (isOpen · w)).next? with
      | none => (a.release (isOpen · w), w)
      | some (socket, a) =>
          let (r, w) := attach socket w
          serveWith attach isOpen fuel (a.handed r) w

def serve {ω : Type} (attach : SocketId → ω → Option StreamRef × ω)
    (isOpen : StreamRef → ω → Bool) (a : Acceptor) (w : ω) : Acceptor × ω :=
  serveWith attach isOpen (a.waiting.length + 1) a w

end Acceptor
end StreamTunnel
