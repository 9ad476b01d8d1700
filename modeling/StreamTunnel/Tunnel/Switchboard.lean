import StreamTunnel.Channel.Basic
import StreamTunnel.Link.Basic
import StreamTunnel.Mux.Basic

namespace StreamTunnel

/-- The multiplexers of the open sessions, with the state of the outlets and the actions that were
asked for. -/
structure Switchboard (σ : Type) where
  routes : Table SessionId Multiplexer := ∅
  outlet : σ
  actions : List SocketAction := []

namespace Switchboard

variable {σ : Type}

def onRoute (s : SessionId) (f : Station σ → Station σ) (b : Switchboard σ) : Switchboard σ :=
  match b.routes.get? s with
  | none => b
  | some m =>
      let station := f { mux := m, outlet := b.outlet }
      { routes := b.routes.insert s station.mux
        outlet := station.outlet
        actions := b.actions ++ station.actions }

def openRoute (fresh : Multiplexer) (s : SessionId) (b : Switchboard σ) : Switchboard σ :=
  let b := b.onRoute s (·.teardown)
  { b with routes := b.routes.insert s fresh }

def closeRoute (s : SessionId) (b : Switchboard σ) : Switchboard σ :=
  let b := b.onRoute s (·.teardown)
  { b with routes := b.routes.erase s }

def closeAll (b : Switchboard σ) : Switchboard σ :=
  b.routes.keys.foldl (fun b s => b.closeRoute s) b

def wantsDial (s : SessionId) (data : Bytes) (b : Switchboard σ) : Bool :=
  (b.routes.get? s).any (·.wantsDial data)

/-- Applies what the link reports. The last argument but one is the socket that dialing the target
gives, should it be dialed. -/
def apply (fresh : Multiplexer) (out : SessionId → Outlet σ) (ev : LinkEvent)
    (dialed : Option SocketId) (b : Switchboard σ) : Switchboard σ :=
  match ev with
  | .opened s _ => b.openRoute fresh s
  | .closed s _ => b.closeRoute s
  | .message s data => b.onRoute s (·.packet (out s) data dialed)
  | .reconnecting .. | .disconnected _ => b

def streamCount (b : Switchboard σ) : Nat :=
  (b.routes.toList.map (fun e => e.2.count)).foldl Nat.add 0

def isOpen (r : StreamRef) (b : Switchboard σ) : Bool :=
  b.routes.toList.any (fun e => e.2.isOpen r)

def owner? (socket : SocketId) (b : Switchboard σ) : Option SessionId :=
  (b.routes.toList.find? (fun e => (e.2.owner? socket).isSome)).map (·.1)

end Switchboard
end StreamTunnel
