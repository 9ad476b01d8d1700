import StreamTunnel.Endpoint.Exchange
import StreamTunnel.Tunnel.End

/-!
Ends of tunnels on real endpoints. An end that is on its own meets a network in which nobody takes
its connections; two ends can be joined, so that what the guest dials is the host's listener. In
both cases a step settles: bytes, closes and events are handed over until nothing moves.
-/

namespace StreamTunnel

namespace TunnelEnd

def onEndpoint (f : Endpoint → Endpoint) (e : TunnelEnd Endpoint) : TunnelEnd Endpoint :=
  { e with link := { e.link with channel := f e.link.channel } }

def relay (e : TunnelEnd Endpoint) : TunnelEnd Endpoint :=
  let (events, channel) := e.link.channel.flushAll.takeEvents
  events.foldl (fun e ev => (e.event ev).2) { e with link := { e.link with channel } }

def meet (net : Network) (e : TunnelEnd Endpoint) : TunnelEnd Endpoint :=
  e.link.channel.dials.foldl
    (fun e (n, peer) => e.onEndpoint (·.refused n ((net.fault peer).getD Network.refusal)))
    e

def meetWith (net : Network) : Nat → TunnelEnd Endpoint → TunnelEnd Endpoint
  | 0, e => e
  | fuel + 1, e => if e.link.channel.dials.isEmpty then e else meetWith net fuel (e.meet net).relay

def settleAlone (net : Network) (e : TunnelEnd Endpoint) : TunnelEnd Endpoint :=
  meetWith net (e.settings.retryBudget + 2) e.relay

end TunnelEnd

/-- A connection between the two ends of a tunnel, by its number at each. -/
structure Wire where
  atGuest : Nat
  atHost : Nat
deriving DecidableEq, Repr

structure TunnelPair where
  host : TunnelEnd Endpoint
  guest : TunnelEnd Endpoint
  wires : List Wire := []

namespace TunnelPair

def onHost (f : TunnelEnd Endpoint → TunnelEnd Endpoint) (p : TunnelPair) : TunnelPair :=
  { p with host := f p.host }

def onGuest (f : TunnelEnd Endpoint → TunnelEnd Endpoint) (p : TunnelPair) : TunnelPair :=
  { p with guest := f p.guest }

def join (p : TunnelPair) (n : Nat) : TunnelPair :=
  if p.host.link.channel.isListening then
    let (m, endpoint) := p.host.link.channel.inbound
    let p := { p with wires := p.wires ++ [Wire.mk n m] }
    (p.onHost (·.onEndpoint (fun _ => endpoint))).onGuest (·.onEndpoint (·.established n))
  else p.onGuest (·.onEndpoint (·.refused n Network.refusal))

def carry (n m : Nat) (a b : Endpoint) : Endpoint × Endpoint :=
  let (written, closed, a) := a.takeWritten n
  let b := if written.isEmpty then b else b.act m (.write written)
  let gone := (b.connections[m]?).any (·.pipe.farGone)
  (a, if closed && !gone then b.act m .close else b)

def exchange (p : TunnelPair) (w : Wire) : TunnelPair :=
  let (guest, host) := carry w.atGuest w.atHost p.guest.link.channel p.host.link.channel
  let (host, guest) := carry w.atHost w.atGuest host guest
  (p.onHost (·.onEndpoint (fun _ => host))).onGuest (·.onEndpoint (fun _ => guest))

def hasNews (c : Connection) : Bool :=
  !c.pipe.toFar.isEmpty

def round (p : TunnelPair) : TunnelPair :=
  let p := (p.guest.link.channel.dials.map (·.1)).foldl join p
  let p := p.wires.foldl exchange p
  (p.onHost (·.relay)).onGuest (·.relay)

def isQuiet (p : TunnelPair) : Bool :=
  p.guest.link.channel.dials.isEmpty &&
    !p.guest.link.channel.flushAll.connections.any hasNews &&
    !p.host.link.channel.flushAll.connections.any hasNews

def settleWith : Nat → TunnelPair → TunnelPair
  | 0, p => p
  | fuel + 1, p =>
      let p := p.round
      if p.isQuiet then
        let p := p.round
        if p.isQuiet then p else settleWith fuel p
      else settleWith fuel p

/-- A retry of the guest takes one round; what a packet can set off takes a few. -/
def settle (p : TunnelPair) : TunnelPair :=
  settleWith (64 + 4 * p.guest.settings.retryBudget)
    ((p.onHost (·.relay)).onGuest (·.relay))

def start (p : TunnelPair) : TunnelPair :=
  ((p.onHost (fun e => e.run.2)).settle.onGuest (fun e => e.run.2)).settle

def knock (p : TunnelPair) : Knock × TunnelPair :=
  let (k, guest) := p.guest.knock
  (k, { p with guest }.settle)

def act (socket : SocketId) (a : FarAct) (p : TunnelPair) : Bool × TunnelPair :=
  if socket.isService then
    let (there, host) := p.host.act socket a
    (there, { p with host }.settle)
  else
    let (there, guest) := p.guest.act socket a
    (there, { p with guest }.settle)

def stopHost (p : TunnelPair) : TunnelPair :=
  (p.onHost (·.stop)).settle

def stopGuest (p : TunnelPair) : TunnelPair :=
  (p.onGuest (·.stop)).settle

def look (p : TunnelPair) : List (SocketId × Bytes × Bool) × TunnelPair :=
  let (clients, guest) := p.guest.sockets.look
  let (services, host) := p.host.sockets.look
  (clients ++ services,
    (p.onHost ({ · with sockets := host })).onGuest ({ · with sockets := guest }))

end TunnelPair
end StreamTunnel
