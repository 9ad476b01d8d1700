import StreamTunnel.Endpoint.Basic
import StreamTunnel.Net.Address

namespace StreamTunnel

/-- What outgoing connections meet: peers that take them, peers that refuse them, and otherwise
what the peer's text says, behind which nobody listens. -/
structure Network where
  serving : List Identity := []
  refusing : List Identity := []
deriving Repr

def Network.refusal : String := "Connection refused (os error 111)"

def Network.fault (net : Network) (peer : Identity) : Option String :=
  if net.serving.contains peer then none
  else if net.refusing.contains peer || (SocketAddress.parse peer).isSome then some refusal
  else match SocketAddress.checkHost peer with
    | .error fault => some fault.message
    | .ok () => some refusal

structure Remote where
  connection : Nat
  dialed : Bool
  number : Nat
  reader : Frame.Reader := {}
  frames : List Frame := []
deriving Repr

structure Exchange where
  endpoint : Endpoint
  network : Network := {}
  answersPings : Bool := false
  remotes : List Remote := []
deriving Repr

inductive Goal where
  | events (n : Nat)
  | ended (remote : Nat)
  | rtt (s : SessionId)
deriving DecidableEq, Repr

namespace Exchange

def update (f : Endpoint → Endpoint) (x : Exchange) : Exchange :=
  { x with endpoint := f x.endpoint }

def pipe (n : Nat) (x : Exchange) : Pipe :=
  ((x.endpoint.connections[n]?).map (·.pipe)).getD {}

def hasEnded (r : Remote) (x : Exchange) : Bool :=
  (x.pipe r.connection).hasEnded

def isGone (r : Remote) (x : Exchange) : Bool :=
  (x.pipe r.connection).farGone

def meet (connection : Nat) (dialed : Bool) (x : Exchange) : Exchange :=
  let number := (x.remotes.filter (·.dialed = dialed)).length + 1
  { x with remotes := x.remotes ++ [{ connection, dialed, number }] }

def resolve (x : Exchange) : Exchange :=
  x.endpoint.dials.foldl
    (fun x (n, peer) =>
      match x.network.fault peer with
      | none => (x.update (·.established n)).meet n false
      | some detail => x.update (·.refused n detail))
    x

def frameBytes (f : Frame) : Bytes :=
  let b := f.body
  Bytes.big 4 b.length ++ b

def pass (nanos : Nat) (x : Exchange) : Exchange :=
  x.update (fun e => { e with now := e.now + nanos })

def act (r : Remote) (a : FarAct) (x : Exchange) : Exchange :=
  (x.pass 1000).update (fun e => (e.act r.connection a).flushAll)

def isPing : Frame → Bool
  | .ping _ => true
  | _ => false

def pong : Frame → Bytes
  | .ping t => frameBytes (.pong t)
  | _ => []

def readRemote (i : Nat) (x : Exchange) : Exchange :=
  match x.remotes[i]? with
  | none => x
  | some r =>
      let (written, _, e) := x.endpoint.takeWritten r.connection
      if written.isEmpty then x
      else
        let (frames, _, reader) := (r.reader.feed written).drain
        let shown := if x.answersPings then frames.filter (!isPing ·) else frames
        let x := { x with
          endpoint := e
          remotes := x.remotes.modify i (fun r => { r with reader, frames := r.frames ++ shown }) }
        if x.answersPings then x.act r (.write (frames.flatMap pong)) else x

def round (x : Exchange) : Exchange :=
  let x := x.resolve.update Endpoint.flushAll
  (List.range x.remotes.length).foldl (fun x i => x.readRemote i) x

/-- An answer to a ping is the last thing that can follow, so three rounds leave nothing. -/
def settle (x : Exchange) : Exchange :=
  x.round.round.round

def timers (x : Exchange) : List (Nat × Nat) :=
  x.endpoint.connections.zipIdx.flatMap (fun (c, n) =>
    match c.stage with
    | .ended | .offered .. => []
    | .open _ => c.pingDue.toList.map (·, n)
    | _ => c.deadline.toList.map (·, n))

def nextTimer (x : Exchange) : Option (Nat × Nat) :=
  x.timers.foldl
    (fun best t => match best with
      | none => some t
      | some b => if t.1 < b.1 then some t else some b)
    none

def fire (due n : Nat) (x : Exchange) : Exchange :=
  let x := x.update (fun e => { e with now := Nat.max e.now due })
  (x.update (fun e => (e.expire n).ping n)).settle

def isMet (g : Goal) (x : Exchange) : Bool :=
  match g with
  | .events n => n ≤ x.endpoint.events.length
  | .ended i => (x.remotes[i]?).elim false x.hasEnded
  | .rtt s => ((x.endpoint.quality s).bind (·.rtt)).isSome

def await (g : Goal) : Nat → Exchange → Exchange
  | 0, x => x
  | fuel + 1, x =>
      if x.isMet g then x
      else match x.nextTimer with
        | none => x
        | some (due, n) => await g fuel (x.fire due n)

/-- Does one thing and lets it settle, a millisecond after the last. Time limits and pings happen
only while a goal is waited for. -/
def step {α : Type} (f : Exchange → α × Exchange) (goals : List Goal) (x : Exchange) :
    α × Exchange :=
  let (a, x) := f (x.pass Span.millisecond)
  (a, goals.foldl (fun x g => await g 10000 x) x.settle)

def dial (x : Exchange) : Bool × Exchange :=
  if x.endpoint.isListening then
    let (n, e) := x.endpoint.inbound
    (true, { x with endpoint := e }.meet n true)
  else (false, x)

def find (dialed : Bool) (number : Nat) (x : Exchange) : Option (Nat × Remote) :=
  (x.remotes.zipIdx.find? (fun (r, _) => r.dialed = dialed && r.number = number)).map
    (fun (r, i) => (i, r))

def remoteAct (r : Remote) (a : FarAct) (x : Exchange) : Bool × Exchange :=
  if x.isGone r then (false, x) else (true, x.act r a)

/-- Sends messages one after the other before any is written, and may close the session then. -/
def sendBurst (s : SessionId) (messages : List (Bytes × Reliability)) (closing : Option String)
    (x : Exchange) : List (Except ChannelError Unit) × Exchange :=
  let (results, e) := messages.foldl
    (fun (results, e) (data, r) =>
      let (result, e) := Endpoint.send s data r e
      (results ++ [result], e))
    ([], x.endpoint)
  (results, { x with endpoint := closing.elim e (e.close s ·) })

end Exchange
end StreamTunnel
