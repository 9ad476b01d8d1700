import StreamTunnel.Channel.Basic
import StreamTunnel.Frame.Sink
import StreamTunnel.Local.Socket

/-!
An endpoint is a channel whose sessions are byte-stream connections that carry frames. The side that
connects says hello; the side that listens announces the session and acknowledges it once it is
accepted. From then on both read and write frames until one side closes, the stream ends, or
something arrives that is no frame.

The endpoint does not move bytes itself. Each connection has a pipe whose near end is the endpoint,
and the functions below say what happens when a connection is made, when bytes or an end come in,
when a time limit runs out, and when queued frames are written.
-/

namespace StreamTunnel

structure EndpointSettings where
  identity : Identity := "gamelink"
  keepalive : Span := .ofSecs 5
  keepalive_pos : 0 < keepalive.nanos := by decide
  handshakeTimeout : Span := .ofSecs 10
  backlogLimit : Nat := 64
deriving DecidableEq, Repr

inductive Stage where
  | dialing (s : SessionId) (peer : Identity) (virtualPort : UInt32)
  | answering (s : SessionId) (peer : Identity)
  | greeting
  /-- Come in and announced, waiting to be accepted. Nothing is read or written. -/
  | offered (s : SessionId) (peer : Identity)
  | open (s : SessionId)
  | ended
deriving DecidableEq, Repr

structure Connection where
  stage : Stage
  pipe : Pipe := {}
  reader : Frame.Reader := {}
  control : List Frame := []
  deadline : Option Nat := none
  pingDue : Option Nat := none
deriving Repr

structure Slot where
  connection : Nat
  queue : List Frame := []
  backlog : Nat := 0
  rtt : Option Span := none
  isGated : Bool
  began : Nat := 0
deriving Repr

def Slot.taken (f : Frame) (rest : List Frame) (slot : Slot) : Slot :=
  { slot with queue := rest, backlog := if f.isMessage then slot.backlog - 1 else slot.backlog }

/-- The writer of a session that was closed from this side. It still sends some frames one by one,
before it sees the close. Those that are left then it feeds and flushes together. -/
structure Closing where
  slot : Slot
  lag : Nat
  sink : Frame.Sink := {}
  hasFailed : Bool := false
deriving Repr

def Slot.closing (reason : String) (lag : Nat) (slot : Slot) : Closing :=
  { slot := { slot with queue := slot.queue ++ [.close reason] }, lag }

namespace Closing

def next (w : Closing) : Closing :=
  match w.hasFailed, w.slot.queue with
  | false, f :: rest =>
      let (goes, sink) := if w.lag = 0 then w.sink.feed f else w.sink.send f
      { slot := w.slot.taken f rest, lag := w.lag - 1, sink, hasFailed := !goes }
  | _, _ => w

def run : Nat → Closing → Closing
  | 0, w => w
  | k + 1, w => w.next.run k

def written (w : Closing) : Bytes :=
  (w.run w.slot.queue.length).sink.flush.2.written

end Closing

def Connection.take (c : Connection) : Connection :=
  { c with reader := c.reader.feed c.pipe.toNear, pipe := { c.pipe with toNear := [] } }

structure Endpoint where
  settings : EndpointSettings := {}
  isListening : Bool := false
  bindFault : Option String := none
  nextSession : UInt64 := 1
  slots : Table SessionId Slot := ∅
  connections : List Connection := []
  /-- How many frames a writer still sends before it sees that its session was closed. Nothing
  decides this; it may differ from one close to the next. -/
  lag : Nat := 0
  events : List ChannelEvent := []
  now : Nat := 0
deriving Repr

namespace Endpoint

def resetByPeer : ChannelError := .io "Connection reset by peer (os error 104)"

def emit (ev : ChannelEvent) (e : Endpoint) : Endpoint :=
  { e with events := e.events ++ [ev] }

def modifyConnection (n : Nat) (f : Connection → Connection) (e : Endpoint) : Endpoint :=
  { e with connections := e.connections.modify n f }

def modifySlot (s : SessionId) (f : Slot → Slot) (e : Endpoint) : Endpoint :=
  { e with slots := e.slots.modify s f }

def openSlot (connection : Nat) (isGated : Bool) (e : Endpoint) : SessionId × Endpoint :=
  let s : SessionId := ⟨e.nextSession⟩
  (s, { e with
    nextSession := e.nextSession + 1
    slots := e.slots.insert s { connection, isGated } })

def finish (s : SessionId) (reason : CloseReason) (e : Endpoint) : Endpoint :=
  if e.slots.contains s then { e with slots := e.slots.erase s }.emit (.closed s reason) else e

def endConnection (n : Nat) (e : Endpoint) : Endpoint :=
  e.modifyConnection n (fun c => { c with stage := .ended, pipe := c.pipe.closeNear })

def fail (n : Nat) (s : SessionId) (err : ChannelError) (e : Endpoint) : Endpoint :=
  (e.finish s err.toReason).endConnection n

def writeBytes (n : Nat) (b : Bytes) (e : Endpoint) : Endpoint :=
  e.modifyConnection n (fun c => { c with pipe := c.pipe.write b })

def writeFrame (n : Nat) (s : SessionId) (f : Frame) (e : Endpoint) : Bool × Endpoint :=
  match f.wire with
  | .ok b => (true, e.writeBytes n b)
  | .error err => (false, e.fail n s (.ofFrame err))

def writeFrames (n : Nat) (s : SessionId) : List Frame → Endpoint → Bool × Endpoint
  | [], e => (true, e)
  | f :: rest, e =>
      match e.writeFrame n s f with
      | (true, e) => writeFrames n s rest e
      | (false, e) => (false, e)

def writeNext (n : Nat) (s : SessionId) (f : Frame) (rest : List Frame) (e : Endpoint) :
    Bool × Endpoint :=
  (e.modifySlot s (Slot.taken f rest)).writeFrame n s f

def writeQueue (n : Nat) (s : SessionId) : List Frame → Endpoint → Endpoint
  | [], e => e
  | f :: rest, e =>
      match e.writeNext n s f rest with
      | (true, e) => writeQueue n s rest e
      | (false, e) => e

/-- Writes what an open session has to write: answers to pings, then the queue. -/
def flush (n : Nat) (e : Endpoint) : Endpoint :=
  match e.connections[n]? with
  | some c =>
      match c.stage with
      | .open s =>
          let e := e.modifyConnection n (fun c => { c with control := [] })
          match e.writeFrames n s c.control with
          | (false, e) => e
          | (true, e) => e.writeQueue n s ((e.slots.get? s).elim [] (·.queue))
      | _ => e
  | none => e

def flushAll (e : Endpoint) : Endpoint :=
  (List.range e.connections.length).foldl (fun e n => e.flush n) e

def enter (n : Nat) (s : SessionId) (peer : Identity) (e : Endpoint) : Endpoint :=
  let due := e.now + e.settings.keepalive.nanos
  ((e.modifyConnection n (fun c =>
    { c with stage := .open s, deadline := none, pingDue := some due })).modifySlot s
      (fun slot => { slot with began := e.now })).emit (.connected s peer)

def roundTrip (now began : Nat) (timestamp : UInt64) : Span :=
  ⟨now - began - timestamp.toNat * 1000⟩

def takeFrames (n : Nat) (s : SessionId) : List Frame → Endpoint → Bool × Endpoint
  | [], e => (true, e)
  | f :: rest, e =>
      match f with
      | .message data => takeFrames n s rest (e.emit (.message s data))
      | .ping t =>
          takeFrames n s rest
            (e.modifyConnection n (fun c => { c with control := c.control ++ [.pong t] }))
      | .pong t =>
          takeFrames n s rest
            (e.modifySlot s (fun slot => { slot with rtt := some (roundTrip e.now slot.began t) }))
      | .close _ => (false, (e.finish s .byPeer).endConnection n)
      | .hello .. | .helloAck => takeFrames n s rest e

def endFault (ending : Ending) (r : Frame.Reader) : Option ChannelError :=
  match ending with
  | .broken => some resetByPeer
  | .finished =>
      match r.decodeEnd.1 with
      | .error e => some (.ofFrame e)
      | _ => none

def readOpen (n : Nat) (s : SessionId) (c : Connection) (e : Endpoint) : Endpoint :=
  let (frames, fault, reader) := c.reader.drain
  let e := e.modifyConnection n (fun c => { c with reader })
  match e.takeFrames n s frames with
  | (false, e) => e
  | (true, e) =>
      match fault, c.pipe.ending with
      | some err, _ => e.fail n s (.ofFrame err)
      | none, none => e
      | none, some ending =>
          match endFault ending reader with
          | some err => e.fail n s err
          | none => (e.finish s .byPeer).endConnection n

def readAnswer (n : Nat) (s : SessionId) (peer : Identity) (c : Connection) (e : Endpoint) :
    Endpoint :=
  match c.reader.decode with
  | (.frame .helloAck, reader) =>
      (e.enter n s peer).readOpen n s { c with reader }
  | (.frame (.close reason), _) => e.fail n s (.protocol ("rejected by peer: " ++ reason))
  | (.frame f, _) => e.fail n s (.protocol ("expected HelloAck, got " ++ f.describe))
  | (.error err, _) => e.fail n s (.ofFrame err)
  | (.more, reader) =>
      let e := e.modifyConnection n (fun c => { c with reader })
      match c.pipe.ending with
      | none => e
      | some ending => e.fail n s ((endFault ending reader).getD .connectionClosed)

def readGreeting (n : Nat) (c : Connection) (e : Endpoint) : Endpoint :=
  match c.reader.decode with
  | (.frame (.hello peer port), reader) =>
      let (s, e) := e.openSlot n true
      (e.modifyConnection n (fun c =>
        { c with stage := .offered s peer, reader, deadline := none })).emit (.incoming s peer port)
  | (.frame _, _) | (.error _, _) => e.endConnection n
  | (.more, reader) =>
      let e := e.modifyConnection n (fun c => { c with reader })
      if c.pipe.ending.isSome then e.endConnection n else e

def receive (n : Nat) (e : Endpoint) : Endpoint :=
  match e.connections[n]? with
  | none => e
  | some c =>
      let e' := e.modifyConnection n Connection.take
      match c.stage with
      | .greeting => e'.readGreeting n c.take
      | .answering s peer => e'.readAnswer n s peer c.take
      | .open s => e'.readOpen n s c.take
      | _ => e

def act (n : Nat) (a : FarAct) (e : Endpoint) : Endpoint :=
  (e.modifyConnection n (fun c => { c with pipe := c.pipe.act a })).receive n

def inbound (e : Endpoint) : Nat × Endpoint :=
  (e.connections.length, { e with
    connections := e.connections ++
      [{ stage := .greeting, deadline := some (e.now + e.settings.handshakeTimeout.nanos) }] })

def established (n : Nat) (e : Endpoint) : Endpoint :=
  match e.connections[n]? with
  | some c =>
      match c.stage with
      | .dialing s peer port =>
          (e.modifyConnection n (fun c => { c with stage := .answering s peer })).writeFrame n s
            (.hello e.settings.identity port) |>.2
      | _ => e
  | none => e

def refused (n : Nat) (detail : String) (e : Endpoint) : Endpoint :=
  match e.connections[n]? with
  | some c =>
      match c.stage with
      | .dialing s _ _ => e.fail n s (.io detail)
      | _ => e
  | none => e

def expire (n : Nat) (e : Endpoint) : Endpoint :=
  match e.connections[n]? with
  | some c =>
      match c.stage with
      | .dialing s _ _ | .answering s _ => e.fail n s .timeout
      | .greeting => e.endConnection n
      | _ => e
  | none => e

def ping (n : Nat) (e : Endpoint) : Endpoint :=
  match e.connections[n]? with
  | some c =>
      match c.stage with
      | .open s =>
          let began := (e.slots.get? s).elim 0 (·.began)
          let e := e.modifyConnection n (fun c =>
            { c with pingDue := c.pingDue.map (· + e.settings.keepalive.nanos) })
          (e.writeFrame n s (.ping (UInt64.ofNat ((e.now - began) / 1000)))).2
      | _ => e
  | none => e

def dials (e : Endpoint) : List (Nat × Identity) :=
  e.connections.zipIdx.filterMap (fun (c, n) =>
    match c.stage with
    | .dialing _ peer _ => some (n, peer)
    | _ => none)

def listen (e : Endpoint) : Except ChannelError Unit × Endpoint :=
  if e.isListening then (.ok (), e)
  else match e.bindFault with
    | some detail => (.error (.io detail), e)
    | none => (.ok (), { e with isListening := true })

/-- Opens a session at once; the connection is made later. -/
def connect (peer : Identity) (port : UInt32) (timeout : Span) (e : Endpoint) :
    Except ChannelError SessionId × Endpoint :=
  let (s, e) := e.openSlot e.connections.length false
  (.ok s, { e with
    connections := e.connections ++
      [{ stage := .dialing s peer port, deadline := some (e.now + timeout.nanos) }] })

/-- Acknowledges an announced session and goes on with it. Doing so again has no effect. -/
def accept (s : SessionId) (e : Endpoint) : Except ChannelError Unit × Endpoint :=
  match e.slots.get? s with
  | none => (.error (.unknownSession s), e)
  | some slot =>
      if slot.isGated then
        let n := slot.connection
        let e := e.modifySlot s (fun slot => { slot with isGated := false })
        match e.connections[n]? with
        | some ⟨.offered _ peer, pipe, _, _, _, _⟩ =>
            if pipe.ending = some .broken then (.ok (), e.fail n s resetByPeer)
            else
              match e.writeFrame n s .helloAck with
              | (true, e) => (.ok (), (e.enter n s peer).receive n)
              | (false, e) => (.ok (), e)
        | _ => (.ok (), e)
      else (.ok (), e)

/-- Queues a message. An unreliable one is dropped if too many wait. The writer is there as long as the
session is in the table. -/
def send (s : SessionId) (data : Bytes) (r : Reliability) (e : Endpoint) :
    Except ChannelError Unit × Endpoint :=
  match e.slots.get? s with
  | none => (.error (.unknownSession s), e)
  | some slot =>
      if r = .unreliable ∧ e.settings.backlogLimit ≤ slot.backlog then (.ok (), e)
      else (.ok (), e.modifySlot s (fun slot =>
        { slot with queue := slot.queue ++ [.message data], backlog := slot.backlog + 1 }))

/-- Closes a session from this side. An open one writes its queue and the reason first, for which the
far end is taken to read before the time for it is over. One that was announced is rejected; of all
others the connection just ends. -/
def close (s : SessionId) (reason : String) (e : Endpoint) : Endpoint :=
  match e.slots.get? s with
  | none => e
  | some slot =>
      let n := slot.connection
      let e := { e with slots := e.slots.erase s }
      match e.connections[n]?.map (·.stage) with
      | some (.open _) => (e.writeBytes n (slot.closing reason e.lag).written).endConnection n
      | some (.offered _ _) =>
          (e.writeBytes n (({} : Frame.Sink).send (.close "rejected")).2.written).endConnection n
      | _ => e.endConnection n

def quality (s : SessionId) (e : Endpoint) : Option LinkQuality :=
  (e.slots.get? s).map (fun slot => { rtt := slot.rtt })

def closeListener (e : Endpoint) : Endpoint :=
  { e with isListening := false }

instance : Channel Endpoint where
  listen := listen
  closeListener := closeListener
  connect := connect
  accept := accept
  send := send
  quality s e := (e.quality s, e)
  close := close

def sessionCount (e : Endpoint) : Nat :=
  e.slots.size

def takeEvents (e : Endpoint) : List ChannelEvent × Endpoint :=
  (e.events, { e with events := [] })

def takeWritten (n : Nat) (e : Endpoint) : Bytes × Bool × Endpoint :=
  match e.connections[n]? with
  | none => ([], true, e)
  | some c =>
      (c.pipe.toFar, c.pipe.nearClosed,
        e.modifyConnection n (fun c => { c with pipe := { c.pipe with toFar := [] } }))

end Endpoint
end StreamTunnel
