import StreamTunnel.Channel.Basic
import StreamTunnel.Link.Retry
import StreamTunnel.Table

/-!
A link keeps a peer reachable over a channel. A host listens and accepts every session; a guest
keeps one session to its host and, when that is lost, tries again within its budget of retries.
The link turns channel events into link events, and an operation may call the channel.

Handling an event can stop at a backoff: it then answers with the retry that waits, and `resume`
goes on with it when its time has come.
-/

namespace StreamTunnel

inductive Role where
  | host
  | guest
deriving DecidableEq, Repr

def Role.name : Role → String
  | .host => "host"
  | .guest => "guest"

inductive Phase where
  | idle
  | connecting
  | connected
  | closed
deriving DecidableEq, Repr

structure LinkSettings where
  connectTimeout : Span := .ofSecs 10
  initialVirtualPort : UInt32 := 0
  retry : RetryPolicy := {}
deriving Repr

inductive LinkError where
  | channel (e : ChannelError)
  | roleConflict (current : Role)
  | notConnected
  | shutDown
deriving DecidableEq, Repr

def LinkError.message : LinkError → String
  | .channel e => "Transport error: " ++ e.message
  | .roleConflict current => "Already running as " ++ current.name
  | .notConnected => "Not connected"
  | .shutDown => "Manager has been shut down"

inductive LinkEvent where
  | opened (s : SessionId) (peer : Identity)
  | closed (s : SessionId) (reason : CloseReason)
  | message (s : SessionId) (data : Bytes)
  | reconnecting (attempt : Nat) (virtualPort : UInt32)
  | disconnected (reason : CloseReason)
deriving DecidableEq, Repr

def LinkEvent.sortIn (events : List LinkEvent) (event : LinkEvent) : List LinkEvent :=
  match event, events with
  | .closed s reason, .closed s' reason' :: rest =>
      if s < s' then .closed s' reason' :: sortIn rest event else .closed s reason :: events
  | _, _ => event :: events

/-- The events in order, neighbouring ends of sessions sorted by session: their own order has no
meaning. -/
def LinkEvent.report (events : List LinkEvent) : List LinkEvent :=
  (events.foldl sortIn []).reverse

structure LinkState where
  settings : LinkSettings
  role : Option Role := none
  phase : Phase := .idle
  active : Table SessionId Identity := ∅
  /-- The session that carries a guest's link. -/
  primary : Option SessionId := none
  /-- The session a guest is waiting for. -/
  pending : Option SessionId := none
  peer : Option Identity := none
  listening : Bool := false
  quality : Option LinkQuality := none
  retries : Retries
  isShutDown : Bool := false
deriving Repr

namespace LinkState

def start (settings : LinkSettings) : LinkState :=
  { settings, retries := .start settings.retry settings.initialVirtualPort }

def isHost (st : LinkState) : Bool :=
  st.role = some .host

def isGuest (st : LinkState) : Bool :=
  st.role = some .guest

def isConnected (st : LinkState) : Bool :=
  st.phase = .connected && !st.active.isEmpty

def claim (role : Role) (st : LinkState) : Except LinkError LinkState :=
  if st.isShutDown then .error .shutDown
  else match st.role with
    | none => .ok { st with role := some role, phase := .connecting }
    | some current =>
        if current = role then .ok { st with phase := .connecting }
        else .error (.roleConflict current)

/-- A connection to `s` is not the one a guest waits for. -/
def isStale (s : SessionId) (st : LinkState) : Bool :=
  st.isGuest && match st.pending with
    | none => false
    | some p => p ≠ s

/-- The end of `s` concerns a guest's link: it carries the link, is waited for, or there is
neither such session. -/
def isCurrent (s : SessionId) (st : LinkState) : Bool :=
  st.primary = some s || st.pending = some s || (st.pending.isNone && st.primary.isNone)

def opened (s : SessionId) (peer : Identity) (st : LinkState) : LinkState :=
  let st := if st.isGuest then
      { st with pending := none, primary := some s, retries := st.retries.reset }
    else st
  { st with active := st.active.insert s peer, phase := .connected }

def settleHost (st : LinkState) : LinkState :=
  if st.active.isEmpty then
    { st with
      quality := none
      phase := if st.phase = .connected then .connecting else st.phase }
  else st

def dropCurrent (selfInitiated : Bool) (st : LinkState) : LinkState :=
  { st with
    primary := none
    pending := none
    quality := none
    phase := if selfInitiated then .closed else .connecting }

end LinkState

structure Link (σ : Type) where
  state : LinkState
  channel : σ
  events : List LinkEvent := []

structure Waiting where
  peer : Identity
  attempt : Attempt
deriving DecidableEq, Repr

inductive Handling where
  | done
  | waiting (w : Waiting)
  | fault (e : Span.Fault)
deriving DecidableEq, Repr

namespace Link

variable {σ : Type} [Channel σ]

def start (settings : LinkSettings) (channel : σ) : Link σ :=
  { state := .start settings, channel }

def emit (e : LinkEvent) (l : Link σ) : Link σ :=
  { l with events := l.events ++ [e] }

def update (f : LinkState → LinkState) (l : Link σ) : Link σ :=
  { l with state := f l.state }

def closeSession (s : SessionId) (reason : String) (l : Link σ) : Link σ :=
  { l with channel := Channel.close s reason l.channel }

def host (l : Link σ) : Except LinkError Unit × Link σ :=
  match l.state.claim .host with
  | .error e => (.error e, l)
  | .ok st =>
      match Channel.listen l.channel with
      | (.error e, c) => (.error (.channel e), { l with state := st, channel := c })
      | (.ok (), c) => (.ok (), { l with state := { st with listening := true }, channel := c })

def dial (peer : Identity) (port : UInt32) (l : Link σ) : Except ChannelError SessionId × Link σ :=
  let (r, c) := Channel.connect peer port l.state.settings.connectTimeout l.channel
  (r, { l with channel := c })

def beginConnect (peer : Identity) (l : Link σ) : Except LinkError Unit × Link σ :=
  match l.state.claim .guest with
  | .error e => (.error e, l)
  | .ok st => (.ok (), { l with state := { st with peer := some peer } })

def await (s : SessionId) (l : Link σ) : Link σ :=
  l.update (fun st => { st with pending := some s })

def connect (peer : Identity) (l : Link σ) : Except LinkError SessionId × Link σ :=
  match l.beginConnect peer with
  | (.error e, l) => (.error e, l)
  | (.ok (), l) =>
      match l.dial peer l.state.retries.virtualPort with
      | (.error e, l) => (.error (.channel e), l)
      | (.ok s, l) => (.ok s, l.await s)

def reconnectWith : Nat → CloseReason → Link σ → Handling × Link σ
  | 0, _, l => (.done, l)
  | fuel + 1, reason, l =>
      match l.state.peer with
      | none => (.done, l.update (fun st => { st with phase := .closed }))
      | some peer =>
          match l.state.retries.next with
          | (.exhausted _, _) =>
              (.done, (l.update (fun st => { st with phase := .closed })).emit
                (.disconnected reason))
          | (.fault e, r) => (.fault e, l.update (fun st => { st with retries := r }))
          | (.granted a, r) =>
              let l := (l.update (fun st => { st with retries := r })).emit
                (.reconnecting a.number a.virtualPort)
              if a.backoff.isZero then
                match l.dial peer a.virtualPort with
                | (.ok s, l) => (.done, l.await s)
                | (.error e, l) => reconnectWith fuel e.toReason l
              else (.waiting ⟨peer, a⟩, l)

/-- Tries again until the channel gives a session, a backoff has to be waited for, or the budget is
spent. Each try takes one from the budget, and one more step finds it spent. -/
def reconnect (reason : CloseReason) (l : Link σ) : Handling × Link σ :=
  reconnectWith (l.state.retries.remaining + 1) reason l

def resume (w : Waiting) (l : Link σ) : Handling × Link σ :=
  match l.dial w.peer w.attempt.virtualPort with
  | (.ok s, l) => (.done, l.await s)
  | (.error e, l) => reconnect e.toReason l

def onIncoming (s : SessionId) (l : Link σ) : Link σ :=
  if l.state.isHost && l.state.listening && !l.state.isShutDown then
    { l with channel := (Channel.accept s l.channel).2 }
  else l.closeSession s "not hosting"

def onConnected (s : SessionId) (peer : Identity) (l : Link σ) : Link σ :=
  if l.state.isShutDown then l.closeSession s "shutting down"
  else if l.state.isStale s then l.closeSession s "stale session"
  else (l.update (·.opened s peer)).emit (.opened s peer)

def onMessage (s : SessionId) (data : Bytes) (l : Link σ) : Link σ :=
  if l.state.active.contains s then l.emit (.message s data) else l

def report (wasActive : Bool) (s : SessionId) (reason : CloseReason) (l : Link σ) : Link σ :=
  if wasActive then l.emit (.closed s reason) else l

def onClosed (s : SessionId) (reason : CloseReason) (l : Link σ) : Handling × Link σ :=
  let wasActive := l.state.active.contains s
  let l := l.update (fun st => { st with active := st.active.erase s })
  if l.state.isGuest then
    if l.state.isCurrent s then
      let selfInitiated := reason.isSelfInitiated || l.state.isShutDown
      let l := (l.update (·.dropCurrent selfInitiated)).report wasActive s reason
      if selfInitiated then (.done, l) else l.reconnect reason
    else (.done, l)
  else (.done, (l.update (·.settleHost)).report wasActive s reason)

def handle (e : ChannelEvent) (l : Link σ) : Handling × Link σ :=
  match e with
  | .incoming s _ _ => (.done, l.onIncoming s)
  | .connected s peer => (.done, l.onConnected s peer)
  | .message s data => (.done, l.onMessage s data)
  | .closed s reason => l.onClosed s reason

def dropSession (l : Link σ) (s : SessionId) : Link σ :=
  (l.closeSession s "disconnect").emit (.closed s .locally)

/-- Shuts the link down for good: every open or awaited session is closed, and the listener. -/
def disconnect (l : Link σ) : Link σ :=
  let sessions := l.state.active.keys ++ l.state.pending.toList
  let listening := l.state.listening
  let l := l.update (fun st =>
    { st with
      isShutDown := true
      active := ∅
      primary := none
      pending := none
      quality := none
      phase := .closed
      listening := false })
  let l := sessions.foldl dropSession l
  if listening then { l with channel := Channel.closeListener l.channel } else l

def sampleSession (s : SessionId) (l : Link σ) : Option LinkQuality × Link σ :=
  match Channel.quality s l.channel with
  | (none, c) => (none, { l with channel := c })
  | (some q, c) => (some q, { l with state := { l.state with quality := some q }, channel := c })

def samplePing (l : Link σ) : Option LinkQuality × Link σ :=
  match l.state.primary.or l.state.active.keys.head? with
  | none => (none, l)
  | some s => l.sampleSession s

def send (s : SessionId) (data : Bytes) (l : Link σ) : Except LinkError Unit × Link σ :=
  if l.state.active.contains s then
    match Channel.send s data .reliable l.channel with
    | (.error e, c) => (.error (.channel e), { l with channel := c })
    | (.ok (), c) => (.ok (), { l with channel := c })
  else (.error .notConnected, l)

def takeEvents (l : Link σ) : List LinkEvent × Link σ :=
  (l.events, { l with events := [] })

end Link
end StreamTunnel
