import StreamTunnel.Channel.Basic
import StreamTunnel.Table

namespace StreamTunnel

inductive ChannelCall where
  | listen
  | closeListener
  | connect (peer : Identity) (virtualPort : UInt32) (timeout : Span)
  | accept (s : SessionId)
  | send (s : SessionId) (data : Bytes) (reliability : Reliability)
  | quality (s : SessionId)
  | close (s : SessionId) (reason : String)
deriving DecidableEq, Repr

abbrev Outcomes := List (Option ChannelError)

structure Script where
  nextSession : UInt64 := 1
  listens : Outcomes := []
  connects : Outcomes := []
  accepts : Outcomes := []
  sends : Outcomes := []
  qualities : Table SessionId LinkQuality := ∅
  record : List ChannelCall := []
deriving Repr

namespace Script

def outcome (o : Outcomes) : Except ChannelError Unit :=
  match o with
  | some e :: _ => .error e
  | _ => .ok ()

def note (call : ChannelCall) (c : Script) : Script :=
  { c with record := call :: c.record }

def calls (c : Script) : List ChannelCall :=
  c.record.reverse

def listen (c : Script) : Except ChannelError Unit × Script :=
  (outcome c.listens, { c.note .listen with listens := c.listens.tail })

def connect (peer : Identity) (port : UInt32) (timeout : Span) (c : Script) :
    Except ChannelError SessionId × Script :=
  let after := { c.note (.connect peer port timeout) with connects := c.connects.tail }
  match outcome c.connects with
  | .error e => (.error e, after)
  | .ok () => (.ok ⟨c.nextSession⟩, { after with nextSession := c.nextSession + 1 })

def accept (s : SessionId) (c : Script) : Except ChannelError Unit × Script :=
  (outcome c.accepts, { c.note (.accept s) with accepts := c.accepts.tail })

def send (s : SessionId) (data : Bytes) (r : Reliability) (c : Script) :
    Except ChannelError Unit × Script :=
  (outcome c.sends, { c.note (.send s data r) with sends := c.sends.tail })

def quality (s : SessionId) (c : Script) : Option LinkQuality × Script :=
  (c.qualities.get? s, c.note (.quality s))

instance : Channel Script where
  listen := listen
  closeListener := note .closeListener
  connect := connect
  accept := accept
  send := send
  quality := quality
  close s reason := note (.close s reason)

structure Cue where
  listens : Outcomes := []
  connects : Outcomes := []
  accepts : Outcomes := []
  sends : Outcomes := []
  qualities : List (SessionId × Option LinkQuality) := []
deriving Repr

def setQuality (t : Table SessionId LinkQuality) :
    SessionId × Option LinkQuality → Table SessionId LinkQuality
  | (s, some q) => t.insert s q
  | (s, none) => t.erase s

def extend (cue : Cue) (c : Script) : Script :=
  { c with
    listens := c.listens ++ cue.listens
    connects := c.connects ++ cue.connects
    accepts := c.accepts ++ cue.accepts
    sends := c.sends ++ cue.sends
    qualities := cue.qualities.foldl setQuality c.qualities }

def sortIn (calls : List ChannelCall) (call : ChannelCall) : List ChannelCall :=
  match call, calls with
  | .close s reason, .close s' reason' :: rest =>
      if s < s' then .close s' reason' :: sortIn rest call else .close s reason :: calls
  | _, _ => call :: calls

/-- The calls in order, neighbouring closes sorted by session: their own order has no meaning. -/
def report (calls : List ChannelCall) : List ChannelCall :=
  (calls.foldl sortIn []).reverse

end Script
end StreamTunnel
