import StreamTunnel.Frame.Reader
import StreamTunnel.Time.Span

namespace StreamTunnel

structure SessionId where
  number : UInt64
deriving DecidableEq, Repr, Inhabited

namespace SessionId

instance : LT SessionId := ⟨fun a b => a.number < b.number⟩

instance : DecidableLT SessionId := fun a b => inferInstanceAs (Decidable (a.number < b.number))

variable {a b c : SessionId}

theorem lt_trans (ab : a < b) (bc : b < c) : a < c :=
  UInt64.lt_trans ab bc

theorem lt_of_not_lt (other : a ≠ b) (not : ¬ a < b) : b < a := by
  have distinct : b.number ≠ a.number := fun same => other (congrArg SessionId.mk same.symm)
  exact UInt64.lt_of_le_of_ne (UInt64.not_lt.mp not) distinct

theorem ne_of_lt (less : a < b) : a ≠ b := by
  rintro rfl
  exact UInt64.lt_irrefl _ less

def toString (s : SessionId) : String :=
  s!"#{s.number}"

def debug (s : SessionId) : String :=
  s!"SessionHandle({s.number})"

end SessionId

inductive CloseReason where
  | byPeer
  | locally
  | problem (detail : String)
deriving DecidableEq, Repr

namespace CloseReason

def message : CloseReason → String
  | byPeer => "closed by peer"
  | locally => "closed locally"
  | problem detail => "problem detected locally: " ++ detail

def debug : CloseReason → String
  | byPeer => "ClosedByPeer"
  | locally => "ClosedLocally"
  | problem detail => "ProblemDetectedLocally(" ++ Text.quote detail ++ ")"

def isSelfInitiated : CloseReason → Bool
  | locally => true
  | _ => false

end CloseReason

inductive ChannelError where
  | connectionClosed
  | io (detail : String)
  | timeout
  | protocol (detail : String)
  | unknownSession (s : SessionId)
  | serialization (detail : String)
deriving DecidableEq, Repr

namespace ChannelError

def message : ChannelError → String
  | connectionClosed => "Connection closed"
  | io detail => "IO error: " ++ detail
  | timeout => "Timeout"
  | protocol detail => "Protocol error: " ++ detail
  | unknownSession s => "Unknown session: " ++ s.toString
  | serialization detail => "Serialization error: " ++ detail

def ofFrame : FrameError → ChannelError
  | .tooBig => io "frame size too big"
  | .leftover => io "bytes remaining on stream"
  | .body e => serialization e.message

def toReason (e : ChannelError) : CloseReason :=
  .problem e.message

end ChannelError

inductive ChannelEvent where
  | incoming (s : SessionId) (peer : Identity) (virtualPort : UInt32)
  | connected (s : SessionId) (peer : Identity)
  | message (s : SessionId) (data : Bytes)
  | closed (s : SessionId) (reason : CloseReason)
deriving DecidableEq, Repr

def ChannelEvent.session : ChannelEvent → SessionId
  | .incoming s .. => s
  | .connected s _ => s
  | .message s _ => s
  | .closed s _ => s

inductive Reliability where
  | reliable
  | unreliable
deriving DecidableEq, Repr

structure LinkQuality where
  rtt : Option Span := none
  relayed : Bool := false
deriving DecidableEq, Repr

/-- The operations of a channel, each a function of the channel's state. -/
class Channel (σ : Type) where
  listen : σ → Except ChannelError Unit × σ
  closeListener : σ → σ
  connect : Identity → UInt32 → Span → σ → Except ChannelError SessionId × σ
  accept : SessionId → σ → Except ChannelError Unit × σ
  send : SessionId → Bytes → Reliability → σ → Except ChannelError Unit × σ
  quality : SessionId → σ → Option LinkQuality × σ
  close : SessionId → String → σ → σ

end StreamTunnel
