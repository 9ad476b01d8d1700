import StreamTunnel.Config.Json
import StreamTunnel.Endpoint.Basic
import StreamTunnel.Link.Basic
import StreamTunnel.Local.Acceptor

namespace StreamTunnel

structure Settings where
  role : Role := .guest
  identity : Identity
  listenAddress : SocketAddress := { ip := .v4 [0, 0, 0, 0], port := 27015 }
  peer : Option Identity := none
  localAddress : IpAddress := .v4 [127, 0, 0, 1]
  localPort : Nat := 8888
  targetPort : Option Nat := none
  acceptMode : AcceptMode := .concurrent
  retryBudget : Nat := 3
  chunkSize : Nat := 61440
  readBufferSize : Nat := 1048576
  notifyPeer : Bool := true
  connectTimeout : Span := .ofSecs 10
  dialTimeout : Span := .ofSecs 5
  keepalive : Span := .ofSecs 5
  pingInterval : Span := .ofSecs 1
deriving DecidableEq, Repr

namespace Identity

def generatedStart : String := "gamelink-"

/-- The name of an end that was given none: a fixed start, and random bytes in hexadecimal. -/
def generated (random : Bytes) : Identity :=
  generatedStart ++ String.ofList (random.flatMap Text.hexByte)

def isGenerated (name : Identity) : Bool :=
  let digits := name.toList.drop generatedStart.length
  name.toList.take generatedStart.length = generatedStart.toList && digits.length = 32 &&
    digits.all (fun c => c.isDigit || ('a' ≤ c && c ≤ 'f'))

end Identity

inductive SettingsFault where
  | missingPeer
  | missingTarget
  | chunkSize (size : Nat)
  | zero (field : String)
deriving DecidableEq, Repr

namespace SettingsFault

def message : SettingsFault → String
  | missingPeer => "guest mode requires a peer to connect to"
  | missingTarget => "host mode requires a local target port"
  | chunkSize size => "chunk size must be between 1 and 1048576, got " ++ Nat.repr size
  | zero field => field ++ " must be greater than zero"

end SettingsFault

namespace Settings

def maxChunkSize : Nat := 1048576

def isHost (s : Settings) : Bool :=
  s.role = .host

def roleFault (s : Settings) : Option SettingsFault :=
  match s.role with
  | .guest => if s.peer.getD "" = "" then some .missingPeer else none
  | .host => if s.targetPort.isNone then some .missingTarget else none

def sizeFault (s : Settings) : Option SettingsFault :=
  if s.chunkSize = 0 ∨ maxChunkSize < s.chunkSize then some (.chunkSize s.chunkSize)
  else if s.readBufferSize = 0 then some (.zero "read_buffer_size")
  else if s.keepalive.isZero then some (.zero "keepalive_interval")
  else if s.pingInterval.isZero then some (.zero "ping_interval")
  else none

def fault (s : Settings) : Option SettingsFault :=
  s.roleFault.or s.sizeFault

def hosting (target : Nat) (s : Settings) : Settings :=
  { s with role := .host, targetPort := some target }

def joining (peer : Identity) (s : Settings) : Settings :=
  { s with role := .guest, peer := some peer }

theorem keepalive_pos {s : Settings} (usable : s.fault = none) : 0 < s.keepalive.nanos := by
  have sizes : s.sizeFault = none := (Option.or_eq_none_iff.mp usable).2
  rw [Nat.pos_iff_ne_zero]
  intro zero
  have never : s.keepalive.isZero = true := decide_eq_true zero
  rw [sizeFault, if_pos never] at sizes
  split at sizes
  · cases sizes
  · split at sizes <;> cases sizes

def endpoint (s : Settings) (usable : s.fault = none) : EndpointSettings :=
  { identity := s.identity, keepalive := s.keepalive, keepalive_pos := keepalive_pos usable }

def link (s : Settings) : LinkSettings :=
  { connectTimeout := s.connectTimeout, retry := { maxAttempts := s.retryBudget } }

def mux (s : Settings) : MuxSettings :=
  { targetPort := s.targetPort
    chunkSize := s.chunkSize
    readBufferSize := s.readBufferSize
    dialTimeout := s.dialTimeout
    notifyPeer := s.notifyPeer }

def entrance (s : Settings) : SocketAddress :=
  { ip := s.localAddress, port := s.localPort }

def writtenMillis (t : Span) : Nat :=
  t.millis % (1 <<< 64)

def fields (s : Settings) : List (String × String) :=
  [("role", Config.Json.quote s.role.name),
   ("identity", Config.Json.quote s.identity),
   ("listen_addr", Config.Json.quote s.listenAddress.toString),
   ("peer", s.peer.elim "null" Config.Json.quote),
   ("local_bind", Config.Json.quote s.localAddress.toString),
   ("local_port", Nat.repr s.localPort),
   ("local_target_port", s.targetPort.elim "null" Nat.repr),
   ("accept_mode", Config.Json.quote s.acceptMode.name),
   ("retry_budget", Nat.repr s.retryBudget),
   ("chunk_size", Nat.repr s.chunkSize),
   ("read_buffer_size", Nat.repr s.readBufferSize),
   ("notify_peer_on_local_close", toString s.notifyPeer),
   ("connect_timeout", Nat.repr s.connectTimeout.secs),
   ("dial_timeout", Nat.repr (writtenMillis s.dialTimeout)),
   ("keepalive_interval", Nat.repr (writtenMillis s.keepalive)),
   ("ping_interval", Nat.repr (writtenMillis s.pingInterval))]

def toJson (s : Settings) : String :=
  "\x7b" ++ ",".intercalate (s.fields.map (fun (name, v) => Config.Json.quote name ++ ":" ++ v))
    ++ "\x7d"

end Settings
end StreamTunnel
