import StreamTunnel.Config.Settings
import StreamTunnel.Config.Yaml.Node

namespace StreamTunnel.Config

class Cell (ν : Type) where
  text? : ν → Option String
  natural? : ν → Option Nat
  flag? : ν → Option Bool
  word? : ν → Option String
  isNull : ν → Bool

namespace Json

def text? : Json → Option String
  | .text s => s
  | _ => none

def natural? : Json → Option Nat
  | .natural n => some n
  | _ => none

def flag? : Json → Option Bool
  | .bool b => some b
  | _ => none

def word? : Json → Option String
  | .text s => s
  | .object [(name, .null)] => name
  | _ => none

def isNull : Json → Bool
  | .null => true
  | _ => false

instance : Cell Json := ⟨text?, natural?, flag?, word?, isNull⟩

end Json

namespace Yaml.Node

def text? : Node → Option String
  | .scalar s _ => some s
  | _ => none

def plain? : Node → Option String
  | .scalar s true => some s
  | _ => none

def unsigned? (s : List Char) : Option Nat :=
  match s with
  | '0' :: 'x' :: rest => Address.whole? 16 rest
  | '0' :: 'o' :: rest => Address.whole? 8 rest
  | '0' :: 'b' :: rest => Address.whole? 2 rest
  | '0' :: _ :: _ => none
  | _ => Address.whole? 10 s

def natural? (n : Node) : Option Nat :=
  match (n.plain?.getD "").toList with
  | '+' :: rest => unsigned? rest
  | s => unsigned? s

def flag? (n : Node) : Option Bool :=
  match n.plain? with
  | some s =>
      if ["true", "True", "TRUE"].contains s then some true
      else if ["false", "False", "FALSE"].contains s then some false
      else none
  | none => none

def isNull (n : Node) : Bool :=
  n.plain?.any (["", "~", "null", "Null", "NULL"].contains ·)

instance : Cell Node := ⟨text?, natural?, flag?, text?, isNull⟩

end Yaml.Node

inductive Field where
  | role
  | identity
  | listenAddress
  | peer
  | localAddress
  | localPort
  | targetPort
  | acceptMode
  | retryBudget
  | chunkSize
  | readBufferSize
  | notifyPeer
  | connectTimeout
  | dialTimeout
  | keepalive
  | pingInterval
deriving DecidableEq, Repr

namespace Field

def all : List (Field × String) :=
  [(role, "role"), (identity, "identity"), (listenAddress, "listen_addr"), (peer, "peer"),
   (localAddress, "local_bind"), (localPort, "local_port"), (targetPort, "local_target_port"),
   (acceptMode, "accept_mode"), (retryBudget, "retry_budget"), (chunkSize, "chunk_size"),
   (readBufferSize, "read_buffer_size"), (notifyPeer, "notify_peer_on_local_close"),
   (connectTimeout, "connect_timeout"), (dialTimeout, "dial_timeout"),
   (keepalive, "keepalive_interval"), (pingInterval, "ping_interval")]

def ofName? (name : String) : Option Field :=
  (all.find? (·.2 = name)).map (·.1)

variable {ν : Type} [Cell ν]

def word? (bits : Nat) (v : ν) : Option Nat :=
  (Cell.natural? v).filter (· < 1 <<< bits)

def optional? {α : Type} (f : ν → Option α) (v : ν) : Option (Option α) :=
  if Cell.isNull v then some none else (f v).map some

def role? (v : ν) : Option Role :=
  match Cell.word? v with
  | some "host" => some .host
  | some "guest" => some .guest
  | _ => none

def mode? (v : ν) : Option AcceptMode :=
  match Cell.word? v with
  | some "concurrent" => some .concurrent
  | some "single" => some .single
  | _ => none

def set? (f : Field) (v : ν) (s : Settings) : Option Settings :=
  match f with
  | role => (role? v).map ({ s with role := · })
  | identity => (Cell.text? v).map ({ s with identity := · })
  | listenAddress =>
      ((Cell.text? v).bind SocketAddress.parse).map ({ s with listenAddress := · })
  | peer => (optional? Cell.text? v).map ({ s with peer := · })
  | localAddress => ((Cell.text? v).bind IpAddress.parse).map ({ s with localAddress := · })
  | localPort => (word? 16 v).map ({ s with localPort := · })
  | targetPort => (optional? (word? 16) v).map ({ s with targetPort := · })
  | acceptMode => (mode? v).map ({ s with acceptMode := · })
  | retryBudget => (word? 32 v).map ({ s with retryBudget := · })
  | chunkSize => (word? 64 v).map ({ s with chunkSize := · })
  | readBufferSize => (word? 64 v).map ({ s with readBufferSize := · })
  | notifyPeer => (Cell.flag? v).map ({ s with notifyPeer := · })
  | connectTimeout => (word? 64 v).map (fun n => { s with connectTimeout := .ofSecs n })
  | dialTimeout => (word? 64 v).map (fun n => { s with dialTimeout := .ofMillis n })
  | keepalive => (word? 64 v).map (fun n => { s with keepalive := .ofMillis n })
  | pingInterval => (word? 64 v).map (fun n => { s with pingInterval := .ofMillis n })

def setAll? : List (Field × ν) → Settings → Option Settings
  | [], s => some s
  | (f, v) :: rest, s =>
      match f.set? v s with
      | some s => setAll? rest s
      | none => none

def setNamed? (members : List (String × ν)) (s : Settings) : Option Settings :=
  let known := members.filterMap (fun (name, v) => (ofName? name).map (·, v))
  if (known.map (·.1)).Nodup then setAll? known s else none

end Field

def named? {κ ν : Type} (name? : κ → Option String) :
    List (κ × ν) → Option (List (String × ν))
  | [] => some []
  | (k, v) :: rest =>
      match name? k, named? name? rest with
      | some name, some rest => some ((name, v) :: rest)
      | _, _ => none

def ofJson? (v : Json) (s : Settings) : Option Settings :=
  match v with
  | .object members =>
      match named? id members with
      | some members => Field.setNamed? members s
      | none => none
  | .list items =>
      if items.length ≤ Field.all.length then Field.setAll? ((Field.all.map (·.1)).zip items) s
      else none
  | _ => none

def ofYaml? (n : Yaml.Node) (s : Settings) : Option Settings :=
  match n with
  | .scalar "" true => some s
  | .map entries =>
      match named? Yaml.Node.text? entries with
      | some members => Field.setNamed? members s
      | none => none
  | _ => none

inductive LoadFault where
  | unreadable (detail : String)
  | yaml
  | json
  | unsupported (extension : String)
deriving DecidableEq, Repr

def LoadFault.message : LoadFault → String
  | unreadable detail => "Failed to read config file: " ++ detail
  | yaml => "Invalid YAML config"
  | json => "Invalid JSON config"
  | unsupported extension => "Unsupported config file extension: " ++ Text.quote extension

def fileName (path : String) : List Char :=
  ((path.toList.reverse.dropWhile (· = '/')).takeWhile (· ≠ '/')).reverse

def extension (path : String) : String :=
  let name := (fileName path).reverse
  let after := name.takeWhile (· ≠ '.')
  match name.dropWhile (· ≠ '.') with
  | _ :: _ :: _ => String.ofList (after.reverse.map Char.toLower)
  | _ => ""

def noSuchFile : String := "No such file or directory (os error 2)"

def notText : String := "stream did not contain valid UTF-8"

/-- Settings from the content of a file, or from the system's words for why it cannot be read. The
name's extension says what format it is in. -/
def load (path : String) (content : Except String Bytes) (defaults : Settings) :
    Except LoadFault Settings :=
  match content with
  | .error detail => .error (.unreadable detail)
  | .ok bytes =>
      match Utf8.decode bytes with
      | .error _ => .error (.unreadable notText)
      | .ok text =>
          match extension path with
          | "yaml" | "yml" =>
              ((Yaml.Node.parse text).bind (ofYaml? · defaults)).elim (.error .yaml) .ok
          | "json" => ((Json.parse text).bind (ofJson? · defaults)).elim (.error .json) .ok
          | other => .error (.unsupported other)

end StreamTunnel.Config
