import StreamTunnel.Frame.Basic
import StreamTunnel.Text.Utf8

namespace StreamTunnel

inductive BodyError where
  | endOfInput
  | lengthBeyondInput
  | unknownVariant (n : Nat)
  | invalidText (fault : Utf8.Fault)
deriving DecidableEq, Repr

def BodyError.message : BodyError → String
  | .endOfInput => "io error: unexpected end of file"
  | .lengthBeyondInput => "io error: "
  | .unknownVariant n =>
      "invalid value: integer \x60" ++ s!"{n}" ++ "\x60, expected variant index 0 <= i < 6"
  | .invalidText fault => "string is not valid utf8: " ++ fault.message

namespace Frame

def variant : Frame → Nat
  | hello .. => 0
  | helloAck => 1
  | ping _ => 2
  | pong _ => 3
  | message _ => 4
  | close _ => 5

def writeString (b : Bytes) : Bytes :=
  Bytes.little 8 b.length ++ b

def writeFields : Frame → Bytes
  | hello identity port => writeString (Utf8.encode identity) ++ Bytes.little 4 port.toNat
  | helloAck => []
  | ping t => Bytes.little 8 t.toNat
  | pong t => Bytes.little 8 t.toNat
  | message data => writeString data
  | close reason => writeString (Utf8.encode reason)

def body (f : Frame) : Bytes :=
  Bytes.little 4 f.variant ++ f.writeFields

abbrev Reads (α : Type) := Except BodyError (α × Bytes)

def readNat (width : Nat) (b : Bytes) : Reads Nat :=
  match Bytes.split? width b with
  | none => .error .endOfInput
  | some (front, rest) => .ok (Bytes.ofLittle front, rest)

def readBytes (b : Bytes) : Reads Bytes :=
  match readNat 8 b with
  | .error e => .error e
  | .ok (n, rest) =>
      match Bytes.split? n rest with
      | none => .error .lengthBeyondInput
      | some (front, rest) => .ok (front, rest)

def readString (b : Bytes) : Reads String :=
  match readBytes b with
  | .error e => .error e
  | .ok (front, rest) =>
      match Utf8.decode front with
      | .error fault => .error (.invalidText fault)
      | .ok s => .ok (s, rest)

def readHello (b : Bytes) : Reads Frame :=
  match readString b with
  | .error e => .error e
  | .ok (identity, rest) =>
      match readNat 4 rest with
      | .error e => .error e
      | .ok (port, rest) => .ok (hello identity (UInt32.ofNat port), rest)

def mapRead {α β : Type} (f : α → β) : Reads α → Reads β
  | .error e => .error e
  | .ok (x, rest) => .ok (f x, rest)

def readFields (variant : Nat) (b : Bytes) : Reads Frame :=
  match variant with
  | 0 => readHello b
  | 1 => .ok (helloAck, b)
  | 2 => mapRead (fun t => ping (UInt64.ofNat t)) (readNat 8 b)
  | 3 => mapRead (fun t => pong (UInt64.ofNat t)) (readNat 8 b)
  | 4 => mapRead message (readBytes b)
  | 5 => mapRead close (readString b)
  | n => .error (.unknownVariant n)

def ofBody (b : Bytes) : Except BodyError Frame :=
  match readNat 4 b with
  | .error e => .error e
  | .ok (n, rest) => (readFields n rest).map Prod.fst

end Frame
end StreamTunnel
