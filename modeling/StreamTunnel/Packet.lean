import StreamTunnel.StreamId

namespace StreamTunnel

inductive PacketKind where
  | data
  | disconnect
deriving DecidableEq, Repr

namespace PacketKind

def toNat : PacketKind → Nat
  | .data => 0
  | .disconnect => 1

def ofNat? : Nat → Option PacketKind
  | 0 => some .data
  | 1 => some .disconnect
  | _ => none

end PacketKind

structure Packet where
  stream : StreamId
  kind : PacketKind
  payload : Bytes
deriving DecidableEq, Repr

inductive PacketError where
  | tooShort (length : Nat)
  | unknownKind (value : Nat)
  | invalidId (e : StreamId.Invalid)
deriving DecidableEq, Repr

def PacketError.message : PacketError → String
  | .tooShort n => s!"Packet too short: {n} bytes"
  | .unknownKind n => s!"Unknown packet type: {n}"
  | .invalidId e => e.message

namespace Packet

def headerLength : Nat := 11

def data (id : StreamId) (payload : Bytes) : Packet := ⟨id, .data, payload⟩

def disconnect (id : StreamId) : Packet := ⟨id, .disconnect, []⟩

def header (p : Packet) : Bytes :=
  p.stream.bytes ++ 0 :: Bytes.little 4 p.kind.toNat

def encode (p : Packet) : Bytes :=
  p.header ++ match p.kind with
    | .data => p.payload
    | .disconnect => []

/-- Reads the wire form. The terminator may be any byte, and what follows the header of a
disconnect is dropped. -/
def decode (b : Bytes) : Except PacketError Packet :=
  match Bytes.split? headerLength b with
  | none => .error (.tooShort b.length)
  | some (head, body) =>
      match StreamId.ofBytes (head.take 6) with
      | .error e => .error (.invalidId e)
      | .ok id =>
          let value := Bytes.ofLittle (head.drop 7)
          match PacketKind.ofNat? value with
          | none => .error (.unknownKind value)
          | some .data => .ok (data id body)
          | some .disconnect => .ok (disconnect id)

def cut (n : Nat) : Nat → Bytes → List Bytes
  | 0, _ => []
  | _, [] => []
  | fuel + 1, b => b.take (n + 1) :: cut n fuel (b.drop (n + 1))

/-- The payloads of the packets for a byte string: at most `size` bytes each, a size of zero
counting as one, and a single empty one for an empty string. -/
def pieces (size : Nat) (b : Bytes) : List Bytes :=
  if b.isEmpty then [[]] else cut (size - 1) b.length b

def chunked (id : StreamId) (payload : Bytes) (size : Nat) : List Packet :=
  (pieces size payload).map (data id)

/-- The packets of a payload given one at a time: what is not yet in one of them, and whether the last
one was given. -/
structure Chunks where
  stream : StreamId
  remaining : Bytes
  size : Nat
  done : Bool := false
deriving DecidableEq, Repr

def chunks (id : StreamId) (payload : Bytes) (size : Nat) : Chunks :=
  { stream := id, remaining := payload, size := max size 1 }

def Chunks.next (c : Chunks) : Option Packet × Chunks :=
  if c.done then (none, c)
  else
    let rest := c.remaining.drop c.size
    (some (data c.stream (c.remaining.take c.size)),
      { c with remaining := rest, done := rest.isEmpty })

def Chunks.drainWith : Nat → Chunks → List Packet × Chunks
  | 0, c => ([], c)
  | fuel + 1, c =>
      match c.next with
      | (none, c) => ([], c)
      | (some p, c) =>
          let (rest, c) := drainWith fuel c
          (p :: rest, c)

def Chunks.drain (c : Chunks) : List Packet × Chunks :=
  c.drainWith (c.remaining.length + 1)

end Packet
end StreamTunnel
