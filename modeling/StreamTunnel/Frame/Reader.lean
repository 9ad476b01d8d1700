import StreamTunnel.Frame.Body

namespace StreamTunnel

inductive FrameError where
  | tooBig
  | leftover
  | body (e : BodyError)
deriving DecidableEq, Repr

namespace Frame

def maxBody : Nat := 16777216

def wire (f : Frame) : Except FrameError Bytes :=
  let b := f.body
  if b.length ≤ maxBody then .ok (Bytes.big 4 b.length ++ b) else .error .tooBig

inductive Decoded where
  | more
  | frame (f : Frame)
  | error (e : FrameError)
deriving DecidableEq, Repr

def Decoded.ofBody (b : Bytes) : Decoded :=
  match Frame.ofBody b with
  | .ok f => .frame f
  | .error e => .error (.body e)

structure Reader where
  expected : Option Nat := none
  buffer : Bytes := []
deriving DecidableEq, Repr

namespace Reader

def feed (r : Reader) (b : Bytes) : Reader :=
  { r with buffer := r.buffer ++ b }

def clear (r : Reader) : Reader :=
  { r with buffer := [] }

def encode (f : Frame) (r : Reader) : Except FrameError Bytes × Reader :=
  match f.wire with
  | .ok b => (.ok b, r.feed b)
  | .error e => (.error e, r)

def takeBody (n : Nat) (buffer : Bytes) : Decoded × Reader :=
  match Bytes.split? n buffer with
  | none => (.more, ⟨some n, buffer⟩)
  | some (front, rest) => (.ofBody front, ⟨none, rest⟩)

def decode (r : Reader) : Decoded × Reader :=
  match r.expected with
  | some n => takeBody n r.buffer
  | none =>
      match Bytes.split? 4 r.buffer with
      | none => (.more, r)
      | some (head, rest) =>
          let n := Bytes.ofBig head
          if maxBody < n then (.error .tooBig, r) else takeBody n rest

/-- Decodes at the end of the stream, where bytes that make no frame are an error. -/
def decodeEnd (r : Reader) : Decoded × Reader :=
  match r.decode with
  | (.more, r) => (if r.buffer.isEmpty then .more else .error .leftover, r)
  | other => other

def drainWith : Nat → Reader → List Frame × Option FrameError × Reader
  | 0, r => ([], none, r)
  | fuel + 1, r =>
      match r.decode with
      | (.more, r) => ([], none, r)
      | (.error e, r) => ([], some e, r)
      | (.frame f, r) =>
          let (rest, e, r) := drainWith fuel r
          (f :: rest, e, r)

/-- Decodes until more bytes are needed or an error comes up. A frame takes at least one byte,
one of no length after its own head apart, which bounds the number of steps. -/
def drain (r : Reader) : List Frame × Option FrameError × Reader :=
  drainWith (r.buffer.length + 2) r

end Reader
end Frame
end StreamTunnel
