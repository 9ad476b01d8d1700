import StreamTunnel.Frame.Reader

namespace StreamTunnel.Frame

/-- How frames get onto a byte stream. The one that was fed last waits until another comes or all is
flushed. Those before it are in the buffer, which is written when a frame finds it full. -/
structure Sink where
  written : Bytes := []
  buffer : Bytes := []
  waiting : Option Frame := none
deriving Repr

namespace Sink

def capacity : Nat := 8192

def spill (k : Sink) : Sink :=
  { k with written := k.written ++ k.buffer, buffer := [] }

def ready (k : Sink) : Sink :=
  if capacity ≤ k.buffer.length then k.spill else k

def encode (f : Frame) (k : Sink) : Bool × Sink :=
  match f.wire with
  | .ok b => (true, { k.ready with buffer := k.ready.buffer ++ b })
  | .error _ => (false, k.ready)

/-- The frame that waits goes to the buffer. If it is too long for that it is dropped. -/
def advance (k : Sink) : Bool × Sink :=
  match k.waiting with
  | none => (true, k)
  | some f => { k with waiting := none }.encode f

def feed (f : Frame) (k : Sink) : Bool × Sink :=
  match k.advance with
  | (true, k) => (true, { k with waiting := some f })
  | (false, k) => (false, k)

/-- Writes all that was fed. If the frame that waits is too long, the buffer is not written. -/
def flush (k : Sink) : Bool × Sink :=
  match k.advance with
  | (true, k) => (true, k.spill)
  | (false, k) => (false, k)

def send (f : Frame) (k : Sink) : Bool × Sink :=
  match k.feed f with
  | (true, k) => k.flush
  | (false, k) => (false, k)

end Sink
end StreamTunnel.Frame
