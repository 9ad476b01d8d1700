import StreamTunnel.Mux.Basic

namespace StreamTunnel

structure Desk (σ : Type) where
  mux : Multiplexer
  outlet : σ
  sockets : Sockets
  drawn : Nat := 0

namespace Desk

variable {σ : Type}

def perform (s : Sockets) : SocketAction → Sockets
  | .write id payload => s.modify id (·.write payload)
  | .release id => s.modify id Pipe.closeNear

def run {α : Type} (f : Station σ → α × Station σ) (d : Desk σ) : α × Desk σ :=
  let (a, s) := f { mux := d.mux, outlet := d.outlet }
  (a, { d with mux := s.mux, outlet := s.outlet, sockets := s.actions.foldl perform d.sockets })

def step (f : Station σ → Station σ) (d : Desk σ) : Desk σ :=
  (d.run (fun s => ((), f s))).2

def readWith (out : Outlet σ) (r : StreamRef) : Nat → Desk σ → Desk σ
  | 0, d => d
  | fuel + 1, d =>
      if d.mux.isOpen r then
        match d.sockets.pipes.get? r.socket with
        | none => d
        | some p =>
            if p.toNear.isEmpty then
              if p.ending.isSome then d.step (·.readEnded out r) else d
            else
              let size := d.mux.settings.readBufferSize
              if size = 0 then d.step (·.readEnded out r)
              else
                let piece := p.toNear.take size
                let d := { d with
                  sockets := d.sockets.modify r.socket (fun p =>
                    { p with toNear := p.toNear.drop size }) }
                readWith out r fuel (d.step (·.read out r piece))
      else d

def readAll (out : Outlet σ) (r : StreamRef) (d : Desk σ) : Desk σ :=
  d.readWith out r ((d.sockets.pipes.get? r.socket).elim 0 (·.toNear.length) + 1)

/-- Ids to choose from: one more than there are streams, so that one of them is free. -/
def draw (d : Desk σ) : List StreamId :=
  (List.range (d.mux.count + 1)).map (fun i => StreamId.scattered (d.drawn + i))

def attach (out : Outlet σ) (socket : SocketId) (d : Desk σ) : Option StreamRef × Desk σ :=
  match d.run (·.attach socket d.draw) with
  | (none, d) => (none, d)
  | (some r, d) => (some r, { d with drawn := d.drawn + d.mux.count }.readAll out r)

def packet (out : Outlet σ) (raw : Bytes) (d : Desk σ) : Desk σ :=
  if d.mux.wantsDial raw then
    let (dialed, sockets) := d.sockets.dial
    { d with sockets }.step (·.packet out raw dialed)
  else d.step (·.packet out raw none)

def remove (id : StreamId) (d : Desk σ) : Bool × Desk σ :=
  d.run (·.remove id)

def teardown (d : Desk σ) : Desk σ :=
  d.step (·.teardown)

def sendFramed (out : Outlet σ) (id : StreamId) (payload : Bytes) (kind : PacketKind) (d : Desk σ) :
    Option Nat × Desk σ :=
  d.run (·.sendFramed out id payload kind)

def readSocket (out : Outlet σ) (socket : SocketId) (d : Desk σ) : Desk σ :=
  match d.mux.owner? socket with
  | none => d
  | some r => d.readAll out r

def act (out : Outlet σ) (socket : SocketId) (a : FarAct) (d : Desk σ) : Bool × Desk σ :=
  let (there, sockets) := d.sockets.act socket a
  (there, { d with sockets }.readSocket out socket)

end Desk
end StreamTunnel
