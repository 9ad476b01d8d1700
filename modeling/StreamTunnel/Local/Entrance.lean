import StreamTunnel.Local.Acceptor
import StreamTunnel.Mux.Desk

namespace StreamTunnel

/-- It is started once, and stopped only after that: an acceptor that is started when it was stopped
already may still take some of those who wait, as nothing decides which of the two it sees first. -/
structure Entrance where
  acceptor : Acceptor
  desk : Desk Outbox
  refuses : Bool := false

namespace Entrance

def attach (refuses : Bool) (socket : SocketId) (d : Desk Outbox) :
    Option StreamRef × Desk Outbox :=
  if refuses then (none, { d with sockets := d.sockets.modify socket Pipe.closeNear })
  else d.attach .outbox socket

def settle (e : Entrance) : Entrance :=
  let (acceptor, desk) := e.acceptor.serve (attach e.refuses) (fun r d => d.mux.isOpen r) e.desk
  { e with acceptor, desk }

def start (e : Entrance) : Entrance :=
  { e with acceptor := e.acceptor.start }.settle

def stop (e : Entrance) : Entrance :=
  { e with acceptor := e.acceptor.stop }

def connect (e : Entrance) : Entrance :=
  let (socket, sockets) := e.desk.sockets.arrive
  { e with acceptor := e.acceptor.arrive socket, desk := { e.desk with sockets } }.settle

def change {α : Type} (f : Desk Outbox → α × Desk Outbox) (e : Entrance) : α × Entrance :=
  let (a, desk) := f e.desk
  (a, { e with desk }.settle)

end Entrance
end StreamTunnel
