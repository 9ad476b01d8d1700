import Mathlib.Data.Finset.Card
import Mathlib.Data.List.Nodup
import Mathlib.Data.Nat.ModEq
import StreamTunnel.Mux.Desk
import StreamTunnel.Proofs.Mux.Turn

namespace StreamTunnel

namespace StreamId

end StreamId

namespace Desk

variable {σ : Type} {d : Desk σ} {m : Multiplexer}

def enter (r : StreamRef) (d : Desk σ) : Desk σ :=
  let d := d.step (·.register r.id ⟨.accepted, r.socket⟩)
  { d with drawn := d.drawn + d.mux.count }

end Desk
end StreamTunnel
