import StreamTunnel.Proofs.Mux.Leaving

namespace StreamTunnel

theorem Outlet.alike_refl {σ : Type} (out : Outlet σ) : Outlet.Alike Eq out out := by
  rintro p o _ rfl
  exact ⟨rfl, rfl⟩

namespace Desk

variable {σ : Type} {P : SocketId → Prop} {d d' : Desk σ} {base : Sockets}

structure Within (P : SocketId → Prop) (d d' : Desk σ) : Prop where
  owns : d'.mux.Owns P
  others : ∀ c, ¬ P c → d'.sockets.pipes.get? c = d.sockets.pipes.get? c

theorem alike_own (owns : d.mux.Owns P) : Alike P id Eq d.sockets d.sockets d d :=
  ⟨d.mux.rename_id.symm, owns, rfl, fun _ _ => rfl, .refl P _, .refl _ _⟩

theorem Within.of_alike (alike : Alike P id Eq d.sockets d.sockets d' d') : d.Within P d' :=
  ⟨alike.owns, alike.keeps.pipes_eq⟩

section

variable (owns : d.mux.Owns P)
include owns

theorem within_teardown : d.Within P d.teardown :=
  .of_alike ((alike_own owns).teardown fun _ _ _ _ same => same)

theorem within_readAll (out : Outlet σ) {r : StreamRef} (own : P r.socket) : d.Within P (d.readAll out r) :=
  .of_alike ((alike_own owns).readAll (fun _ _ _ _ same => same) out.alike_refl own)

theorem within_readSocket (out : Outlet σ) (c : SocketId) : d.Within P (d.readSocket out c) := by
  rw [readSocket]
  cases found : d.mux.owner? c with
  | none => exact ⟨owns, fun _ _ => rfl⟩
  | some r => exact within_readAll owns out (Multiplexer.socket_of_owner? found ▸ owns.of_owner? found)

theorem within_packet (out : Outlet σ) (raw : Bytes)
    (brings : d.mux.wantsDial raw = true → ∀ c, d.sockets.dial.1 = some c → P c) :
    d.Within P (d.packet out raw) := by
  have takes (sockets : Sockets) {dialed : Option SocketId} (brings : ∀ c, dialed = some c → P c) :
      Within P { d with sockets } ({ d with sockets }.step (·.packet out raw dialed)) := by
    have own := alike_own (d := { d with sockets }) owns
    have taken := own.step (fun _ _ _ _ same => same) (own.station.packet out.alike_refl raw brings)
    rw [Option.map_id, id] at taken
    exact .of_alike taken
  have dials (brings : ∀ c, d.sockets.dial.1 = some c → P c) (c : SocketId) (other : ¬ P c) :
      d.sockets.dial.2.pipes.get? c = d.sockets.pipes.get? c := by
    have ne (new : d.sockets.dial.1 = some (.service (d.sockets.services + 1))) :
        c ≠ .service (d.sockets.services + 1) := fun same => other (same ▸ brings _ new)
    rw [Sockets.dial] at ne ⊢
    split
    · rfl
    · rfl
    all_goals
      next answers =>
      rw [answers] at ne
      exact (Table.get?_insert ..).trans (if_neg (ne rfl))
  rw [packet]
  split
  · next wants =>
    have dialed := takes d.sockets.dial.2 (brings wants)
    exact ⟨dialed.owns, fun c other => (dialed.others c other).trans (dials (brings wants) c other)⟩
  · exact takes d.sockets (by simp)

theorem within_attach (out : Outlet σ) {c : SocketId} (own : P c) : d.Within P (d.attach out c).2 := by
  rw [attach, run, Station.attach]
  cases StreamId.firstFree d.mux.entries.contains d.draw with
  | none => exact ⟨owns, fun _ _ => rfl⟩
  | some found =>
      -- the stream is entered under a free id, which touches no pipe, and then its socket is read
      let m := (Station.register found.1 ⟨.accepted, c⟩ { mux := d.mux, outlet := d.outlet }).mux
      have entered : m.Owns P := by
        intro e mem
        rcases Table.mem_of_mem_insert mem with rfl | old
        · exact own
        · exact owns e old
      have reads : Within P { d with mux := m, drawn := d.drawn + m.count } _ :=
        within_readAll entered out (r := ⟨found.1, c⟩) own
      exact ⟨reads.owns, reads.others⟩

end

end Desk
end StreamTunnel
