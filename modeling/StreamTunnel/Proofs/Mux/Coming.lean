import StreamTunnel.Proofs.Mux.Leaving
import StreamTunnel.Proofs.Mux.Life

namespace StreamTunnel

namespace Sockets

variable {t : Sockets} {c : SocketId}

theorem Numbered.new_of_arrive (h : t.Numbered) : t.pipes.contains t.arrive.1 = false := by
  rw [← Bool.not_eq_true]
  intro there
  exact absurd (h.clients _ there) (Nat.not_succ_le_self _)

theorem Numbered.new_of_dial (h : t.Numbered) (dials : t.dial.1 = some c) : t.pipes.contains c = false := by
  rw [← Bool.not_eq_true]
  intro there
  rw [Sockets.dial] at dials
  split at dials
  · cases dials
  · cases dials
  all_goals
    cases dials
    exact absurd (h.services _ there) (Nat.not_succ_le_self _)

theorem Grows.new {t' : Sockets} (grows : t.Grows t') (new : t'.pipes.contains c = false) :
    t.pipes.contains c = false := by
  rw [← Bool.not_eq_true] at new ⊢
  exact fun old => new (grows.there c old)

theorem grows_look (h : t.Numbered) : t.Grows t.look.2 := by
  have get? (k : SocketId) : t.look.2.pipes.get? k = (t.pipes.get? k).map fun p => { p with toFar := [] } := by
    rw [look, Table.get?, Table.get?]
    dsimp only
    induction t.pipes.toList with
    | nil => rfl
    | cons entry rest ih =>
        rw [List.map_cons, Table.find, Table.find]
        split
        · rfl
        · exact ih
  have contains (k : SocketId) : t.look.2.pipes.contains k = t.pipes.contains k := by
    rw [Table.contains, get?, Option.isSome_map]
    rfl
  refine ⟨⟨fun n there => h.clients n (contains _ ▸ there), fun n there => h.services n (contains _ ▸ there)⟩,
    fun k there => (contains k).trans there, ?_⟩
  rintro k ⟨p, found, shut⟩
  exact ⟨{ p with toFar := [] }, by rw [get?, found]; rfl, shut⟩

end Sockets

namespace Desk

variable {σ : Type} {d d' : Desk σ} {out : Outlet σ} {r : StreamRef} {c : SocketId}

/-- From `d` to `d'` sockets stay, and a stream that comes has a new one. -/
structure Follows (d d' : Desk σ) : Prop where
  sockets : d.sockets.Grows d'.sockets
  comes : ∀ r, d'.mux.isOpen r = true → d.mux.isOpen r = true ∨ d.sockets.pipes.contains r.socket = false

theorem Follows.of_entries (entries : d'.mux.entries = d.mux.entries) (sockets : d.sockets.Grows d'.sockets) :
    d.Follows d' := by
  refine ⟨sockets, fun r there => .inl ?_⟩
  rwa [Multiplexer.isOpen, Multiplexer.lookup, entries] at there

theorem Follows.refl (h : d.sockets.Numbered) : d.Follows d :=
  .of_entries rfl (.refl h)

theorem Follows.trans {d'' : Desk σ} (first : d.Follows d') (second : d'.Follows d'') : d.Follows d'' := by
  refine ⟨first.sockets.trans second.sockets, fun r there => ?_⟩
  rcases second.comes r there with before | new
  · exact first.comes r before
  · exact .inr (first.sockets.new new)

theorem Follows.gone (follows : d.Follows d') (known : d.sockets.pipes.contains r.socket = true)
    (gone : d.mux.isOpen r = false) : d'.mux.isOpen r = false := by
  rw [← Bool.not_eq_true] at gone ⊢
  intro there
  rcases follows.comes r there with before | new
  · exact gone before
  · rw [known] at new
    cases new

theorem socket_of_attach (gets : (d.attach out c).1 = some r) : r.socket = c := by
  have given (r : StreamRef) (gets : (d.run (·.attach c d.draw)).1 = some r) : r.socket = c :=
    (Station.lookup_of_attach gets).2
  rw [attach] at gets
  generalize d.run (·.attach c d.draw) = entered at given gets
  obtain ⟨result, d'⟩ := entered
  cases result with
  | none => cases gets
  | some r' => exact given r gets

section

variable (h : d.sockets.Numbered)
include h

theorem follows_run {α : Type} {f : Station σ → α × Station σ}
    (comes : ∀ j e, (f { mux := d.mux, outlet := d.outlet }).2.mux.entries.get? j = some e →
      d.mux.entries.get? j = some e ∨ d.sockets.pipes.contains e.socket = false) :
    d.Follows (d.run f).2 := by
  refine ⟨(h.performs _).1, fun r there => ?_⟩
  obtain ⟨e, found, same⟩ := Multiplexer.isOpen_iff_entry.mp there
  rw [← same]
  exact (comes r.id e found).imp_left fun before => Multiplexer.isOpen_iff_entry.mpr ⟨e, before, same⟩

theorem follows_readWith (out : Outlet σ) (r : StreamRef) (fuel : Nat) : d.Follows (d.readWith out r fuel) := by
  refine readWith_keeps (fun _ h => .refl h) (fun _ _ _ => .trans) (fun _ _ follows => follows.sockets.numbered)
    ?_ ?_ ?_ h fuel
  · intro d h
    exact follows_run h fun j e there => .inl (Station.entries_of_readEnded there)
  · intro d size h
    exact .of_entries rfl (h.modify r.socket fun _ shut => shut)
  · intro d piece h
    exact follows_run h fun j e there => .inl (Station.entries_of_read there)

theorem follows_readAll (out : Outlet σ) (r : StreamRef) : d.Follows (d.readAll out r) :=
  follows_readWith h out r _

theorem follows_readSocket (out : Outlet σ) (c : SocketId) : d.Follows (d.readSocket out c) := by
  rw [readSocket]
  cases d.mux.owner? c with
  | none => exact .refl h
  | some r => exact follows_readAll h out r

theorem follows_act (out : Outlet σ) (c : SocketId) (a : FarAct) : d.Follows (d.act out c a).2 := by
  have grows := h.act c a
  have acted : d.Follows { d with sockets := (d.sockets.act c a).2 } := .of_entries rfl grows
  exact acted.trans (follows_readSocket grows.numbered out c)

theorem follows_packet (out : Outlet σ) (raw : Bytes) : d.Follows (d.packet out raw) := by
  rw [packet]
  split
  · -- The socket that is dialed is new before the dial, not after it.
    have grows := h.dial.1
    refine ⟨grows.trans (grows.numbered.performs _).1, fun r there => ?_⟩
    obtain ⟨e, found, same⟩ := Multiplexer.isOpen_iff_entry.mp there
    rcases Station.entries_of_packet found with before | ⟨-, dials⟩
    · exact .inl (Multiplexer.isOpen_iff_entry.mpr ⟨e, before, same⟩)
    · exact .inr (same ▸ h.new_of_dial dials)
  · refine follows_run h fun j e there => .inl ?_
    exact (Station.entries_of_packet there).resolve_right fun brought => Option.some_ne_none _ brought.2.symm

theorem follows_closeNear (c : SocketId) :
    d.Follows { d with sockets := d.sockets.modify c Pipe.closeNear } :=
  .of_entries rfl (h.modify c fun _ _ => rfl)

theorem attach_brings (out : Outlet σ) (c : SocketId) :
    d.sockets.Grows (d.attach out c).2.sockets ∧
      ∀ r, (d.attach out c).2.mux.isOpen r = true →
        d.mux.isOpen r = true ∨ d.sockets.pipes.contains r.socket = false ∨ r.socket = c := by
  have grows : d.sockets.Grows (d.run (·.attach c d.draw)).2.sockets := (h.performs _).1
  have comes (r : StreamRef) (there : (d.run (·.attach c d.draw)).2.mux.isOpen r = true) :
      d.mux.isOpen r = true ∨ r.socket = c := by
    obtain ⟨e, found, same⟩ := Multiplexer.isOpen_iff_entry.mp there
    rcases Station.entries_of_attach found with before | ⟨-, mine⟩
    · exact .inl (Multiplexer.isOpen_iff_entry.mpr ⟨e, before, same⟩)
    · exact .inr (same.symm.trans mine.symm)
  rw [attach]
  generalize d.run (·.attach c d.draw) = entered at grows comes
  obtain ⟨result, d'⟩ := entered
  cases result with
  | none => exact ⟨grows, fun r there => (comes r there).imp_right .inr⟩
  | some r' =>
      have counted : d'.Follows { d' with drawn := d'.drawn + d'.mux.count } :=
        .of_entries rfl (.refl grows.numbered)
      have reads := counted.trans (follows_readAll counted.sockets.numbered out r')
      refine ⟨grows.trans reads.sockets, fun r there => ?_⟩
      rcases reads.comes r there with before | new
      · exact (comes r before).imp_right .inr
      · exact .inr (.inl (grows.new new))

end

end Desk

inductive DeskEvent where
  | far (socket : SocketId) (a : FarAct)
  | packet (raw : Bytes)
  | remove (id : StreamId)
  | failed (r : StreamRef)
  | send (id : StreamId) (payload : Bytes) (kind : PacketKind)
  | teardown
  | role (isHost : Bool)
  | target (target : Target)
  | closeOutlet
  | join
  | look
deriving DecidableEq

namespace Desk

def happen (d : Desk Outbox) : DeskEvent → Desk Outbox
  | .far socket a => (d.act .outbox socket a).2
  | .packet raw => d.packet .outbox raw
  | .remove id => (d.remove id).2
  | .failed r => d.step (·.writeFailed .outbox r)
  | .send id payload kind => (d.sendFramed .outbox id payload kind).2
  | .teardown => d.teardown
  | .role isHost => { d with mux.isHost := isHost }
  | .target target => { d with sockets.target := target }
  | .closeOutlet => { d with outlet.isOpen := false }
  | .join => ({ d with sockets := d.sockets.arrive.2 }.attach .outbox d.sockets.arrive.1).2
  | .look => { d with sockets := d.sockets.look.2, outlet.packets := [] }

theorem follows_happen {d : Desk Outbox} (h : d.sockets.Numbered) (e : DeskEvent) : d.Follows (d.happen e) := by
  cases e with
  | far socket a => exact follows_act h .outbox socket a
  | packet raw => exact follows_packet h .outbox raw
  | remove id => exact follows_run h fun j e there => .inl (Station.entries_of_remove there)
  | failed r => exact follows_run h fun j e there => .inl (Station.entries_of_closeFromLocal there)
  | send id payload kind =>
      refine follows_run h fun j e there => .inl ?_
      have same : (Station.sendFramed .outbox id payload kind { mux := d.mux, outlet := d.outlet }).2.mux = d.mux :=
        Station.mux_offerAll _ _
      rwa [same] at there
  | teardown => exact follows_run h fun _ _ there => nomatch there
  | role isHost | closeOutlet => exact .of_entries rfl (.refl h)
  | target target => exact .of_entries rfl ⟨⟨h.clients, h.services⟩, fun _ there => there, fun _ shut => shut⟩
  | look => exact .of_entries rfl (Sockets.grows_look h)
  | join =>
      have grows := h.arrive.1
      obtain ⟨taken, comes⟩ :=
        attach_brings (d := { d with sockets := d.sockets.arrive.2 }) grows.numbered .outbox d.sockets.arrive.1
      refine ⟨grows.trans taken, fun r there => ?_⟩
      rcases comes r there with before | new | mine
      · exact .inl before
      · exact .inr (grows.new new)
      · exact .inr (mine ▸ h.new_of_arrive)

end Desk
end StreamTunnel
