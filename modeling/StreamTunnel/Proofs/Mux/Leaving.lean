import StreamTunnel.Mux.Desk
import StreamTunnel.Proofs.Mux.Renaming
import StreamTunnel.Proofs.Mux.Run

namespace StreamTunnel

namespace Sockets

variable {t t' : Sockets} {c : SocketId}

def HasShut (c : SocketId) (t : Sockets) : Prop :=
  ∃ p, t.pipes.get? c = some p ∧ p.nearClosed = true

structure Numbered (t : Sockets) : Prop where
  clients : ∀ n, t.pipes.contains (.client n) = true → n ≤ t.clients
  services : ∀ n, t.pipes.contains (.service n) = true → n ≤ t.services

structure Grows (t t' : Sockets) : Prop where
  numbered : t'.Numbered
  there : ∀ c, t.pipes.contains c = true → t'.pipes.contains c = true
  shut : ∀ c, t.HasShut c → t'.HasShut c

theorem Grows.refl (h : t.Numbered) : t.Grows t :=
  ⟨h, fun _ there => there, fun _ shut => shut⟩

theorem Grows.trans {t'' : Sockets} (first : t.Grows t') (second : t'.Grows t'') : t.Grows t'' :=
  ⟨second.numbered, fun c there => second.there c (first.there c there),
    fun c shut => second.shut c (first.shut c shut)⟩

theorem contains_modify (c k : SocketId) (f : Pipe → Pipe) :
    (t.modify k f).pipes.contains c = t.pipes.contains c := by
  rw [Table.contains, modify, Table.get?_modify]
  split
  · exact Option.isSome_map
  · rfl

theorem Numbered.modify (h : t.Numbered) (k : SocketId) {f : Pipe → Pipe}
    (keeps : ∀ p : Pipe, p.nearClosed = true → (f p).nearClosed = true) : t.Grows (t.modify k f) := by
  refine ⟨⟨fun n there => ?_, fun n there => ?_⟩, fun c there => ?_, fun c shut => ?_⟩
  · rw [contains_modify] at there
    exact h.clients n there
  · rw [contains_modify] at there
    exact h.services n there
  · rwa [contains_modify]
  · obtain ⟨p, there, shut⟩ := shut
    by_cases same : c = k
    · exact ⟨f p, by rw [Sockets.modify, Table.get?_modify, if_pos same, there, Option.map_some], keeps p shut⟩
    · exact ⟨p, by rw [Sockets.modify, Table.get?_modify, if_neg same, there], shut⟩

theorem hasShut_closeNear (there : t.pipes.contains c = true) : (t.modify c Pipe.closeNear).HasShut c := by
  obtain ⟨p, found⟩ := Option.isSome_iff_exists.mp there
  exact ⟨p.closeNear, by rw [modify, Table.get?_modify, if_pos rfl, found, Option.map_some], rfl⟩

theorem Grows.of_insert (numbered : t'.Numbered) (pipes : t'.pipes = t.pipes.insert c {})
    (new : t.pipes.contains c = false) : t.Grows t' := by
  refine ⟨numbered, fun k there => ?_, fun k shut => ?_⟩
  · rw [pipes, Table.contains_insert, there, ite_self]
  · obtain ⟨p, there, shut⟩ := shut
    have other : k ≠ c := by
      rintro rfl
      rw [Table.contains, there] at new
      cases new
    exact ⟨p, by rw [pipes, Table.get?_insert, if_neg other, there], shut⟩

theorem Numbered.arrive (h : t.Numbered) :
    t.Grows t.arrive.2 ∧ t.arrive.2.pipes.contains t.arrive.1 = true := by
  have contains (k : SocketId) : t.arrive.2.pipes.contains k =
      if k = .client (t.clients + 1) then true else t.pipes.contains k := Table.contains_insert ..
  have new : t.pipes.contains (.client (t.clients + 1)) = false := by
    rw [← Bool.not_eq_true]
    intro there
    exact absurd (h.clients _ there) (Nat.not_succ_le_self _)
  refine ⟨.of_insert ⟨fun n there => ?_, fun n there => ?_⟩ rfl new, by rw [contains]; exact if_pos rfl⟩
  · rw [contains] at there
    split at there
    · next same => exact Nat.le_of_eq (SocketId.client.inj same)
    · exact Nat.le_succ_of_le (h.clients n there)
  · rw [contains, if_neg (by simp)] at there
    exact h.services n there

theorem Numbered.dial (h : t.Numbered) :
    t.Grows t.dial.2 ∧ ∀ c, t.dial.1 = some c → t.dial.2.pipes.contains c = true := by
  let id : SocketId := .service (t.services + 1)
  have contains (k : SocketId) : (t.pipes.insert id {}).contains k =
      if k = id then true else t.pipes.contains k := Table.contains_insert ..
  have new : t.pipes.contains id = false := by
    rw [← Bool.not_eq_true]
    intro there
    exact absurd (h.services _ there) (Nat.not_succ_le_self _)
  have dials : t.Grows { t with services := t.services + 1, pipes := t.pipes.insert id {} } := by
    refine .of_insert ⟨fun n there => ?_, fun n there => ?_⟩ rfl new
    · rw [contains, if_neg (by simp [id])] at there
      exact h.clients n there
    · rw [contains] at there
      split at there
      · next same => exact Nat.le_of_eq (SocketId.service.inj same)
      · exact Nat.le_succ_of_le (h.services n there)
  rw [Sockets.dial]
  split
  · exact ⟨.refl h, by simp⟩
  · exact ⟨.refl h, by simp⟩
  all_goals
    refine ⟨dials, ?_⟩
    rintro _ ⟨⟩
    exact (contains id).trans (if_pos rfl)

theorem Numbered.act (h : t.Numbered) (c : SocketId) (a : FarAct) : t.Grows (t.act c a).2 := by
  have keeps (p : Pipe) (shut : p.nearClosed = true) : (p.act a).nearClosed = true := by
    cases a with
    | write b =>
        rw [Pipe.act]
        split <;> exact shut
    | halfClose | close | reset => exact shut
  rw [Sockets.act]
  cases t.pipes.get? c with
  | none => exact .refl h
  | some p =>
      dsimp only
      split
      · exact .refl h
      · exact h.modify c keeps

theorem Numbered.perform (h : t.Numbered) (a : SocketAction) : t.Grows (Desk.perform t a) := by
  cases a with
  | write c payload =>
      refine h.modify c fun p shut => ?_
      rw [Pipe.write]
      split <;> exact shut
  | release c => exact h.modify c fun _ _ => rfl

theorem Numbered.performs (h : t.Numbered) (asked : List SocketAction) :
    t.Grows (asked.foldl Desk.perform t) ∧ ∀ c, .release c ∈ asked → t.pipes.contains c = true →
      (asked.foldl Desk.perform t).HasShut c := by
  induction asked generalizing t with
  | nil => exact ⟨.refl h, by simp⟩
  | cons a rest ih =>
      have first := h.perform a
      obtain ⟨grows, released⟩ := ih first.numbered
      refine ⟨first.trans grows, fun c mem there => ?_⟩
      rcases List.mem_cons.mp mem with rfl | later
      · exact grows.shut c (hasShut_closeNear there)
      · exact released c later (first.there c there)

end Sockets

theorem Multiplexer.isOpen_iff_entry {m : Multiplexer} {r : StreamRef} :
    m.isOpen r = true ↔ ∃ e, m.entries.get? r.id = some e ∧ e.socket = r.socket := by
  obtain ⟨id, socket⟩ := r
  simp [isOpen_iff, lookup]

namespace Station

variable {σ : Type} {s s' : Station σ} {out : Outlet σ} {r : StreamRef}

def Leaves (s s' : Station σ) : Prop :=
  ∃ asked, s'.actions = s.actions ++ asked ∧
    ∀ r, s.mux.isOpen r = true → s'.mux.isOpen r = true ∨ .release r.socket ∈ asked

theorem Leaves.of_entries (entries : s'.mux.entries = s.mux.entries) {asked : List SocketAction}
    (actions : s'.actions = s.actions ++ asked) : s.Leaves s' := by
  refine ⟨asked, actions, fun r there => .inl ?_⟩
  rwa [Multiplexer.isOpen, Multiplexer.lookup, entries]

theorem Leaves.refl (s : Station σ) : s.Leaves s :=
  .of_entries rfl (List.append_nil _).symm

theorem Leaves.trans {s'' : Station σ} (first : s.Leaves s') (second : s'.Leaves s'') : s.Leaves s'' := by
  obtain ⟨asked, actions, leaves⟩ := first
  obtain ⟨asked', actions', leaves'⟩ := second
  refine ⟨asked ++ asked', by rw [actions', actions, List.append_assoc], fun r there => ?_⟩
  rcases leaves r there with still | released
  · exact (leaves' r still).imp_right (List.mem_append_right asked)
  · exact .inr (List.mem_append_left asked' released)

theorem leaves_sayGone (out : Outlet σ) (id : StreamId) (s : Station σ) : s.Leaves (s.sayGone out id) :=
  .of_entries rfl (List.append_nil _).symm

theorem leaves_offerAll (out : Outlet σ) (packets : List Packet) (s : Station σ) :
    s.Leaves (s.offerAll out packets).2 := by
  obtain ⟨o, same⟩ := exists_offerAll_eq out packets s
  rw [same]
  exact .of_entries rfl (List.append_nil _).symm

theorem leaves_remove (id : StreamId) (s : Station σ) : s.Leaves (s.remove id).2 := by
  have others (r : StreamRef) (there : s.mux.isOpen r = true) (other : r.id ≠ id)
      (missing : List StreamId) :
      ({ s.mux with entries := s.mux.entries.erase id, missing } : Multiplexer).isOpen r = true := by
    rw [Multiplexer.isOpen_iff, lookup_erase, Function.update_of_ne other]
    exact Multiplexer.isOpen_iff.mp there
  rw [remove]
  cases found : s.mux.entries.get? id with
  | none =>
      refine ⟨[], (List.append_nil _).symm, fun r there => .inl (others r there ?_ _)⟩
      rintro rfl
      obtain ⟨e, there, -⟩ := Multiplexer.isOpen_iff_entry.mp there
      rw [found] at there
      cases there
  | some e =>
      refine ⟨[.release e.socket], rfl, fun r there => ?_⟩
      by_cases same : r.id = id
      · obtain ⟨e', there, socket⟩ := Multiplexer.isOpen_iff_entry.mp there
        rw [same, found] at there
        obtain rfl := Option.some.inj there
        exact .inr (by simp [socket])
      · exact .inl (others r there same _)

theorem leaves_closeFromLocal (out : Outlet σ) (id : StreamId) (s : Station σ) :
    s.Leaves (s.closeFromLocal out id) := by
  have removed := leaves_remove id s
  rw [closeFromLocal]
  split
  · next gone => rwa [gone] at removed
  · next found =>
    rw [found] at removed
    split
    · exact removed.trans (leaves_sayGone out id _)
    · exact removed

theorem isOpen_register {id : StreamId} (free : s.mux.entries.get? id = none) (e : Entry)
    (there : s.mux.isOpen r = true) : (s.register id e).mux.isOpen r = true := by
  have other : r.id ≠ id := by
    rintro rfl
    obtain ⟨e, there, -⟩ := Multiplexer.isOpen_iff_entry.mp there
    rw [free] at there
    cases there
  rw [Multiplexer.isOpen_iff, register, update, lookup_insert, Function.update_of_ne other]
  exact Multiplexer.isOpen_iff.mp there

theorem leaves_register {id : StreamId} (free : s.mux.entries.get? id = none) (e : Entry) :
    s.Leaves (s.register id e) :=
  ⟨[], (List.append_nil _).symm, fun _ there => .inl (isOpen_register free e there)⟩

theorem leaves_attach (socket : SocketId) (drawn : List StreamId) (s : Station σ) :
    s.Leaves (s.attach socket drawn).2 := by
  rw [attach]
  cases drawing : StreamId.firstFree s.mux.entries.contains drawn with
  | none => exact .refl s
  | some found =>
      have free : s.mux.entries.contains found.1 = false := StreamId.not_taken_of_firstFree drawing
      exact leaves_register (by simpa [Table.contains] using free) _

theorem isOpen_of_attach {socket : SocketId} {drawn : List StreamId} (given : (s.attach socket drawn).1 = some r) :
    (s.attach socket drawn).2.mux.isOpen r = true := by
  cases drawing : StreamId.firstFree s.mux.entries.contains drawn with
  | none => simp [attach, drawing] at given
  | some found =>
      simp only [attach, drawing, Option.some.injEq] at given ⊢
      rw [← given, Multiplexer.isOpen_iff, register, update, lookup_insert, Function.update_self]

theorem leaves_packet (out : Outlet σ) (raw : Bytes) (dialed : Option SocketId) (s : Station σ) :
    s.Leaves (s.packet out raw dialed) := by
  rw [packet]
  split
  · exact .refl s
  · next id payload _ =>
    unfold deliver
    cases found : s.mux.entries.get? id with
    | some e => exact .of_entries rfl rfl
    | none =>
        dsimp only
        split
        · cases dialed with
          | none => exact leaves_sayGone out id s
          | some socket =>
              have registered := leaves_register found ⟨.adopted, socket⟩
              exact registered.trans (.of_entries rfl rfl)
        · exact .of_entries rfl (List.append_nil _).symm
  · exact leaves_remove _ s

theorem leaves_read (out : Outlet σ) (r : StreamRef) (piece : Bytes) (s : Station σ) :
    s.Leaves (s.read out r piece) := by
  have offered := leaves_offerAll out (framed r.id piece .data s.mux) s
  rw [read]
  split
  · rw [sendFramed]
    generalize s.offerAll out (framed r.id piece .data s.mux) = sending at offered
    obtain ⟨⟨n, all⟩, s'⟩ := sending
    cases all with
    | true => exact offered
    | false => exact offered.trans (leaves_closeFromLocal out r.id s')
  · exact .refl s

theorem leaves_readEnded (out : Outlet σ) (r : StreamRef) (s : Station σ) :
    s.Leaves (s.readEnded out r) := by
  rw [readEnded]
  split
  · exact leaves_closeFromLocal out r.id s
  · exact .refl s

theorem leaves_teardown (s : Station σ) : s.Leaves s.teardown := by
  refine ⟨_, rfl, fun r there => .inr ?_⟩
  obtain ⟨e, found, socket⟩ := Multiplexer.isOpen_iff_entry.mp there
  rw [← socket]
  exact List.mem_map_of_mem (List.mem_map_of_mem (f := fun e => e.2.socket) (Table.mem_of_get? found))

end Station

namespace Desk

variable {σ : Type} {d d' : Desk σ} {out : Outlet σ}

structure Housed (d : Desk σ) : Prop where
  numbered : d.sockets.Numbered
  there : ∀ r, d.mux.isOpen r = true → d.sockets.pipes.contains r.socket = true

/-- From `d` to `d'` each stream stays, or its socket is closed. -/
structure Leaves (d d' : Desk σ) : Prop where
  housed : d'.Housed
  sockets : d.sockets.Grows d'.sockets
  stays : ∀ r, d.mux.isOpen r = true → d'.mux.isOpen r = true ∨ d'.sockets.HasShut r.socket

theorem Leaves.refl (h : d.Housed) : d.Leaves d :=
  ⟨h, .refl h.numbered, fun _ there => .inl there⟩

theorem Leaves.trans {d'' : Desk σ} (first : d.Leaves d') (second : d'.Leaves d'') : d.Leaves d'' := by
  refine ⟨second.housed, first.sockets.trans second.sockets, fun r there => ?_⟩
  rcases first.stays r there with still | shut
  · exact second.stays r still
  · exact .inr (second.sockets.shut _ shut)

theorem Housed.grow (h : d.Housed) {t : Sockets} (grows : d.sockets.Grows t) :
    d.Leaves { d with sockets := t } :=
  ⟨⟨grows.numbered, fun r there => grows.there _ (h.there r there)⟩, grows, fun _ there => .inl there⟩

theorem Housed.run (h : d.Housed) {α : Type} {f : Station σ → α × Station σ}
    (leaves : Station.Leaves { mux := d.mux, outlet := d.outlet } (f { mux := d.mux, outlet := d.outlet }).2)
    (comes : ∀ j e, (f { mux := d.mux, outlet := d.outlet }).2.mux.entries.get? j = some e →
      d.mux.entries.get? j = some e ∨ d.sockets.pipes.contains e.socket = true) :
    d.Leaves (d.run f).2 := by
  let s := (f { mux := d.mux, outlet := d.outlet }).2
  obtain ⟨asked, actions, stays⟩ := leaves
  obtain ⟨grows, released⟩ := h.numbered.performs s.actions
  obtain rfl : s.actions = asked := actions
  refine ⟨⟨grows.numbered, fun r there => grows.there _ ?_⟩, grows, fun r there => ?_⟩
  · obtain ⟨e, found, socket⟩ := Multiplexer.isOpen_iff_entry.mp there
    rw [← socket]
    rcases comes r.id e found with old | there
    · exact socket ▸ h.there r (Multiplexer.isOpen_iff_entry.mpr ⟨e, old, socket⟩)
    · exact there
  · exact (stays r there).imp_right fun release => released _ release (h.there r there)

theorem readWith_keeps {P : Desk σ → Prop} {R : Desk σ → Desk σ → Prop} {out : Outlet σ} {r : StreamRef}
    (refl : ∀ d, P d → R d d) (trans : ∀ d d' d'', R d d' → R d' d'' → R d d'') (kept : ∀ d d', R d d' → P d')
    (ended : ∀ d, P d → R d (d.step (·.readEnded out r)))
    (taken : ∀ d size, P d → R d { d with
      sockets := d.sockets.modify r.socket (fun p => { p with toNear := p.toNear.drop size }) })
    (read : ∀ d piece, P d → R d (d.step (·.read out r piece)))
    (h : P d) (fuel : Nat) : R d (d.readWith out r fuel) := by
  induction fuel generalizing d with
  | zero => exact refl d h
  | succ fuel ih =>
      rw [Desk.readWith]
      split
      · split
        · exact refl d h
        · split
          · split
            · exact ended d h
            · exact refl d h
          · dsimp only
            split
            · exact ended d h
            · next p _ _ _ =>
              let size := d.mux.settings.readBufferSize
              have first := taken d size h
              have second := read _ (p.toNear.take size) (kept _ _ first)
              exact trans _ _ _ first (trans _ _ _ second (ih (kept _ _ second)))
      · exact refl d h

theorem Housed.readWith (h : d.Housed) (out : Outlet σ) (r : StreamRef) (fuel : Nat) :
    d.Leaves (d.readWith out r fuel) := by
  refine readWith_keeps (fun _ h => .refl h) (fun _ _ _ => .trans) (fun _ _ leaves => leaves.housed) ?_ ?_ ?_ h fuel
  · intro d h
    exact h.run (Station.leaves_readEnded out r _) fun j e there => .inl (Station.entries_of_readEnded there)
  · intro d size h
    exact h.grow (h.numbered.modify r.socket fun _ shut => shut)
  · intro d piece h
    exact h.run (Station.leaves_read out r piece _) fun j e there => .inl (Station.entries_of_read there)

theorem Housed.readAll (h : d.Housed) (out : Outlet σ) (r : StreamRef) : d.Leaves (d.readAll out r) :=
  h.readWith out r _

theorem Housed.readSocket (h : d.Housed) (out : Outlet σ) (c : SocketId) : d.Leaves (d.readSocket out c) := by
  rw [Desk.readSocket]
  cases d.mux.owner? c with
  | none => exact .refl h
  | some r => exact h.readAll out r

theorem Housed.packet (h : d.Housed) (out : Outlet σ) (raw : Bytes) : d.Leaves (d.packet out raw) := by
  have takes {d : Desk σ} (h : d.Housed) {dialed : Option SocketId}
      (there : ∀ c, dialed = some c → d.sockets.pipes.contains c = true) :
      d.Leaves (d.step (·.packet out raw dialed)) :=
    h.run (Station.leaves_packet out raw dialed _) fun j e found =>
      (Station.entries_of_packet found).imp_right fun brought => there _ brought.2
  rw [Desk.packet]
  split
  · obtain ⟨grows, there⟩ := h.numbered.dial
    have dialed := h.grow grows
    exact dialed.trans (takes dialed.housed there)
  · exact takes h (by simp)

theorem Housed.teardown (h : d.Housed) : d.Leaves d.teardown :=
  h.run (Station.leaves_teardown _) fun _ _ there => nomatch there

theorem Housed.attach (h : d.Housed) (out : Outlet σ) {c : SocketId}
    (there : d.sockets.pipes.contains c = true) :
    d.Leaves (d.attach out c).2 ∧ ∀ r, (d.attach out c).1 = some r →
      (d.attach out c).2.mux.isOpen r = true ∨ (d.attach out c).2.sockets.HasShut r.socket := by
  have enters : d.Leaves (d.run (·.attach c d.draw)).2 :=
    h.run (Station.leaves_attach c d.draw _) fun j e found => by
      rcases Station.entries_of_attach found with old | ⟨-, rfl⟩
      · exact .inl old
      · exact .inr there
  have given (r : StreamRef) : (d.run (·.attach c d.draw)).1 = some r →
      (d.run (·.attach c d.draw)).2.mux.isOpen r = true := Station.isOpen_of_attach
  rw [Desk.attach]
  generalize d.run (·.attach c d.draw) = entered at enters given
  obtain ⟨result, d'⟩ := entered
  cases result with
  | none => exact ⟨enters, by simp⟩
  | some r =>
      have counted : d'.Leaves { d' with drawn := d'.drawn + d'.mux.count } :=
        ⟨⟨enters.housed.numbered, enters.housed.there⟩, .refl enters.housed.numbered, fun _ there => .inl there⟩
      have read := counted.trans (counted.housed.readAll out r)
      refine ⟨enters.trans read, ?_⟩
      rintro _ ⟨⟩
      exact read.stays r (given r rfl)

end Desk
end StreamTunnel
