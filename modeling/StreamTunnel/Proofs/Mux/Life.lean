import StreamTunnel.Proofs.Mux.Run
import StreamTunnel.Proofs.Mux.Turn

/-!
# The life of a multiplexer

Acts are done to a multiplexer, dials end, payloads are sent through it, it is torn down, and the side
that it is on may change. What all this has to do with its streams shows in its `Roll`: the streams that
are there, the ids that are missing, and the sockets that were released. `MuxEvent.change` says what an
event changes there, and `roll_happen` that it changes nothing else.
-/

namespace StreamTunnel

inductive MuxEvent where
  | act (a : MuxAct)
  /-- A dial ends late, for a payload that came earlier. -/
  | dialEnded (id : StreamId) (payload : Bytes) (dialed : Option SocketId)
  | send (id : StreamId) (payload : Bytes) (kind : PacketKind)
  | teardown
  | role (isHost : Bool)
deriving DecidableEq, Repr

def SocketAction.released? : SocketAction → Option SocketId
  | release socket => some socket
  | write .. => none

structure Roll where
  entries : Table StreamId Entry
  missing : List StreamId
  released : List SocketId

namespace Roll

inductive Change where
  | nothing
  | enter (r : StreamRef) (origin : Origin)
  | find (id : StreamId)
  | miss (id : StreamId)
  | remove (id : StreamId)
  | clear
  | spare (socket : SocketId)
deriving DecidableEq, Repr

def Change.socket? : Change → Option SocketId
  | enter r _ => some r.socket
  | spare socket => some socket
  | _ => none

def ref? (id : StreamId) (l : Roll) : Option StreamRef :=
  (l.entries.get? id).map (fun e => ⟨id, e.socket⟩)

def change (l : Roll) : Change → Roll
  | .nothing => l
  | .enter r origin =>
      { l with entries := l.entries.insert r.id ⟨origin, r.socket⟩, missing := l.missing.filter (· ≠ r.id) }
  | .find id => { l with missing := l.missing.filter (· ≠ id) }
  | .miss id => { l with missing := l.missing.insert id }
  | .remove id =>
      { entries := l.entries.erase id
        missing := l.missing.filter (· ≠ id)
        released := l.released ++ ((l.entries.get? id).map Entry.socket).toList }
  | .clear =>
      { entries := ∅, missing := [], released := l.released ++ l.entries.toList.map (fun e => e.2.socket) }
  | .spare socket => { l with released := l.released ++ [socket] }

end Roll

namespace Station

variable {σ : Type}

def happen (out : Outlet σ) (s : Station σ) : MuxEvent → Station σ
  | .act a => s.step out a
  | .dialEnded id payload dialed => s.dialEnded out id payload dialed
  | .send id payload kind => (s.sendFramed out id payload kind).2
  | .teardown => s.teardown
  | .role isHost => s.update (fun m => { m with isHost })

def life (out : Outlet σ) (s : Station σ) (events : List MuxEvent) : Station σ :=
  events.foldl (happen out) s

def roll (s : Station σ) : Roll where
  entries := s.mux.entries
  missing := s.mux.missing
  released := s.actions.filterMap SocketAction.released?

end Station

namespace MuxEvent

variable {σ : Type}

def socket? : MuxEvent → Option SocketId
  | act a => a.socket?
  | dialEnded _ _ dialed => dialed
  | _ => none

/-- What an event changes. A stream that is read is removed when its socket ends, or when the outlet
refuses what was read. -/
def change (out : Outlet σ) (s : Station σ) : MuxEvent → Roll.Change
  | act (.attach socket drawn) => (s.attach socket drawn).1.elim .nothing (.enter · .accepted)
  | act (.packet raw dialed) =>
      match Packet.decode raw with
      | .error _ => .nothing
      | .ok ⟨id, .disconnect, _⟩ => .remove id
      | .ok ⟨id, .data, _⟩ =>
          if (s.mux.lookup id).isSome then .find id
          else if s.mux.canDial then dialed.elim .nothing fun socket => .enter ⟨id, socket⟩ .adopted
          else .miss id
  | act (.remove id) => .remove id
  | act (.read r piece) =>
      if s.mux.isOpen r && (piece.isEmpty || (s.sendFramed out r.id piece .data).1.isNone) then
        .remove r.id
      else .nothing
  | act (.ended r) => if s.mux.isOpen r then .remove r.id else .nothing
  | act (.failed r) => .remove r.id
  | dialEnded id _ dialed =>
      dialed.elim .nothing fun socket =>
        if (s.mux.lookup id).isSome then .spare socket else .enter ⟨id, socket⟩ .adopted
  | teardown => .clear
  | send .. | role _ => .nothing

/-- Data come for an id that has no stream, and there is no target to dial. -/
def Misses (s : Station σ) (id : StreamId) (e : MuxEvent) : Prop :=
  ∃ raw dialed payload, e = act (.packet raw dialed) ∧
    Packet.decode raw = .ok ⟨id, .data, payload⟩ ∧ s.mux.lookup id = none ∧ s.mux.canDial = false

/-- What must be so for a change. -/
def Warrants (s : Station σ) (e : MuxEvent) : Roll.Change → Prop
  | .enter r _ => s.mux.lookup r.id = none ∧ e.socket? = some r.socket
  | .find id => s.mux.lookup id ≠ none
  | .miss id => e.Misses s id
  | .clear => e = teardown
  | .spare socket => e.socket? = some socket
  | .nothing | .remove _ => True

end MuxEvent

namespace Station

variable {σ : Type} {out : Outlet σ} {s : Station σ} {id : StreamId}

theorem roll_sayGone (out : Outlet σ) (id : StreamId) (s : Station σ) : (s.sayGone out id).roll = s.roll :=
  rfl

theorem roll_write (socket : SocketId) (payload : Bytes) (s : Station σ) :
    (s.ask (.write socket payload)).roll = s.roll := by
  simp [roll, ask, SocketAction.released?]

theorem roll_offerAll (out : Outlet σ) (packets : List Packet) (s : Station σ) :
    (s.offerAll out packets).2.roll = s.roll := by
  obtain ⟨o, same⟩ := exists_offerAll_eq out packets s
  rw [same]
  rfl

theorem roll_sendFramed (out : Outlet σ) (id : StreamId) (payload : Bytes) (kind : PacketKind)
    (s : Station σ) : (s.sendFramed out id payload kind).2.roll = s.roll :=
  roll_offerAll out (framed id payload kind s.mux) s

theorem roll_remove (id : StreamId) (s : Station σ) :
    (s.remove id).2.roll = s.roll.change (.remove id) := by
  rw [remove]
  cases found : s.mux.entries.get? id <;>
    simp [roll, Roll.change, ask, update, found, SocketAction.released?]

theorem roll_closeFromLocal (out : Outlet σ) (id : StreamId) (s : Station σ) :
    (s.closeFromLocal out id).roll = s.roll.change (.remove id) := by
  have removed := roll_remove id s
  rw [closeFromLocal]
  split
  · next gone => rwa [gone] at removed
  · next found =>
    rw [found] at removed
    split
    · rwa [roll_sayGone]
    · exact removed

theorem roll_readEnded (out : Outlet σ) (r : StreamRef) (s : Station σ) :
    (s.readEnded out r).roll = s.roll.change (if s.mux.isOpen r then .remove r.id else .nothing) := by
  rw [readEnded]
  split
  · exact roll_closeFromLocal out r.id s
  · rfl

theorem roll_read (out : Outlet σ) (r : StreamRef) (piece : Bytes) (s : Station σ) :
    (s.read out r piece).roll =
      s.roll.change
        (if s.mux.isOpen r && (s.sendFramed out r.id piece .data).1.isNone then .remove r.id
        else .nothing) := by
  have sent := roll_sendFramed out r.id piece .data s
  rw [read]
  cases s.mux.isOpen r with
  | false => rfl
  | true =>
      generalize s.sendFramed out r.id piece .data = sending at sent
      obtain ⟨n, s'⟩ := sending
      cases n with
      | some n => exact sent
      | none =>
          have closed := roll_closeFromLocal out r.id s'
          rw [sent] at closed
          exact closed

theorem roll_attach (socket : SocketId) (drawn : List StreamId) (s : Station σ) :
    (s.attach socket drawn).2.roll =
      s.roll.change ((s.attach socket drawn).1.elim .nothing (.enter · .accepted)) := by
  rw [attach]
  split <;> rfl

theorem lookup_isSome (id : StreamId) (m : Multiplexer) :
    (m.lookup id).isSome = (m.entries.get? id).isSome := by
  rw [Multiplexer.lookup, Option.isSome_map]

theorem roll_dialEnded (out : Outlet σ) (id : StreamId) (payload : Bytes) (dialed : Option SocketId)
    (s : Station σ) :
    (s.dialEnded out id payload dialed).roll =
      s.roll.change ((MuxEvent.dialEnded id payload dialed).change out s) := by
  cases dialed with
  | none => rfl
  | some socket =>
      rw [dialEnded, MuxEvent.change, Option.elim, lookup_isSome]
      cases s.mux.entries.get? id with
      | none => exact roll_write socket payload _
      | some e =>
          refine (roll_write e.socket payload _).trans ?_
          simp [roll, ask, Roll.change, SocketAction.released?]

theorem deliver_eq_dialEnded (out : Outlet σ) (payload : Bytes) (dialed : Option SocketId)
    (free : s.mux.entries.get? id = none) (able : s.mux.canDial = true) :
    s.deliver out id payload dialed = s.dialEnded out id payload dialed := by
  simp only [deliver, dialEnded, free, able, if_true]

theorem roll_packet (out : Outlet σ) (raw : Bytes) (dialed : Option SocketId) (s : Station σ) :
    (s.packet out raw dialed).roll =
      s.roll.change ((MuxEvent.act (.packet raw dialed)).change out s) := by
  cases read : Packet.decode raw with
  | error fault => simp only [packet, MuxEvent.change, read, Roll.change]
  | ok p =>
      obtain ⟨id, kind, payload⟩ := p
      cases kind with
      | disconnect =>
          simp only [packet, MuxEvent.change, read]
          exact roll_remove id s
      | data =>
          simp only [packet, MuxEvent.change, read, lookup_isSome]
          cases found : s.mux.entries.get? id with
          | some e =>
              simp only [deliver, found]
              exact roll_write e.socket payload _
          | none =>
              cases able : s.mux.canDial with
              | true =>
                  rw [deliver_eq_dialEnded out payload dialed found able, roll_dialEnded, MuxEvent.change,
                    lookup_isSome, found]
                  rfl
              | false =>
                  simp only [deliver, found, able]
                  rfl

theorem roll_teardown (s : Station σ) : s.teardown.roll = s.roll.change .clear := by
  have each : SocketAction.released? ∘ SocketAction.release = some := rfl
  simp only [roll, teardown, update, Roll.change, List.filterMap_append, List.filterMap_map, each,
    List.filterMap_eq_map]

theorem roll_happen (out : Outlet σ) (s : Station σ) (e : MuxEvent) :
    (s.happen out e).roll = s.roll.change (e.change out s) := by
  cases e with
  | dialEnded id payload dialed => exact roll_dialEnded out id payload dialed s
  | send id payload kind => exact roll_sendFramed out id payload kind s
  | teardown => exact roll_teardown s
  | role isHost => rfl
  | act a =>
      cases a with
      | attach socket drawn => exact roll_attach socket drawn s
      | packet raw dialed => exact roll_packet out raw dialed s
      | remove id => exact roll_remove id s
      | failed r => exact roll_closeFromLocal out r.id s
      | ended r => exact roll_readEnded out r s
      | read r piece =>
          rw [happen, step, MuxEvent.change]
          cases piece.isEmpty with
          | true =>
              rw [if_pos rfl, roll_readEnded, Bool.true_or, Bool.and_true]
          | false =>
              rw [if_neg Bool.false_ne_true, roll_read, Bool.false_or]

theorem ref?_roll (id : StreamId) (s : Station σ) : s.roll.ref? id = s.mux.lookup id :=
  rfl

theorem ref?_change (l : Roll) (c : Roll.Change) (id : StreamId) :
    (l.change c).ref? id = match c with
      | .enter r _ => if id = r.id then some r else l.ref? id
      | .remove j => if id = j then none else l.ref? id
      | .clear => none
      | _ => l.ref? id := by
  cases c with
  | enter r origin =>
      dsimp only [Roll.change, Roll.ref?]
      rw [Table.get?_insert]
      split
      · next same => rw [same, Option.map_some]
      · rfl
  | remove j =>
      dsimp only [Roll.change, Roll.ref?]
      rw [Table.get?_erase]
      split <;> rfl
  | nothing | find | miss | clear | spare => rfl

theorem lookup_happen (out : Outlet σ) (s : Station σ) (e : MuxEvent) (id : StreamId) :
    (s.happen out e).mux.lookup id = (s.roll.change (e.change out s)).ref? id := by
  rw [← ref?_roll, roll_happen]

theorem lookup_of_attach {socket : SocketId} {drawn : List StreamId} {r : StreamRef}
    (given : (s.attach socket drawn).1 = some r) : s.mux.lookup r.id = none ∧ r.socket = socket := by
  cases drawing : StreamId.firstFree s.mux.entries.contains drawn with
  | none => simp [attach, drawing] at given
  | some found =>
      simp only [attach, drawing, Option.some.injEq] at given
      subst given
      have free := StreamId.not_taken_of_firstFree drawing
      exact ⟨by simpa [Multiplexer.lookup, Table.contains] using free, rfl⟩

theorem warrants_packet (out : Outlet σ) (s : Station σ) (raw : Bytes) (dialed : Option SocketId) :
    (MuxEvent.act (.packet raw dialed)).Warrants s ((MuxEvent.act (.packet raw dialed)).change out s) := by
  cases read : Packet.decode raw with
  | error fault =>
      rw [MuxEvent.change, read]
      trivial
  | ok p =>
      obtain ⟨id, kind, payload⟩ := p
      cases kind with
      | disconnect =>
          rw [MuxEvent.change, read]
          trivial
      | data =>
          rw [MuxEvent.change, read]
          dsimp only
          split
          · next known => exact Option.isSome_iff_ne_none.mp known
          · next free =>
            rw [Bool.not_eq_true, Option.isSome_eq_false_iff, Option.isNone_iff_eq_none] at free
            split
            · cases dialed with
              | none => trivial
              | some socket => exact ⟨free, rfl⟩
            · next unable => exact ⟨raw, dialed, payload, rfl, read, free, by simpa using unable⟩

theorem warrants_change (out : Outlet σ) (s : Station σ) (e : MuxEvent) :
    e.Warrants s (e.change out s) := by
  cases e with
  | dialEnded id payload dialed =>
      cases dialed with
      | none => trivial
      | some socket =>
          simp only [MuxEvent.change, Option.elim]
          split
          · rfl
          · next free => exact ⟨by simpa using free, rfl⟩
  | send | role => trivial
  | teardown => rfl
  | act a =>
      cases a with
      | attach socket drawn =>
          rw [MuxEvent.change]
          cases given : (s.attach socket drawn).1 with
          | none => trivial
          | some r =>
              obtain ⟨free, rfl⟩ := lookup_of_attach given
              exact ⟨free, rfl⟩
      | packet raw dialed => exact warrants_packet out s raw dialed
      | remove | failed => trivial
      | read | ended =>
          rw [MuxEvent.change]
          split <;> trivial

theorem life_append (out : Outlet σ) (s : Station σ) (before after : List MuxEvent) :
    s.life out (before ++ after) = (s.life out before).life out after :=
  List.foldl_append

theorem life_concat (out : Outlet σ) (s : Station σ) (before : List MuxEvent) (e : MuxEvent) :
    s.life out (before ++ [e]) = (s.life out before).happen out e :=
  life_append out s before [e]

end Station
end StreamTunnel
