import Mathlib.Data.List.Induction
import StreamTunnel.Proofs.Mux.Handles

namespace StreamTunnel

/-- A packet that was sent, and the stream for which it was. What a caller sends is for none, and so is the
answer to data that find no stream. -/
structure Saying where
  stream? : Option StreamRef
  packet : Packet
deriving DecidableEq, Repr

def MuxEvent.isLocal : MuxEvent → Bool
  | act (.read ..) | act (.ended _) | act (.failed _) => true
  | _ => false

namespace Station

variable {σ β : Type} {out : Outlet σ}

def partingWords (s : Station σ) (id : StreamId) : List Saying :=
  match s.mux.lookup id with
  | none => []
  | some r => (farewell id s.mux).map (Saying.mk (some r))

/-- What an event makes a multiplexer say. Writing may fail late: the farewell is for the stream that has the
id by then. -/
def speech (s : Station σ) : MuxEvent → List Saying
  | .act (.read r piece) =>
      if s.mux.isOpen r then
        if piece.isEmpty then s.partingWords r.id
        else (Packet.chunked r.id piece s.mux.settings.chunkSize).map (Saying.mk (some r))
      else []
  | .act (.ended r) => if s.mux.isOpen r then s.partingWords r.id else []
  | .act (.failed r) => s.partingWords r.id
  | .act (.packet raw dialed) =>
      match Packet.decode raw with
      | .ok ⟨id, .data, _⟩ =>
          if (s.mux.lookup id).isSome || (s.mux.canDial && dialed.isSome) then []
          else [⟨none, .disconnect id⟩]
      | _ => []
  | .dialEnded id _ dialed => if dialed.isSome then [] else [⟨none, .disconnect id⟩]
  | .send id payload kind => (framed id payload kind s.mux).map (Saying.mk none)
  | _ => []

def readFrom (r : StreamRef) (s : Station σ) : MuxEvent → List Bytes
  | .act (.read r' piece) => if r' = r ∧ s.mux.isOpen r ∧ !piece.isEmpty then [piece] else []
  | _ => []

def parting (out : Outlet σ) (r : StreamRef) (s : Station σ) (e : MuxEvent) : List MuxEvent :=
  if s.mux.isOpen r && !(s.happen out e).mux.isOpen r then [e] else []

def gather (out : Outlet σ) (f : Station σ → MuxEvent → List β) : Station σ → List MuxEvent → List β
  | _, [] => []
  | s, e :: rest => f s e ++ gather out f (s.happen out e) rest

def saidFor (r : StreamRef) (sayings : List Saying) : List Packet :=
  (sayings.filter (·.stream? = some r)).map Saying.packet

/-! ## What is said goes out -/

structure Spoke (s s' : Station (List Bytes)) (sayings : List Saying) : Prop where
  outlet_eq : s'.outlet = s.outlet ++ sayings.map (·.packet.encode)
  settings_eq : s'.mux.settings = s.mux.settings

section

variable {s s' : Station (List Bytes)} {r : StreamRef} {id : StreamId}

theorem Spoke.silent (outlet : s'.outlet = s.outlet) (settings : s'.mux.settings = s.mux.settings) :
    Spoke s s' [] :=
  ⟨outlet.trans (List.append_nil _).symm, settings⟩

theorem Turn.spoke {streams : StreamId → Option StreamRef} {packets : List Packet}
    {asked : List SocketAction} (turn : Turn s s' streams packets asked) (speaker? : Option StreamRef) :
    Spoke s s' (packets.map (Saying.mk speaker?)) := by
  refine ⟨?_, turn.settings_eq⟩
  rw [turn.outlet_eq, List.map_map]
  rfl

theorem spoke_closeFromLocal (id : StreamId) (s : Station (List Bytes)) :
    Spoke s (s.closeFromLocal .queue id) (s.partingWords id) := by
  rw [partingWords]
  cases found : s.mux.lookup id with
  | none => exact (closeFromLocal_turn_of_none found).spoke none
  | some r => exact (closeFromLocal_turn_of_some found).spoke (some r)

theorem spoke_readEnded (r : StreamRef) (s : Station (List Bytes)) :
    Spoke s (s.readEnded .queue r) (if s.mux.isOpen r then s.partingWords r.id else []) := by
  rw [readEnded]
  split
  · exact spoke_closeFromLocal r.id s
  · exact .silent rfl rfl

theorem spoke_step_read (r : StreamRef) (piece : Bytes) (s : Station (List Bytes)) :
    Spoke s (s.step .queue (.read r piece)) (s.speech (.act (.read r piece))) := by
  rw [step, speech]
  cases piece.isEmpty with
  | true => exact spoke_readEnded r s
  | false =>
      cases isOpen : s.mux.isOpen r with
      | false =>
          simp only [read, isOpen, Bool.false_eq_true, if_false]
          exact .silent rfl rfl
      | true => exact (read_turn (Multiplexer.isOpen_iff.mp isOpen)).spoke (some r)

theorem spoke_packet (raw : Bytes) (dialed : Option SocketId) (s : Station (List Bytes)) :
    Spoke s (s.packet .queue raw dialed) (s.speech (.act (.packet raw dialed))) := by
  rw [speech]
  cases read : Packet.decode raw with
  | error fault =>
      rw [packet_turn_of_error read]
      exact .silent rfl rfl
  | ok p =>
      obtain ⟨id, kind, payload⟩ := p
      cases kind with
      | disconnect =>
          cases found : s.mux.lookup id with
          | none => exact (packet_turn_told_of_none read found).spoke none
          | some r => exact (packet_turn_told read found).spoke none
      | data =>
          dsimp only
          cases found : s.mux.lookup id with
          | some r => exact (packet_turn_written read found).spoke none
          | none =>
              cases able : s.mux.canDial with
              | false => exact (packet_turn_refused read found (.inl able)).spoke none
              | true =>
                  cases dialed with
                  | none => exact (packet_turn_refused read found (.inr rfl)).spoke none
                  | some socket => exact (packet_turn_adopted socket read found able).spoke none

theorem spoke_dialEnded (id : StreamId) (payload : Bytes) (dialed : Option SocketId)
    (s : Station (List Bytes)) :
    Spoke s (s.dialEnded .queue id payload dialed) (s.speech (.dialEnded id payload dialed)) := by
  cases dialed with
  | none => exact ⟨rfl, rfl⟩
  | some socket =>
      rw [dialEnded]
      cases s.mux.entries.get? id <;> exact .silent rfl rfl

theorem spoke_send (id : StreamId) (payload : Bytes) (kind : PacketKind) (s : Station (List Bytes)) :
    Spoke s (s.sendFramed .queue id payload kind).2 (s.speech (.send id payload kind)) := by
  rw [sendFramed, offerAll_queue, speech]
  refine ⟨?_, rfl⟩
  rw [List.map_map]
  rfl

theorem spoke_happen (s : Station (List Bytes)) (e : MuxEvent) :
    Spoke s (s.happen .queue e) (s.speech e) := by
  cases e with
  | dialEnded id payload dialed => exact spoke_dialEnded id payload dialed s
  | send id payload kind => exact spoke_send id payload kind s
  | teardown | role => exact .silent rfl rfl
  | act a =>
      cases a with
      | read r piece => exact spoke_step_read r piece s
      | ended r => exact spoke_readEnded r s
      | failed r => exact spoke_closeFromLocal r.id s
      | packet raw dialed => exact spoke_packet raw dialed s
      | remove id =>
          cases found : s.mux.lookup id with
          | none => exact (remove_turn_of_none found).spoke none
          | some r => exact (remove_turn_of_some found).spoke none
      | attach socket drawn =>
          cases given : (s.attach socket drawn).1 with
          | none =>
              have same : s.happen .queue (.act (.attach socket drawn)) = s := attach_none given
              rw [same]
              exact .silent rfl rfl
          | some r => exact (attach_turn given).2.2.spoke none

end

/-! ## What is said for one stream -/

section

variable {s : Station (List Bytes)} {r : StreamRef} {id : StreamId} {e : MuxEvent} {out : Outlet (List Bytes)}

theorem parting_of_not_isOpen (gone : s.mux.isOpen r = false) (out : Outlet (List Bytes)) (e : MuxEvent) :
    parting out r s e = [] := by
  rw [parting, gone, Bool.false_and, if_neg Bool.false_ne_true]

theorem readFrom_of_not_isOpen (gone : s.mux.isOpen r = false) (e : MuxEvent) : s.readFrom r e = [] := by
  unfold readFrom
  split
  · exact if_neg (by simp [gone])
  · rfl

theorem isOpen_happen (isOpen : s.mux.isOpen r = true) (out : Outlet (List Bytes)) (e : MuxEvent) :
    (s.happen out e).mux.isOpen r = true ↔ e.change out s ≠ .remove r.id ∧ e.change out s ≠ .clear := by
  have free := free_of_change out s e
  have has : s.roll.Has r := isOpen_iff_has.mp isOpen
  rw [isOpen_iff_has, roll_happen, Roll.has_change]
  generalize e.change out s = c at free
  cases c with
  | nothing | find | miss | spare | clear => simp [has]
  | remove id => simp [has, eq_comm]
  | enter r' origin =>
      have other : r.id ≠ r'.id := by
        intro same
        have there := free r' origin rfl
        rw [← same, has] at there
        cases there
      simp [has, other]

theorem saidFor_map (packets : List Packet) (speaker? : Option StreamRef) :
    saidFor r (packets.map (Saying.mk speaker?)) = if speaker? = some r then packets else [] := by
  rw [saidFor, List.filter_map, List.map_map]
  split
  · next same =>
    subst same
    simp [Function.comp_def]
  · next other => simp [Function.comp_def, other]

theorem saidFor_partingWords (r : StreamRef) (s : Station (List Bytes)) (id : StreamId) :
    saidFor r (s.partingWords id) = if s.mux.isOpen r ∧ r.id = id then farewell id s.mux else [] := by
  have named : s.mux.lookup id = some r ↔ s.mux.isOpen r ∧ r.id = id := by
    rw [Multiplexer.isOpen_iff]
    constructor
    · intro found
      obtain rfl := Multiplexer.id_of_lookup found
      exact ⟨found, rfl⟩
    · rintro ⟨found, rfl⟩
      exact found
  simp only [← named]
  rw [partingWords]
  cases s.mux.lookup id with
  | none => rfl
  | some r' => exact saidFor_map _ _

theorem parting_of_remove (removes : e.change .queue s = .remove id) :
    parting .queue r s e = if s.mux.isOpen r ∧ r.id = id then [e] else [] := by
  rw [parting]
  cases isOpen : s.mux.isOpen r with
  | false => simp
  | true =>
      have goes : (s.happen .queue e).mux.isOpen r = false ↔ r.id = id := by
        rw [← Bool.not_eq_true, isOpen_happen isOpen, removes]
        simp [eq_comm]
      simp [goes]

theorem parting_of_nothing (still : e.change .queue s = .nothing) : parting .queue r s e = [] := by
  rw [parting]
  cases isOpen : s.mux.isOpen r with
  | false => simp
  | true =>
      have stays := isOpen_happen isOpen .queue e
      rw [still] at stays
      simp [stays]

theorem flatMap_parting_of_not_isLocal (other : e.isLocal = false) (words : List Packet) :
    (parting out r s e).flatMap (fun e => if e.isLocal then words else []) = [] := by
  rw [parting]
  split
  · simp [other]
  · rfl

theorem saidFor_closed (removes : e.change .queue s = .remove id) (here : e.isLocal = true) :
    saidFor r (s.partingWords id) =
      (parting .queue r s e).flatMap (fun e => if e.isLocal then farewell r.id s.mux else []) := by
  rw [saidFor_partingWords, parting_of_remove removes]
  split
  · next mine => simp [here, mine.2]
  · rfl

theorem change_read_queue (r' : StreamRef) (piece : Bytes) (s : Station (List Bytes)) :
    (MuxEvent.act (.read r' piece)).change .queue s =
      if s.mux.isOpen r' && piece.isEmpty then .remove r'.id else .nothing := by
  have taken : (s.sendFramed .queue r'.id piece .data).1.isNone = false := by
    rw [sendFramed, offerAll_queue]
    rfl
  rw [MuxEvent.change, taken, Bool.or_false]

theorem saidFor_speech (r : StreamRef) (s : Station (List Bytes)) (e : MuxEvent) :
    saidFor r (s.speech e) =
      (s.readFrom r e).flatMap (Packet.chunked r.id · s.mux.settings.chunkSize) ++
        (parting .queue r s e).flatMap (fun e => if e.isLocal then farewell r.id s.mux else []) := by
  -- The events of the other kinds speak for no stream.
  have others (read : s.readFrom r e = []) (other : e.isLocal = false) (none : saidFor r (s.speech e) = []) :
      saidFor r (s.speech e) =
        (s.readFrom r e).flatMap (Packet.chunked r.id · s.mux.settings.chunkSize) ++
          (parting .queue r s e).flatMap (fun e => if e.isLocal then farewell r.id s.mux else []) := by
    rw [read, none, flatMap_parting_of_not_isLocal other]
    rfl
  cases e with
  | dialEnded id payload dialed =>
      refine others rfl rfl ?_
      rw [speech]
      split <;> rfl
  | send id payload kind => exact others rfl rfl ((saidFor_map _ none).trans (if_neg (Option.some_ne_none r).symm))
  | teardown | role => exact others rfl rfl rfl
  | act a =>
      cases a with
      | attach | remove => exact others rfl rfl rfl
      | packet raw dialed =>
          refine others rfl rfl ?_
          rw [speech]
          split
          · split <;> rfl
          · rfl
      | failed r' => exact saidFor_closed rfl rfl
      | ended r' =>
          rw [speech]
          cases isOpen : s.mux.isOpen r' with
          | false =>
              rw [parting_of_nothing (by simp [MuxEvent.change, isOpen])]
              rfl
          | true => exact saidFor_closed (by simp [MuxEvent.change, isOpen]) rfl
      | read r' piece =>
          have change := change_read_queue r' piece s
          rw [speech, readFrom]
          cases isOpen : s.mux.isOpen r' with
          | false =>
              rw [isOpen] at change
              rw [parting_of_nothing change]
              by_cases same : r' = r
              · subst same
                simp [saidFor, isOpen]
              · simp [saidFor, same]
          | true =>
              rw [isOpen, Bool.true_and] at change
              cases empty : piece.isEmpty with
              | true =>
                  rw [empty] at change
                  simpa using saidFor_closed change rfl
              | false =>
                  rw [empty] at change
                  rw [parting_of_nothing change]
                  by_cases same : r' = r
                  · subst same
                    simp [saidFor_map, isOpen]
                  · simp [saidFor_map, same]

end

/-! ## A whole life -/

section

variable {first : Station (List Bytes)} {r : StreamRef} {events before after : List MuxEvent}

theorem gather_append (out : Outlet σ) (f : Station σ → MuxEvent → List β) (s : Station σ)
    (before after : List MuxEvent) :
    gather out f s (before ++ after) = gather out f s before ++ gather out f (s.life out before) after := by
  induction before generalizing s with
  | nil => rfl
  | cons e rest ih =>
      rw [List.cons_append, gather, gather, ih, List.append_assoc]
      rfl

theorem gather_concat (out : Outlet σ) (f : Station σ → MuxEvent → List β) (s : Station σ)
    (events : List MuxEvent) (e : MuxEvent) :
    gather out f s (events ++ [e]) = gather out f s events ++ f (s.life out events) e := by
  rw [gather_append, gather, gather, List.append_nil]

theorem spoke_life (first : Station (List Bytes)) (events : List MuxEvent) :
    Spoke first (first.life .queue events) (gather .queue speech first events) := by
  induction events using List.reverseRecOn with
  | nil => exact .silent rfl rfl
  | append_singleton events e ih =>
      have last := spoke_happen (first.life .queue events) e
      rw [life_concat, gather_concat]
      refine ⟨?_, last.settings_eq.trans ih.settings_eq⟩
      rw [last.outlet_eq, ih.outlet_eq, List.map_append, List.append_assoc]

theorem saidFor_append (r : StreamRef) (sayings more : List Saying) :
    saidFor r (sayings ++ more) = saidFor r sayings ++ saidFor r more := by
  rw [saidFor, List.filter_append, List.map_append]
  rfl

/-- What was said for a stream in a life: what was read from it, and a farewell for the event that took it out, if
that was from this side. It was taken out once at most, and its socket is released then. -/
structure Told (r : StreamRef) (first : Station (List Bytes)) (events : List MuxEvent) : Prop where
  said : saidFor r (gather .queue speech first events) =
    (gather .queue (readFrom r) first events).flatMap (Packet.chunked r.id · first.mux.settings.chunkSize) ++
      (gather .queue (parting .queue r) first events).flatMap
        (fun e => if e.isLocal then farewell r.id first.mux else [])
  once : (gather .queue (parting .queue r) first events).length ≤ 1
  left : gather .queue (parting .queue r) first events ≠ [] →
    r.socket ∈ (first.life .queue events).roll.released

theorem Booked.not_isOpen (booked : Booked .queue first events)
    (released : r.socket ∈ (first.life .queue events).roll.released) :
    (first.life .queue events).mux.isOpen r = false := by
  rw [← Bool.not_eq_true, isOpen_iff_has]
  exact fun has => booked.sound.live r has released

theorem released_of_parting {s : Station σ} {e : MuxEvent} (parts : parting out r s e ≠ []) :
    r.socket ∈ (s.happen out e).roll.released := by
  rw [parting] at parts
  split at parts
  · next goes =>
    rw [Bool.and_eq_true, Bool.not_eq_true', ← Bool.not_eq_true] at goes
    have knows : (s.happen out e).roll.Knows r := knows_happen (.inl (isOpen_iff_has.mp goes.1)) e
    exact knows.resolve_left fun still => goes.2 (isOpen_iff_has.mpr still)
  · exact absurd rfl parts

theorem length_parting_le (out : Outlet σ) (r : StreamRef) (s : Station σ) (e : MuxEvent) :
    (parting out r s e).length ≤ 1 := by
  rw [parting]
  split <;> simp

theorem Told.concat (told : Told r first events) (booked : Booked .queue first events) (e : MuxEvent) :
    Told r first (events ++ [e]) := by
  let s := first.life .queue events
  have settings := (spoke_life first events).settings_eq
  have spoken := saidFor_speech r s e
  have words : farewell r.id s.mux = farewell r.id first.mux := by rw [farewell, farewell, settings]
  rw [settings, words] at spoken
  have saidNow : saidFor r (gather .queue speech first (events ++ [e])) =
      saidFor r (gather .queue speech first events) ++ saidFor r (s.speech e) := by
    rw [gather_concat, saidFor_append]
  by_cases there : gather .queue (parting .queue r) first events = []
  · -- the stream was not taken out before
    refine ⟨?_, ?_, ?_⟩
    · rw [saidNow, told.said, spoken, gather_concat, gather_concat, there]
      simp [s]
    · rw [gather_concat, there]
      exact length_parting_le _ _ _ _
    · rw [gather_concat, there, List.nil_append, life_concat]
      exact released_of_parting
  · have released := told.left there
    have gone := booked.not_isOpen released
    have silent := parting_of_not_isOpen gone .queue e
    have unread := readFrom_of_not_isOpen gone e
    refine ⟨?_, ?_, ?_⟩
    · rw [saidNow, told.said, spoken, gather_concat, gather_concat, silent, unread]
      simp
    · rw [gather_concat, silent, List.append_nil]
      exact told.once
    · intro _
      rw [life_concat]
      exact released_subset_happen e released

theorem told_life (settings : MuxSettings) (isHost : Bool) (r : StreamRef)
    (new : (MuxEvent.socketsOf events).Nodup) :
    Told r { mux := .start settings isHost, outlet := [] } events := by
  induction events using List.reverseRecOn with
  | nil => exact ⟨rfl, Nat.zero_le _, fun parts => absurd rfl parts⟩
  | append_singleton events e ih =>
      rw [socketsOf_concat] at new
      have before := (List.nodup_append.mp new).1
      exact (ih before).concat (booked_life .queue settings isHost [] before) e

theorem exists_parting {s : Station σ} (there : s.mux.isOpen r = true)
    (gone : (s.life out after).mux.isOpen r = false) : gather out (parting out r) s after ≠ [] := by
  induction after generalizing s with
  | nil => exact absurd gone (by rw [life, List.foldl_nil, there]; exact Bool.noConfusion)
  | cons e rest ih =>
      rw [gather]
      cases still : (s.happen out e).mux.isOpen r with
      | true => exact List.append_ne_nil_of_right_ne_nil _ (ih still gone)
      | false =>
          have parts : parting out r s e = [e] := by simp [parting, there, still]
          rw [parts]
          exact List.cons_ne_nil _ _

theorem Told.silent (told : Told r first before) (parted : gather .queue (parting .queue r) first before ≠ [])
    (booked : ∀ mid, mid <+: after → Booked .queue first (before ++ mid)) :
    saidFor r (gather .queue speech (first.life .queue before) after) = [] := by
  induction after using List.reverseRecOn with
  | nil => rfl
  | append_singleton after e ih =>
      have earlier := booked after (List.prefix_append _ _)
      have released : r.socket ∈ (first.life .queue (before ++ after)).roll.released := by
        rw [life_append]
        exact released_subset_life after (told.left parted)
      have gone := earlier.not_isOpen released
      rw [gather_concat, saidFor_append, ← life_append, saidFor_speech, parting_of_not_isOpen gone,
        readFrom_of_not_isOpen gone]
      rw [ih fun mid start => booked mid (start.trans (List.prefix_append _ _))]
      rfl

/-- However a life goes in which no socket is brought twice: what is sent is what was said, in this order. For a
stream that is what was read from it, in chunks, and after that a single farewell if it went from this side and the
peer is to be told; it goes once at most, and after that nothing is said for it. -/
theorem one_farewell (settings : MuxSettings) (isHost : Bool) (events : List MuxEvent)
    (new : (MuxEvent.socketsOf events).Nodup) :
    let first : Station (List Bytes) := { mux := .start settings isHost, outlet := [] }
    let t := first.life .queue events
    let sayings := gather .queue speech first events
    t.outlet = sayings.map (·.packet.encode) ∧
    ∀ r,
      saidFor r sayings =
        (gather .queue (readFrom r) first events).flatMap (Packet.chunked r.id · settings.chunkSize) ++
          (gather .queue (parting .queue r) first events).flatMap
            (fun e => if e.isLocal && settings.notifyPeer then [.disconnect r.id] else []) ∧
      (gather .queue (parting .queue r) first events).length ≤ 1 ∧
      ∀ before after, events = before ++ after →
        ((first.life .queue before).mux.isOpen r = true →
          (t.mux.isOpen r = false ↔ gather .queue (parting .queue r) first events ≠ [])) ∧
        (gather .queue (parting .queue r) first before ≠ [] →
          saidFor r (gather .queue speech (first.life .queue before) after) = []) := by
  intro first t sayings
  refine ⟨(spoke_life first events).outlet_eq, fun r => ?_⟩
  have told := told_life settings isHost r new
  have words (e : MuxEvent) :
      (if e.isLocal then farewell r.id (Multiplexer.start settings isHost) else []) =
        if e.isLocal && settings.notifyPeer then [Packet.disconnect r.id] else [] := by
    cases e.isLocal <;> rfl
  have said := told.said
  simp only [words] at said
  refine ⟨said, told.once, ?_⟩
  rintro before after rfl
  have booked (mid : List MuxEvent) (start : mid <+: after) : Booked .queue first (before ++ mid) := by
    refine booked_life .queue settings isHost [] (new.sublist ?_)
    exact ((List.prefix_append_right_inj before).mpr start).sublist.filterMap _
  constructor
  · intro there
    constructor
    · intro gone
      rw [gather_append]
      simp only [t, life_append] at gone
      exact List.append_ne_nil_of_right_ne_nil _ (exists_parting there gone)
    · intro parted
      exact (booked after List.prefix_rfl).not_isOpen (told.left parted)
  · intro parted
    have early := told_life settings isHost r (new.sublist ((List.prefix_append before after).sublist.filterMap _))
    exact early.silent parted booked

theorem one_farewell_of_two_lives :
    let id := StreamId.ofNat 5
    let r : StreamRef := ⟨id, .service 1⟩
    let r' : StreamRef := ⟨id, .service 2⟩
    let events : List MuxEvent :=
      [.act (.packet (Packet.data id [7]).encode (some r.socket)), .act (.read r [1, 2]), .act (.ended r),
        .act (.failed r), .act (.packet (Packet.data id [8]).encode (some r'.socket)),
        .act (.packet (Packet.disconnect id).encode none)]
    let first : Station (List Bytes) := { mux := .start { targetPort := some 80 } true, outlet := [] }
    let sayings := gather .queue speech first events
    (MuxEvent.socketsOf events).Nodup ∧
      (first.life .queue events).outlet = [(Packet.data id [1, 2]).encode, (Packet.disconnect id).encode] ∧
      saidFor r sayings = [.data id [1, 2], .disconnect id] ∧ saidFor r' sayings = [] := by
  intro id r r' events first sayings
  have new : (MuxEvent.socketsOf events).Nodup := by decide
  obtain ⟨sent, each⟩ := one_farewell { targetPort := some 80 } true events new
  have all : sayings = [⟨some r, .data id [1, 2]⟩, ⟨some r, .disconnect id⟩] := by decide +kernel
  refine ⟨new, sent.trans (congrArg (List.map (·.packet.encode)) all), (each r).1.trans ?_, (each r').1.trans ?_⟩
  · decide +kernel
  · decide +kernel

end

end Station
end StreamTunnel
