import StreamTunnel.Endpoint.Exchange
import StreamTunnel.Proofs.Frame.Reading

namespace StreamTunnel

namespace Frame.Decoded

def ending? : Decoded → Option CloseReason
  | .frame (.close _) => some .byPeer
  | .error e => some (ChannelError.ofFrame e).toReason
  | _ => none

def message? : Decoded → Option Bytes
  | .frame (.message data) => some data
  | _ => none

def answer? : Decoded → Option Frame
  | .frame (.ping t) => some (.pong t)
  | _ => none

end Frame.Decoded

namespace Endpoint
open StreamTunnel.Frame StreamTunnel.Frame.Decoded

variable {n m : Nat} {s s' : SessionId} {c : Connection} {heard : List ChannelEvent}
  {e e' e'' : Endpoint} {decoded : List Decoded} {sent : Bytes} {waiting : List Frame}

def eventsOf (s : SessionId) (e : Endpoint) : List ChannelEvent :=
  e.events.filter (·.session = s)

/-! ## The parts of a step -/

@[simp] theorem eventsOf_emit (ev : ChannelEvent) :
    (e.emit ev).eventsOf s = e.eventsOf s ++ if ev.session = s then [ev] else [] := by
  by_cases mine : ev.session = s <;> simp [eventsOf, emit, mine]

@[simp] theorem slots_emit (ev : ChannelEvent) : (e.emit ev).slots = e.slots := rfl

@[simp] theorem connections_emit (ev : ChannelEvent) : (e.emit ev).connections = e.connections := rfl

@[simp] theorem eventsOf_modifyConnection (f : Connection → Connection) :
    (e.modifyConnection n f).eventsOf s = e.eventsOf s := rfl

@[simp] theorem slots_modifyConnection (f : Connection → Connection) :
    (e.modifyConnection n f).slots = e.slots := rfl

theorem connections_modifyConnection (f : Connection → Connection) :
    (e.modifyConnection n f).connections[m]? =
      if n = m then e.connections[m]?.map f else e.connections[m]? := by
  simp only [modifyConnection, List.getElem?_modify]
  split <;> simp

@[simp] theorem eventsOf_modifySlot (f : Slot → Slot) :
    (e.modifySlot s' f).eventsOf s = e.eventsOf s := rfl

@[simp] theorem connections_modifySlot (f : Slot → Slot) :
    (e.modifySlot s f).connections = e.connections := rfl

@[simp] theorem connections_finish (reason : CloseReason) :
    (e.finish s reason).connections = e.connections := by
  rw [finish]
  split <;> rfl

theorem slots_finish (reason : CloseReason) :
    (e.finish s' reason).slots.get? s = if s = s' then none else e.slots.get? s := by
  rw [finish]
  split
  · exact Table.get?_erase ..
  · next gone =>
    split
    · next same =>
      subst same
      simpa [Table.contains] using gone
    · rfl

theorem eventsOf_finish (reason : CloseReason) :
    (e.finish s' reason).eventsOf s =
      e.eventsOf s ++ if s' = s ∧ e.slots.contains s then [.closed s reason] else [] := by
  rw [finish]
  by_cases same : s' = s
  · subst same
    split
    · next there => simp [there, ChannelEvent.session, eventsOf, emit]
    · next gone => simp [gone]
  · split <;> simp [same, ChannelEvent.session, eventsOf, emit]

/-! ## What the rest of the endpoint does -/

structure Apart (n : Nat) (s : SessionId) (e e' : Endpoint) : Prop where
  connection : e'.connections[n]? = e.connections[n]?
  slot : e'.slots.get? s = e.slots.get? s
  events : e'.eventsOf s = e.eventsOf s
  stages : ∀ (m : Nat) (c : Connection), e'.connections[m]? = some c → c.stage = .open s →
    ∃ c₀, e.connections[m]? = some c₀ ∧ c₀.stage = .open s

theorem Apart.refl (n : Nat) (s : SessionId) (e : Endpoint) : Apart n s e e :=
  ⟨rfl, rfl, rfl, fun _ c there stage => ⟨c, there, stage⟩⟩

theorem Apart.trans (first : Apart n s e e') (second : Apart n s e' e'') : Apart n s e e'' := by
  constructor
  · rw [second.connection, first.connection]
  · rw [second.slot, first.slot]
  · rw [second.events, first.events]
  · intro m c there stage
    obtain ⟨c₁, there₁, stage₁⟩ := second.stages m c there stage
    exact first.stages m c₁ there₁ stage₁

theorem apart_modifyConnection {f : Connection → Connection} (other : m ≠ n)
    (keeps : ∀ c, (f c).stage = .open s → c.stage = .open s) :
    Apart n s e (e.modifyConnection m f) := by
  constructor
  · rw [connections_modifyConnection, if_neg other]
  · rfl
  · rfl
  · intro k c there stage
    rw [connections_modifyConnection] at there
    split at there
    · obtain ⟨c₀, there₀, rfl⟩ := Option.map_eq_some_iff.mp there
      exact ⟨c₀, there₀, keeps c₀ stage⟩
    · exact ⟨c, there, stage⟩

theorem apart_modifySlot {f : Slot → Slot} (other : s' ≠ s) : Apart n s e (e.modifySlot s' f) := by
  constructor
  · rfl
  · simp only [modifySlot, Table.get?_modify, if_neg (Ne.symm other)]
  · rfl
  · exact fun _ c there stage => ⟨c, there, stage⟩

theorem apart_fail {err : ChannelError} (other : m ≠ n) (other' : s' ≠ s) :
    Apart n s e (e.fail m s' err) := by
  have finished : Apart n s e (e.finish s' err.toReason) := by
    constructor
    · rw [connections_finish]
    · rw [slots_finish, if_neg (Ne.symm other')]
    · simp [eventsOf_finish, other']
    · rw [connections_finish]
      exact fun _ c there stage => ⟨c, there, stage⟩
  exact finished.trans (apart_modifyConnection other (by simp))

theorem apart_writeFrame {f : Frame} (other : m ≠ n) (other' : s' ≠ s) :
    Apart n s e (e.writeFrame m s' f).2 := by
  rw [writeFrame]
  split
  · exact apart_modifyConnection other (by simp)
  · exact apart_fail other other'

theorem apart_writeFrames (other : m ≠ n) (other' : s' ≠ s) (frames : List Frame) :
    Apart n s e (e.writeFrames m s' frames).2 := by
  induction frames generalizing e with
  | nil => exact .refl n s e
  | cons f rest ih =>
      have first := apart_writeFrame (e := e) (f := f) other other'
      rw [writeFrames]
      split
      · next wrote => rw [wrote] at first; exact first.trans ih
      · next failed => rw [failed] at first; exact first

theorem apart_writeQueue {frames : List Frame} (other : m ≠ n) (other' : s' ≠ s) :
    Apart n s e (e.writeQueue m s' frames) := by
  induction frames generalizing e with
  | nil => exact .refl n s e
  | cons f rest ih =>
      have taken := apart_modifySlot (n := n) (e := e) (f := Slot.taken f rest) other'
      have first := taken.trans (apart_writeFrame (f := f) other other')
      rw [writeQueue, writeNext]
      split
      · next wrote => rw [wrote] at first; exact first.trans ih
      · next failed => rw [failed] at first; exact first

theorem apart_flush (other : m ≠ n)
    (elsewhere : ∀ c, e.connections[m]? = some c → c.stage ≠ .open s) :
    Apart n s e (e.flush m) := by
  rw [flush]
  split
  · next c there =>
    split
    · next s' stage =>
      have other' : s' ≠ s := by
        rintro rfl
        exact elsewhere c there stage
      have cleared : Apart n s e (e.modifyConnection m (fun c => { c with control := [] })) :=
        apart_modifyConnection other (by simp)
      have answered := cleared.trans (apart_writeFrames other other' c.control)
      dsimp only
      split
      · next failed => rw [failed] at answered; exact answered
      · next wrote => rw [wrote] at answered; exact answered.trans (apart_writeQueue other other')
    · exact .refl n s e
  · exact .refl n s e

/-! ## The session open and over -/

def Alone (n : Nat) (s : SessionId) (e : Endpoint) : Prop :=
  ∀ (m : Nat) (c : Connection), e.connections[m]? = some c → c.stage = .open s → m = n

structure Held (n : Nat) (s : SessionId) (c : Connection) (waiting : List Frame)
    (heard : List ChannelEvent) (e : Endpoint) : Prop where
  connection : e.connections[n]? = some c
  slot : ∃ slot, e.slots.get? s = some slot ∧ slot.queue = waiting
  events : e.eventsOf s = heard
  alone : Alone n s e

structure Open (n : Nat) (s : SessionId) (c : Connection) (waiting : List Frame)
    (heard : List ChannelEvent) (e : Endpoint) : Prop extends Held n s c waiting heard e where
  stage : c.stage = .open s

structure Over (n : Nat) (s : SessionId) (sent : Bytes) (heard : List ChannelEvent)
    (e : Endpoint) : Prop where
  connection : ∃ c, e.connections[n]? = some c ∧ c.stage = .ended ∧ c.pipe.toFar = sent
  slot : e.slots.get? s = none
  events : e.eventsOf s = heard
  alone : Alone n s e

theorem Held.contains (h : Held n s c waiting heard e) : e.slots.contains s = true := by
  obtain ⟨slot, there, -⟩ := h.slot
  rw [Table.contains, there]
  rfl

theorem Alone.apart (h : Alone n s e) (apart : Apart n s e e') : Alone n s e' := by
  intro m c there stage
  obtain ⟨c₀, there₀, stage₀⟩ := apart.stages m c there stage
  exact h m c₀ there₀ stage₀

theorem Held.apart (h : Held n s c waiting heard e) (apart : Apart n s e e') :
    Held n s c waiting heard e' where
  connection := apart.connection.trans h.connection
  slot := by rw [apart.slot]; exact h.slot
  events := apart.events.trans h.events
  alone := h.alone.apart apart

theorem Open.apart (h : Open n s c waiting heard e) (apart : Apart n s e e') :
    Open n s c waiting heard e' :=
  ⟨h.toHeld.apart apart, h.stage⟩

theorem Over.apart (h : Over n s sent heard e) (apart : Apart n s e e') : Over n s sent heard e' where
  connection := by rw [apart.connection]; exact h.connection
  slot := apart.slot.trans h.slot
  events := apart.events.trans h.events
  alone := h.alone.apart apart

theorem Alone.modifyConnection (h : Alone n s e) (f : Connection → Connection) :
    Alone n s (e.modifyConnection n f) := by
  intro m c there stage
  rw [connections_modifyConnection] at there
  split at there
  · next same => exact same.symm
  · exact h m c there stage

theorem Held.modifyConnection (h : Held n s c waiting heard e) (f : Connection → Connection) :
    Held n s (f c) waiting heard (e.modifyConnection n f) where
  connection := by rw [connections_modifyConnection, if_pos rfl, h.connection]; rfl
  slot := h.slot
  events := h.events
  alone := h.alone.modifyConnection f

theorem Open.modifyConnection (h : Open n s c waiting heard e) (f : Connection → Connection)
    (stage : (f c).stage = .open s) : Open n s (f c) waiting heard (e.modifyConnection n f) :=
  ⟨h.toHeld.modifyConnection f, stage⟩

theorem Open.modifySlot (h : Open n s c waiting heard e) (f : Slot → Slot)
    (queue : ∀ slot, (f slot).queue = slot.queue) : Open n s c waiting heard (e.modifySlot s f) where
  connection := h.connection
  stage := h.stage
  slot := by
    obtain ⟨slot, there, empty⟩ := h.slot
    refine ⟨f slot, ?_, by rw [queue, empty]⟩
    simp [Endpoint.modifySlot, Table.get?_modify, there]
  events := h.events
  alone := h.alone

theorem Open.message (h : Open n s c waiting heard e) (data : Bytes) :
    Open n s c waiting (heard ++ [.message s data]) (e.emit (.message s data)) where
  connection := h.connection
  stage := h.stage
  slot := h.slot
  events := by rw [eventsOf_emit, h.events]; simp [ChannelEvent.session]
  alone := h.alone

theorem Held.finish (h : Held n s c waiting heard e) (reason : CloseReason) :
    Over n s c.pipe.toFar (heard ++ [.closed s reason]) ((e.finish s reason).endConnection n) where
  connection := by
    refine ⟨{ c with stage := .ended, pipe := c.pipe.closeNear }, ?_, rfl, rfl⟩
    rw [endConnection, connections_modifyConnection, if_pos rfl, connections_finish, h.connection]
    rfl
  slot := by
    rw [endConnection, slots_modifyConnection, slots_finish, if_pos rfl]
  events := by
    rw [endConnection, eventsOf_modifyConnection, eventsOf_finish, h.events]
    simp [h.contains]
  alone := by
    apply Alone.modifyConnection
    intro m c there stage
    rw [connections_finish] at there
    exact h.alone m c there stage

/-! ## Frames are taken -/

def taken (decoded : List Decoded) : List Decoded :=
  decoded.takeWhile (·.ending?.isNone)

def messagesIn (s : SessionId) (decoded : List Decoded) : List ChannelEvent :=
  ((taken decoded).filterMap message?).map (.message s)

def answersIn (decoded : List Decoded) : List Frame :=
  (taken decoded).filterMap answer?

theorem messagesIn_cons {d : Decoded} (goes : d.ending? = none) :
    messagesIn s (d :: decoded) =
      (d.message?.map (ChannelEvent.message s)).toList ++ messagesIn s decoded := by
  rw [messagesIn, taken, List.takeWhile_cons_of_pos (by simp [goes]), List.filterMap_cons]
  cases d.message? <;> rfl

theorem answersIn_cons {d : Decoded} (goes : d.ending? = none) :
    answersIn (d :: decoded) = d.answer?.toList ++ answersIn decoded := by
  rw [answersIn, taken, List.takeWhile_cons_of_pos (by simp [goes]), List.filterMap_cons]
  cases d.answer? <;> rfl

theorem messagesIn_cons_of_ends {d : Decoded} {reason : CloseReason} (ends : d.ending? = some reason) :
    messagesIn s (d :: decoded) = [] := by
  rw [messagesIn, taken, List.takeWhile_cons_of_neg (by simp [ends])]
  rfl

theorem taken_append_of_goes (goes : decoded.findSome? ending? = none) (later : List Decoded) :
    taken (decoded ++ later) = decoded ++ taken later := by
  rw [taken, List.takeWhile_append_of_pos, taken]
  intro d mem
  rw [List.findSome?_eq_none_iff.mp goes d mem]
  rfl

theorem taken_of_goes (goes : decoded.findSome? ending? = none) : taken decoded = decoded := by
  simpa [taken] using taken_append_of_goes goes []

theorem taken_append_of_ends {reason : CloseReason} (ends : decoded.findSome? ending? = some reason)
    (later : List Decoded) : taken (decoded ++ later) = taken decoded := by
  induction decoded with
  | nil => simp at ends
  | cons d rest ih =>
      rw [List.findSome?_cons] at ends
      simp only [taken, List.cons_append, List.takeWhile_cons]
      cases now : d.ending? with
      | none =>
          rw [now] at ends
          have same := ih ends
          rw [taken, taken] at same
          simp [same]
      | some reason' => rfl

theorem messagesIn_append_of_goes (goes : decoded.findSome? ending? = none) (later : List Decoded) :
    messagesIn s (decoded ++ later) = messagesIn s decoded ++ messagesIn s later := by
  simp only [messagesIn, taken_append_of_goes goes, taken_of_goes goes, List.filterMap_append,
    List.map_append]

theorem answersIn_append_of_goes (goes : decoded.findSome? ending? = none) (later : List Decoded) :
    answersIn (decoded ++ later) = answersIn decoded ++ answersIn later := by
  simp only [answersIn, taken_append_of_goes goes, taken_of_goes goes, List.filterMap_append]

theorem messagesIn_append_of_ends {reason : CloseReason}
    (ends : decoded.findSome? ending? = some reason) (later : List Decoded) :
    messagesIn s (decoded ++ later) = messagesIn s decoded := by
  rw [messagesIn, taken_append_of_ends ends, messagesIn]

theorem Open.takeFrame (h : Open n s c waiting heard e) {f : Frame} (goes : (Decoded.frame f).ending? = none)
    (rest : List Frame) :
    ∃ e', e.takeFrames n s (f :: rest) = e'.takeFrames n s rest ∧
      Open n s { c with control := c.control ++ (Decoded.frame f).answer?.toList } waiting
        (heard ++ ((Decoded.frame f).message?.map (ChannelEvent.message s)).toList) e' := by
  cases f with
  | close reason => cases goes
  | message data => exact ⟨_, rfl, by simpa [answer?, message?] using h.message data⟩
  | ping t =>
      refine ⟨_, rfl, ?_⟩
      have answered := h.modifyConnection (fun c => { c with control := c.control ++ [.pong t] }) h.stage
      simpa [answer?, message?] using answered
  | pong t =>
      refine ⟨_, rfl, ?_⟩
      have timed := h.modifySlot (fun slot => { slot with rtt := some (roundTrip e.now slot.began t) })
        (fun _ => rfl)
      simpa [answer?, message?] using timed
  | hello | helloAck => exact ⟨e, rfl, by simpa [answer?, message?] using h⟩

theorem Open.takeFrames (h : Open n s c waiting heard e) {frames : List Frame}
    (goes : (frames.map Decoded.frame).findSome? ending? = none) :
    ∃ e', e.takeFrames n s frames = (true, e') ∧
      Open n s { c with control := c.control ++ answersIn (frames.map .frame) } waiting
        (heard ++ messagesIn s (frames.map .frame)) e' := by
  induction frames generalizing c heard e with
  | nil => exact ⟨e, rfl, by simpa [answersIn, messagesIn, taken] using h⟩
  | cons f rest ih =>
      rw [List.map_cons, List.findSome?_eq_none_iff, List.forall_mem_cons,
        ← List.findSome?_eq_none_iff] at goes
      obtain ⟨e₁, first, opened⟩ := h.takeFrame goes.1 rest
      obtain ⟨e', later, stays⟩ := ih opened goes.2
      refine ⟨e', first.trans later, ?_⟩
      rw [List.map_cons, answersIn_cons goes.1, messagesIn_cons goes.1]
      simpa using stays

theorem Open.takeFrames_close (h : Open n s c waiting heard e) {frames : List Frame} {reason : CloseReason}
    (ends : (frames.map Decoded.frame).findSome? ending? = some reason) :
    ∃ e', e.takeFrames n s frames = (false, e') ∧
      Over n s c.pipe.toFar (heard ++ messagesIn s (frames.map .frame) ++ [.closed s reason]) e' := by
  induction frames generalizing c heard e with
  | nil => simp at ends
  | cons f rest ih =>
      rw [List.map_cons, List.findSome?_cons] at ends
      cases now : (Decoded.frame f).ending? with
      | none =>
          rw [now] at ends
          obtain ⟨e₁, first, opened⟩ := h.takeFrame now rest
          obtain ⟨e', later, past⟩ := ih opened ends
          refine ⟨e', first.trans later, ?_⟩
          rw [List.map_cons, messagesIn_cons now]
          simpa using past
      | some reason' =>
          obtain rfl : reason' = reason := by simpa [now] using ends
          rw [List.map_cons, messagesIn_cons_of_ends now]
          cases f with
          | close detail =>
              obtain rfl : CloseReason.byPeer = reason' := Option.some.inj now
              exact ⟨_, rfl, by simpa using h.finish .byPeer⟩
          | _ => cases now

/-! ## What has arrived is read -/

def endReason (r : Reader) : CloseReason :=
  if r.buffer.isEmpty then .byPeer else (ChannelError.ofFrame .leftover).toReason

variable {q : Connection} {reason : CloseReason}

theorem Open.readOpen (h : Open n s c waiting heard e)
    (goes : q.reader.exhaust.1.findSome? ending? = none) (more : q.pipe.ending = none) :
    Open n s { c with
        reader := q.reader.exhaust.2, control := c.control ++ answersIn q.reader.exhaust.1 } waiting
      (heard ++ messagesIn s q.reader.exhaust.1) (e.readOpen n s q) := by
  have opened := h.modifyConnection (fun c => { c with reader := q.reader.exhaust.2 }) h.stage
  rcases Reader.drainWith_eq (Reader.weight_lt_drain q.reader) with ⟨frames, drained, decoded⟩ |
    ⟨frames, err, r', rest, drained, decoded⟩
  · rw [decoded] at goes
    obtain ⟨e', took, stays⟩ := opened.takeFrames goes
    simp only [Endpoint.readOpen, Reader.drain, drained, took, more]
    rw [decoded]
    exact stays
  · rw [decoded, List.findSome?_append] at goes
    simp [ending?] at goes

theorem Open.readOpen_of_ends (h : Open n s c waiting heard e)
    (ends : q.reader.exhaust.1.findSome? ending? = some reason) :
    Over n s c.pipe.toFar (heard ++ messagesIn s q.reader.exhaust.1 ++ [.closed s reason]) (e.readOpen n s q) := by
  rcases Reader.drainWith_eq (Reader.weight_lt_drain q.reader) with ⟨frames, drained, decoded⟩ |
    ⟨frames, err, r', rest, drained, decoded⟩
  · have opened := h.modifyConnection (fun c => { c with reader := q.reader.exhaust.2 }) h.stage
    rw [decoded] at ends
    obtain ⟨e', took, past⟩ := opened.takeFrames_close ends
    simp only [Endpoint.readOpen, Reader.drain, drained, took]
    rw [decoded]
    exact past
  · have opened := h.modifyConnection (fun c => { c with reader := r' }) h.stage
    rw [decoded] at ends
    -- a close among the frames before the error ends the session first
    cases closed : (frames.map Decoded.frame).findSome? ending? with
    | some reason' =>
        obtain rfl : reason' = reason := by simpa [List.findSome?_append, closed] using ends
        obtain ⟨e', took, past⟩ := opened.takeFrames_close closed
        simp only [Endpoint.readOpen, Reader.drain, drained, took]
        rw [decoded, messagesIn_append_of_ends closed]
        exact past
    | none =>
        obtain rfl : (ChannelError.ofFrame err).toReason = reason := by
          simpa [List.findSome?_append, closed, List.findSome?_cons, ending?] using ends
        obtain ⟨e', took, stays⟩ := opened.takeFrames closed
        simp only [Endpoint.readOpen, Reader.drain, drained, took]
        rw [decoded, messagesIn_append_of_goes closed, messagesIn_cons_of_ends rfl, List.append_nil]
        exact stays.finish _

theorem Open.readOpen_finished (h : Open n s c waiting heard e)
    (goes : q.reader.exhaust.1.findSome? ending? = none) (finished : q.pipe.ending = some .finished) :
    Over n s c.pipe.toFar (heard ++ messagesIn s q.reader.exhaust.1 ++ [.closed s (endReason q.reader.exhaust.2)])
      (e.readOpen n s q) := by
  have opened := h.modifyConnection (fun c => { c with reader := q.reader.exhaust.2 }) h.stage
  rcases Reader.drainWith_eq (Reader.weight_lt_drain q.reader) with ⟨frames, drained, decoded⟩ |
    ⟨frames, err, r', rest, drained, decoded⟩
  · have going : .error .tooBig ∉ q.reader.exhaust.1 := by simp [decoded]
    rw [decoded] at goes
    obtain ⟨e', took, stays⟩ := opened.takeFrames goes
    have past := stays.finish (endReason q.reader.exhaust.2)
    simp only [Endpoint.readOpen, Reader.drain, drained, took, finished, endFault, Reader.decodeEnd,
      Reader.decode_exhaust going]
    rw [decoded]
    cases left : q.reader.exhaust.2.buffer.isEmpty with
    | true => simpa [endReason, left] using past
    | false => simpa [endReason, left, fail] using past
  · rw [decoded, List.findSome?_append] at goes
    simp [ending?] at goes

/-! ## Answers are written -/

theorem wire_of_small {f : Frame} (small : f.body.length ≤ maxBody) :
    f.wire = .ok (Exchange.frameBytes f) := by
  rw [wire]
  exact if_pos small

theorem wire_of_big {f : Frame} (big : maxBody < f.body.length) : f.wire = .error .tooBig := by
  rw [wire, if_neg (Nat.not_le_of_lt big)]

theorem wire_ping (t : UInt64) : (Frame.ping t).wire = .ok (Exchange.frameBytes (.ping t)) := by
  apply wire_of_small
  simp [body, writeFields, maxBody]

theorem eq_pong_of_answer? {d : Decoded} {f : Frame} (answers : d.answer? = some f) :
    ∃ t, f = .pong t := by
  cases d with
  | frame g =>
      cases g with
      | ping t => exact ⟨t, (Option.some.inj answers).symm⟩
      | _ => cases answers
  | _ => cases answers

theorem wire_of_mem_answersIn {f : Frame} (mem : f ∈ answersIn decoded) :
    f.wire = .ok (Exchange.frameBytes f) := by
  obtain ⟨d, -, answers⟩ := List.mem_filterMap.mp mem
  obtain ⟨t, rfl⟩ := eq_pong_of_answer? answers
  apply wire_of_small
  simp [body, writeFields, maxBody]

def answered (waiting : List Frame) (c : Connection) : Connection :=
  { c with
    control := []
    pipe := { c.pipe with
      toFar := c.pipe.toFar ++ (c.control ++ waiting).flatMap Exchange.frameBytes } }

theorem Open.writeFrame (h : Open n s c waiting heard e) (reads : c.pipe.farGone = false) {f : Frame}
    (wire : f.wire = .ok (Exchange.frameBytes f)) :
    ∃ e', e.writeFrame n s f = (true, e') ∧
      Open n s { c with pipe := { c.pipe with toFar := c.pipe.toFar ++ Exchange.frameBytes f } }
        waiting heard e' := by
  have wrote := h.modifyConnection
    (fun c => { c with pipe := c.pipe.write (Exchange.frameBytes f) }) h.stage
  have there : c.pipe.write (Exchange.frameBytes f) =
      { c.pipe with toFar := c.pipe.toFar ++ Exchange.frameBytes f } := by
    rw [Pipe.write, if_neg (by simp [reads])]
  refine ⟨e.writeBytes n (Exchange.frameBytes f), ?_, ?_⟩
  · rw [Endpoint.writeFrame, wire]
  · rw [there] at wrote
    exact wrote

theorem Open.writeFrames (h : Open n s c waiting heard e) (reads : c.pipe.farGone = false)
    {frames : List Frame} (wires : ∀ f ∈ frames, f.wire = .ok (Exchange.frameBytes f)) :
    ∃ e', e.writeFrames n s frames = (true, e') ∧
      Open n s { c with pipe := { c.pipe with
        toFar := c.pipe.toFar ++ frames.flatMap Exchange.frameBytes } } waiting heard e' := by
  induction frames generalizing c e with
  | nil => exact ⟨e, rfl, by simpa using h⟩
  | cons f rest ih =>
      obtain ⟨e₁, first, wrote⟩ := h.writeFrame reads (wires f List.mem_cons_self)
      obtain ⟨e', later, stays⟩ := ih wrote reads (fun f' mem => wires f' (List.mem_cons_of_mem f mem))
      refine ⟨e', ?_, by simpa using stays⟩
      rw [Endpoint.writeFrames, first]
      exact later

theorem Open.take (h : Open n s c waiting heard e) (f : Frame) (rest : List Frame) :
    Open n s c rest heard (e.modifySlot s (Slot.taken f rest)) where
  connection := h.connection
  stage := h.stage
  slot := by
    obtain ⟨slot, there, -⟩ := h.slot
    refine ⟨slot.taken f rest, ?_, rfl⟩
    simp [Endpoint.modifySlot, Table.get?_modify, there]
  events := h.events
  alone := h.alone

theorem Open.writeQueue (h : Open n s c waiting heard e) (reads : c.pipe.farGone = false)
    (wires : ∀ f ∈ waiting, f.wire = .ok (Exchange.frameBytes f)) :
    Open n s { c with pipe := { c.pipe with
      toFar := c.pipe.toFar ++ waiting.flatMap Exchange.frameBytes } } [] heard
        (e.writeQueue n s waiting) := by
  induction waiting generalizing c e with
  | nil =>
      rw [Endpoint.writeQueue]
      simpa using h
  | cons f rest ih =>
      obtain ⟨e', wrote, goes⟩ := (h.take f rest).writeFrame reads (wires f List.mem_cons_self)
      have stays := ih goes reads (fun f' mem => wires f' (List.mem_cons_of_mem f mem))
      rw [Endpoint.writeQueue, writeNext, wrote]
      simpa using stays

theorem Open.flush (h : Open n s c waiting heard e) (reads : c.pipe.farGone = false)
    (wires : ∀ f ∈ c.control ++ waiting, f.wire = .ok (Exchange.frameBytes f)) :
    Open n s (answered waiting c) [] heard (e.flush n) := by
  rw [List.forall_mem_append] at wires
  have cleared := h.modifyConnection (fun c => { c with control := [] }) h.stage
  obtain ⟨e', wrote, goes⟩ := cleared.writeFrames reads wires.1
  obtain ⟨slot, there, queue⟩ := goes.slot
  have stays := goes.writeQueue reads wires.2
  simp only [Endpoint.flush, h.connection, h.stage, wrote, there, Option.elim, queue]
  simpa [answered] using stays

theorem Open.flushOther (h : Open n s c waiting heard e) (other : m ≠ n) :
    Open n s c waiting heard (e.flush m) :=
  h.apart (apart_flush other fun _ there stage => other (h.alone m _ there stage))

theorem Open.flushList (h : Open n s c waiting heard e) (reads : c.pipe.farGone = false)
    (wires : ∀ f ∈ c.control ++ waiting, f.wire = .ok (Exchange.frameBytes f)) (l : List Nat) :
    Open n s (if n ∈ l then answered waiting c else c) (if n ∈ l then [] else waiting) heard
      (l.foldl (fun e m => e.flush m) e) := by
  induction l generalizing c waiting e with
  | nil => simpa using h
  | cons m rest ih =>
      rw [List.foldl_cons]
      by_cases own : m = n
      -- a second flush finds nothing to write
      · subst own
        have again := ih (h.flush reads wires) reads (by simp [answered])
        have once : answered [] (answered waiting c) = answered waiting c := by simp [answered]
        simpa [once] using again
      · simpa [Ne.symm own] using ih (h.flushOther own) reads wires

theorem Open.flushAll (h : Open n s c waiting heard e) (reads : c.pipe.farGone = false)
    (wires : ∀ f ∈ c.control ++ waiting, f.wire = .ok (Exchange.frameBytes f)) :
    Open n s (answered waiting c) [] heard e.flushAll := by
  have all := h.flushList reads wires (List.range e.connections.length)
  have mine : n < e.connections.length := (List.getElem?_eq_some_iff.mp h.connection).1
  rwa [if_pos (List.mem_range.mpr mine), if_pos (List.mem_range.mpr mine)] at all

theorem Over.flush (h : Over n s sent heard e) (m : Nat) : Over n s sent heard (e.flush m) := by
  apply h.apart
  by_cases own : m = n
  · obtain ⟨c, there, stage, -⟩ := h.connection
    have nothing : e.flush m = e := by simp only [Endpoint.flush, own, there, stage]
    rw [nothing]
    exact .refl n s e
  · exact apart_flush own fun c there stage => own (h.alone m c there stage)

theorem flushAll_of_flush {P : Endpoint → Prop} (each : ∀ e, P e → ∀ m, P (e.flush m)) (h : P e) :
    P e.flushAll := by
  rw [Endpoint.flushAll]
  generalize List.range e.connections.length = l
  induction l generalizing e with
  | nil => exact h
  | cons m rest ih => exact ih (each e h m)

theorem Over.flushAll (h : Over n s sent heard e) : Over n s sent heard e.flushAll :=
  flushAll_of_flush (fun _ h => h.flush) h

end Endpoint
end StreamTunnel
