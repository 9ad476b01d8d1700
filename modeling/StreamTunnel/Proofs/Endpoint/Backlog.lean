import Mathlib.Data.List.Induction
import StreamTunnel.Proofs.Endpoint.Closing
import StreamTunnel.Proofs.Endpoint.Run
import StreamTunnel.Proofs.Endpoint.Session

namespace StreamTunnel
open Exchange

def IsWhole (b : Bytes) : Prop :=
  ∃ frames : List Frame, (∀ f ∈ frames, f.body.length ≤ Frame.maxBody) ∧
    b = frames.flatMap frameBytes

theorem isWhole_nil : IsWhole [] :=
  ⟨[], by simp, rfl⟩

theorem IsWhole.append {b b' : Bytes} (first : IsWhole b) (second : IsWhole b') :
    IsWhole (b ++ b') := by
  obtain ⟨frames, small, rfl⟩ := first
  obtain ⟨frames', small', rfl⟩ := second
  exact ⟨frames ++ frames', List.forall_mem_append.mpr ⟨small, small'⟩, List.flatMap_append.symm⟩

theorem isWhole_wire {f : Frame} {b : Bytes} (wire : f.wire = .ok b) : IsWhole b := by
  rw [Frame.wire] at wire
  split at wire
  · next small =>
    cases wire
    exact ⟨[f], by simpa using small, by simp [frameBytes]⟩
  · cases wire

theorem isWhole_closing (slot : Slot) (reason : String) (lag : Nat) :
    IsWhole (slot.closing reason lag).written :=
  (Closing.goes_closing slot reason lag).exists_written

theorem isWhole_send {f : Frame} (small : f.body.length ≤ Frame.maxBody) :
    IsWhole (({} : Frame.Sink).send f).2.written := by
  obtain ⟨k, fed, took⟩ := Frame.Sink.took_nil.feed small
  obtain ⟨k', flushed, -, written⟩ := took.flush
  rw [Frame.Sink.send, fed]
  dsimp only
  rw [flushed]
  exact ⟨[] ++ [f], by simpa using small, written⟩

namespace Slot

def Balanced (slot : Slot) : Prop :=
  slot.backlog = slot.queue.countP Frame.isMessage

variable {slot : Slot} {f : Frame} {rest : List Frame}

theorem Balanced.pos (h : slot.Balanced) (queue : slot.queue = f :: rest) (message : f.isMessage) :
    0 < slot.backlog := by
  rw [h, queue, List.countP_cons_of_pos message]
  exact Nat.succ_pos _

theorem Balanced.taken (h : slot.Balanced) (queue : slot.queue = f :: rest) :
    (slot.taken f rest).Balanced := by
  unfold Balanced Slot.taken
  rw [h, queue]
  by_cases message : f.isMessage
  · simp [message]
  · simp [message]

theorem Balanced.closing (h : slot.Balanced) (reason : String) (lag : Nat) :
    (slot.closing reason lag).slot.Balanced := by
  unfold Balanced Slot.closing
  rw [h, List.countP_append]
  rfl

theorem Balanced.next {w : Closing} (h : w.slot.Balanced) : w.next.slot.Balanced := by
  rw [Closing.next]
  split
  · next queue => exact h.taken queue
  · exact h

theorem Balanced.run {w : Closing} (h : w.slot.Balanced) (k : Nat) : (w.run k).slot.Balanced := by
  induction k generalizing w with
  | zero => exact h
  | succ k ih => exact ih h.next

structure Tidy (slot : Slot) : Prop where
  balanced : slot.Balanced
  messages : ∀ f ∈ slot.queue, ∃ data, f = .message data

theorem Tidy.congr {slot' : Slot} (h : slot.Tidy) (queue : slot'.queue = slot.queue)
    (backlog : slot'.backlog = slot.backlog) : slot'.Tidy where
  balanced := by
    unfold Balanced
    rw [queue, backlog]
    exact h.balanced
  messages := by
    rw [queue]
    exact h.messages

theorem Tidy.taken (h : slot.Tidy) (queue : slot.queue = f :: rest) : (slot.taken f rest).Tidy where
  balanced := h.balanced.taken queue
  messages f' mem := h.messages f' (by rw [queue]; exact List.mem_cons_of_mem f mem)

theorem Tidy.push (h : slot.Tidy) (data : Bytes) :
    ({ slot with queue := slot.queue ++ [.message data], backlog := slot.backlog + 1 } : Slot).Tidy where
  balanced := by
    unfold Balanced
    rw [h.balanced, List.countP_append]
    rfl
  messages := by
    rw [List.forall_mem_append, List.forall_mem_singleton]
    exact ⟨h.messages, data, rfl⟩

end Slot

/-- What was written on a connection are whole frames, and what waits to be written besides the
queue are answers to pings. -/
structure Connection.Fit (c : Connection) : Prop where
  whole : IsWhole c.pipe.toFar
  answers : ∀ f ∈ c.control, ∃ t, f = .pong t
  cut : c.pipe.farGone = true → c.pipe.ending.isSome = true

namespace Connection

variable {c : Connection}

structure Tame (f : Connection → Connection) : Prop where
  fit : ∀ c, c.Fit → (f c).Fit
  stage : ∀ c s, (f c).stage = .open s → c.stage = .open s
  ending : ∀ c, (f c).pipe.ending = c.pipe.ending

theorem Fit.congr {c' : Connection} (h : c.Fit) (pipe : c'.pipe = c.pipe)
    (control : c'.control = c.control) : c'.Fit where
  whole := by rw [pipe]; exact h.whole
  answers := by rw [control]; exact h.answers
  cut := by rw [pipe]; exact h.cut

theorem Fit.act (h : c.Fit) (a : FarAct) : ({ c with pipe := c.pipe.act a } : Connection).Fit where
  whole := by
    dsimp only
    rw [Endpoint.toFar_act]
    exact h.whole
  answers := h.answers
  cut := by
    cases a with
    | write b =>
        simp only [Pipe.act]
        split <;> exact h.cut
    | halfClose | close | reset => simp [Pipe.act]

theorem fit_new (stage : Stage) (deadline : Option Nat) :
    ({ stage, deadline } : Connection).Fit :=
  ⟨isWhole_nil, by simp, by simp⟩

theorem tame_of_same {f : Connection → Connection} (pipe : ∀ c, (f c).pipe = c.pipe)
    (control : ∀ c, (f c).control = c.control)
    (stage : ∀ c s, (f c).stage = .open s → c.stage = .open s) : Tame f where
  fit c fit := fit.congr (pipe c) (control c)
  stage := stage
  ending c := congrArg Pipe.ending (pipe c)

theorem tame_read (reader : Frame.Reader) : Tame (fun c => { c with reader }) :=
  tame_of_same (fun _ => rfl) (fun _ => rfl) (fun _ _ stage => stage)

theorem tame_take : Tame take where
  fit _ fit := ⟨fit.whole, fit.answers, fit.cut⟩
  stage _ _ stage := stage
  ending _ := rfl

theorem tame_write {b : Bytes} (whole : IsWhole b) :
    Tame (fun c => { c with pipe := c.pipe.write b }) where
  fit _ fit := by
    rw [Pipe.write]
    split
    · exact fit
    · exact ⟨fit.whole.append whole, fit.answers, fit.cut⟩
  stage _ _ stage := stage
  ending c := by
    dsimp only
    rw [Pipe.write]
    split <;> rfl

theorem tame_answer (t : UInt64) : Tame (fun c => { c with control := c.control ++ [.pong t] }) where
  fit _ fit := by
    refine ⟨fit.whole, ?_, fit.cut⟩
    rw [List.forall_mem_append, List.forall_mem_singleton]
    exact ⟨fit.answers, t, rfl⟩
  stage _ _ stage := stage
  ending _ := rfl

theorem tame_cleared : Tame (fun c => { c with control := [] }) where
  fit _ fit := ⟨fit.whole, by simp, fit.cut⟩
  stage _ _ stage := stage
  ending _ := rfl

theorem tame_ended : Tame (fun c => { c with stage := .ended, pipe := c.pipe.closeNear }) where
  fit _ fit := ⟨fit.whole, fit.answers, fit.cut⟩
  stage _ _ stage := by cases stage
  ending _ := rfl

theorem tame_collected : Tame (fun c => { c with pipe := { c.pipe with toFar := [] } }) where
  fit _ fit := ⟨isWhole_nil, fit.answers, fit.cut⟩
  stage _ _ stage := stage
  ending _ := rfl

end Connection

namespace Endpoint
open Connection

/-- The slots and connections are in order. No open connection has a stream that ended, but for one
whose end may still have to be noticed. -/
structure Orderly (late : Option Nat) (e : Endpoint) : Prop where
  tidy : ∀ {s : SessionId} {slot : Slot}, e.slots.get? s = some slot → slot.Tidy
  fit : ∀ {n : Nat} {c : Connection}, e.connections[n]? = some c → c.Fit
  flows : ∀ {n : Nat} {c : Connection} {s : SessionId}, e.connections[n]? = some c →
    some n ≠ late → c.stage = .open s → c.pipe.ending = none
  sorted : e.slots.keys.Pairwise (· < ·)

variable {e : Endpoint} {n : Nat} {late : Option Nat} {s : SessionId} {c : Connection}
  {peer : Identity}

def ending? (n : Nat) (e : Endpoint) : Option (Option Ending) :=
  e.connections[n]?.map (·.pipe.ending)

theorem ending?_modifyConnection {f : Connection → Connection} (tame : Tame f) :
    (e.modifyConnection n f).ending? n = e.ending? n := by
  rw [ending?, connections_modifyConnection, if_pos rfl, Option.map_map]
  exact congrArg (Option.map · _) (funext tame.ending)

/-! ## The parts of a step -/

theorem Orderly.weaken (h : e.Orderly none) (late : Option Nat) : e.Orderly late where
  tidy := h.tidy
  fit := h.fit
  flows there _ := h.flows there (by simp)
  sorted := h.sorted

theorem Orderly.reads (h : e.Orderly none) (there : e.connections[n]? = some c)
    (stage : c.stage = .open s) : c.pipe.farGone = false := by
  -- a far end that is gone would have ended the session
  cases gone : c.pipe.farGone with
  | false => rfl
  | true => simpa [h.flows there (by simp) stage] using (h.fit there).cut gone

theorem Orderly.noticed (h : e.Orderly (some n))
    (here : ∀ c s, e.connections[n]? = some c → c.stage = .open s → c.pipe.ending = none) :
    e.Orderly none where
  tidy := h.tidy
  fit := h.fit
  flows {m c s} there _ stage := by
    by_cases own : m = n
    · subst own
      exact here c s there stage
    · exact h.flows there (by simpa using own) stage
  sorted := h.sorted

theorem Orderly.quiet (h : e.Orderly (some n)) (more : e.ending? n = some none) :
    e.Orderly none := by
  apply h.noticed
  intro c s here _
  rw [ending?, here] at more
  exact Option.some.inj more

theorem Orderly.modifyConnection {f : Connection → Connection} (h : e.Orderly late) (tame : Tame f)
    (n : Nat) : (e.modifyConnection n f).Orderly late where
  tidy := h.tidy
  fit there := by
    rw [connections_modifyConnection] at there
    split at there
    · obtain ⟨c, earlier, rfl⟩ := Option.map_eq_some_iff.mp there
      exact tame.fit c (h.fit earlier)
    · exact h.fit there
  flows there punctual stage := by
    rw [connections_modifyConnection] at there
    split at there
    · obtain ⟨c, earlier, rfl⟩ := Option.map_eq_some_iff.mp there
      rw [tame.ending]
      exact h.flows earlier punctual (tame.stage c _ stage)
    · exact h.flows there punctual stage
  sorted := h.sorted

theorem Orderly.modifyLate {f : Connection → Connection} (h : e.Orderly (some n))
    (keeps : ∀ c, c.Fit → (f c).Fit) : (e.modifyConnection n f).Orderly (some n) where
  tidy := h.tidy
  fit there := by
    rw [connections_modifyConnection] at there
    split at there
    · obtain ⟨c, earlier, rfl⟩ := Option.map_eq_some_iff.mp there
      exact keeps c (h.fit earlier)
    · exact h.fit there
  flows there punctual stage := by
    rw [connections_modifyConnection, if_neg (by simpa [eq_comm] using punctual)] at there
    exact h.flows there punctual stage
  sorted := h.sorted

theorem Orderly.modifySlot {f : Slot → Slot} (h : e.Orderly late)
    (keeps : ∀ slot, e.slots.get? s = some slot → slot.Tidy → (f slot).Tidy) :
    (e.modifySlot s f).Orderly late where
  tidy there := by
    rw [Endpoint.modifySlot, Table.get?_modify] at there
    split at there
    · next same =>
      subst same
      obtain ⟨slot, earlier, rfl⟩ := Option.map_eq_some_iff.mp there
      exact keeps slot earlier (h.tidy earlier)
    · exact h.tidy there
  fit := h.fit
  flows := h.flows
  sorted := by
    rw [Endpoint.modifySlot, Table.keys_modify]
    exact h.sorted

theorem Orderly.finish (h : e.Orderly late) (s : SessionId) (reason : CloseReason) :
    (e.finish s reason).Orderly late where
  tidy there := by
    rw [slots_finish] at there
    split at there
    · cases there
    · exact h.tidy there
  fit := by
    rw [connections_finish]
    exact h.fit
  flows := by
    rw [connections_finish]
    exact h.flows
  sorted := by
    rw [Endpoint.finish]
    split
    · exact h.sorted.sublist (Table.keys_erase_sublist ..)
    · exact h.sorted

theorem Orderly.endConnection (h : e.Orderly late) (n : Nat) : (e.endConnection n).Orderly late :=
  h.modifyConnection tame_ended n

theorem Orderly.over (h : e.Orderly (some n)) : (e.endConnection n).Orderly none := by
  apply (h.endConnection n).noticed
  intro c s there stage
  rw [Endpoint.endConnection, connections_modifyConnection, if_pos rfl] at there
  obtain ⟨c, -, rfl⟩ := Option.map_eq_some_iff.mp there
  cases stage

theorem Orderly.fail (h : e.Orderly late) (n : Nat) (s : SessionId) (err : ChannelError) :
    (e.fail n s err).Orderly late :=
  (h.finish s err.toReason).endConnection n

theorem Orderly.emit (h : e.Orderly late) (ev : ChannelEvent) : (e.emit ev).Orderly late :=
  ⟨h.tidy, h.fit, h.flows, h.sorted⟩

theorem Orderly.writeBytes {b : Bytes} (h : e.Orderly late) (n : Nat) (whole : IsWhole b) :
    (e.writeBytes n b).Orderly late :=
  h.modifyConnection (tame_write whole) n

theorem Orderly.erase (h : e.Orderly late) (s : SessionId) :
    ({ e with slots := e.slots.erase s } : Endpoint).Orderly late where
  tidy there := by
    rw [Table.get?_erase] at there
    split at there
    · cases there
    · exact h.tidy there
  fit := h.fit
  flows := h.flows
  sorted := h.sorted.sublist (Table.keys_erase_sublist ..)

theorem Orderly.openSlot (h : e.Orderly late) (n : Nat) (gated : Bool) :
    (e.openSlot n gated).2.Orderly late where
  tidy there := by
    simp only [Endpoint.openSlot, Table.get?_insert] at there
    split at there
    · cases there
      exact ⟨rfl, by simp⟩
    · exact h.tidy there
  fit := h.fit
  flows := h.flows
  sorted := Table.sorted_keys_insert SessionId.lt_trans SessionId.lt_of_not_lt h.sorted _ _

theorem Orderly.append (h : e.Orderly late) (fit : c.Fit) (flows : c.pipe.ending = none) :
    ({ e with connections := e.connections ++ [c] } : Endpoint).Orderly late where
  tidy := h.tidy
  fit there := by
    rw [List.getElem?_append] at there
    split at there
    · exact h.fit there
    · obtain ⟨-, rfl⟩ := List.getElem?_eq_some_iff.mp there
      simpa using fit
  flows there punctual stage := by
    rw [List.getElem?_append] at there
    split at there
    · exact h.flows there punctual stage
    · obtain ⟨-, rfl⟩ := List.getElem?_eq_some_iff.mp there
      simpa using flows
  sorted := h.sorted

theorem Orderly.writeFrame (h : e.Orderly late) (n : Nat) (s : SessionId) (f : Frame) :
    (e.writeFrame n s f).2.Orderly late := by
  rw [Endpoint.writeFrame]
  split
  · next wire => exact h.writeBytes n (isWhole_wire wire)
  · exact h.fail n s _

theorem Orderly.writeFrames (h : e.Orderly late) (n : Nat) (s : SessionId) (frames : List Frame) :
    (e.writeFrames n s frames).2.Orderly late := by
  induction frames generalizing e with
  | nil => exact h
  | cons f rest ih =>
      have first := h.writeFrame n s f
      rw [Endpoint.writeFrames]
      split
      · next wrote =>
        rw [wrote] at first
        exact ih first
      · next failed =>
        rw [failed] at first
        exact first

theorem Orderly.take (h : e.Orderly late) {f : Frame} {rest : List Frame}
    (queue : ∀ slot, e.slots.get? s = some slot → slot.queue = f :: rest) :
    (e.modifySlot s (Slot.taken f rest)).Orderly late :=
  h.modifySlot fun slot there tidy => tidy.taken (queue slot there)

theorem slots_of_wrote {e' : Endpoint} {f : Frame} (wrote : e.writeFrame n s f = (true, e')) :
    e'.slots = e.slots := by
  rw [Endpoint.writeFrame] at wrote
  split at wrote <;> cases wrote
  rfl

theorem slots_taken {f : Frame} {rest : List Frame} :
    ∀ slot, (e.modifySlot s (Slot.taken f rest)).slots.get? s = some slot → slot.queue = rest := by
  intro slot there
  rw [Endpoint.modifySlot, Table.get?_modify, if_pos rfl] at there
  obtain ⟨slot, -, rfl⟩ := Option.map_eq_some_iff.mp there
  rfl

theorem Orderly.writeNext (h : e.Orderly late) (n : Nat) {f : Frame} {rest : List Frame}
    (queue : ∀ slot, e.slots.get? s = some slot → slot.queue = f :: rest) :
    (e.writeNext n s f rest).2.Orderly late :=
  (h.take queue).writeFrame n s f

theorem Orderly.writeQueue (h : e.Orderly late) (n : Nat) {frames : List Frame}
    (queue : ∀ slot, e.slots.get? s = some slot → slot.queue = frames) :
    (e.writeQueue n s frames).Orderly late := by
  induction frames generalizing e with
  | nil => exact h
  | cons f rest ih =>
      have first := h.writeNext n queue
      rw [Endpoint.writeQueue]
      split
      · next wrote =>
        rw [wrote] at first
        apply ih first
        rw [slots_of_wrote wrote]
        exact slots_taken
      · next failed =>
        rw [failed] at first
        exact first

theorem Orderly.flush (h : e.Orderly late) (n : Nat) : (e.flush n).Orderly late := by
  rw [Endpoint.flush]
  split
  · next c _ =>
    split
    · next s _ =>
      have answered := (h.modifyConnection tame_cleared n).writeFrames n s c.control
      dsimp only
      split
      · next failed =>
        rw [failed] at answered
        exact answered
      · next wrote =>
        rw [wrote] at answered
        apply answered.writeQueue n
        intro slot there
        rw [there]
        rfl
    · exact h
  · exact h

/-! ## What comes in -/

theorem Orderly.enter (h : e.Orderly (some n)) (s : SessionId) (peer : Identity) :
    (e.enter n s peer).Orderly (some n) := by
  apply Orderly.emit
  apply Orderly.modifySlot
  · apply h.modifyLate
    exact fun c fit => fit.congr rfl rfl
  · exact fun slot _ tidy => tidy.congr rfl rfl

theorem Orderly.takeFrames (h : e.Orderly (some n)) (s : SessionId) (frames : List Frame) :
    ((e.takeFrames n s frames).1 = false → (e.takeFrames n s frames).2.Orderly none) ∧
      ((e.takeFrames n s frames).1 = true → (e.takeFrames n s frames).2.Orderly (some n) ∧
        (e.takeFrames n s frames).2.ending? n = e.ending? n) := by
  induction frames generalizing e with
  | nil => exact ⟨by simp [Endpoint.takeFrames], fun _ => ⟨h, rfl⟩⟩
  | cons f rest ih =>
      cases f with
      | message data => exact ih (h.emit _)
      | ping t =>
          have later := ih (h.modifyConnection (tame_answer t) n)
          rw [ending?_modifyConnection (tame_answer t)] at later
          exact later
      | pong t =>
          apply ih
          apply h.modifySlot
          exact fun slot _ tidy => tidy.congr rfl rfl
      | close reason =>
          exact ⟨fun _ => (h.finish s .byPeer).over, by simp [Endpoint.takeFrames]⟩
      | hello | helloAck => exact ih h

theorem Orderly.readOpen (h : e.Orderly (some n)) (s : SessionId)
    (there : e.ending? n = some c.pipe.ending) : (e.readOpen n s c).Orderly none := by
  rw [Endpoint.readOpen]
  obtain ⟨frames, fault, reader⟩ := c.reader.drain
  obtain ⟨ended, goes⟩ := (h.modifyConnection (tame_read reader) n).takeFrames s frames
  rw [ending?_modifyConnection (tame_read reader)] at goes
  dsimp only
  split
  · next closed =>
    rw [closed] at ended
    exact ended rfl
  · next taken =>
    rw [taken] at goes
    obtain ⟨orderly, same⟩ := goes rfl
    split
    · exact (orderly.finish s _).over
    · next more =>
      exact orderly.quiet ((same.trans there).trans (congrArg some more))
    · split
      · exact (orderly.finish s _).over
      · exact (orderly.finish s .byPeer).over

theorem Orderly.readAnswer (h : e.Orderly (some n)) (s : SessionId) (peer : Identity)
    (there : e.ending? n = some c.pipe.ending) :
    (e.readAnswer n s peer c).Orderly none := by
  rw [Endpoint.readAnswer]
  split
  · apply (h.enter s peer).readOpen
    rw [Endpoint.enter, ending?, connections_emit, connections_modifySlot,
      connections_modifyConnection, if_pos rfl, Option.map_map]
    exact there
  · exact (h.finish s _).over
  · exact (h.finish s _).over
  · exact (h.finish s _).over
  · next reader _ =>
    have waits := h.modifyConnection (tame_read reader) n
    dsimp only
    split
    · next more =>
      apply waits.quiet
      rw [ending?_modifyConnection (tame_read reader), there, more]
    · exact (waits.finish s _).over

theorem Orderly.readGreeting (h : e.Orderly (some n))
    (there : e.ending? n = some c.pipe.ending) : (e.readGreeting n c).Orderly none := by
  rw [Endpoint.readGreeting]
  split
  · apply Orderly.emit
    apply Orderly.noticed (n := n)
    · apply (h.openSlot n true).modifyLate
      exact fun c fit => fit.congr rfl rfl
    · intro c' s' there' stage
      rw [connections_modifyConnection, if_pos rfl] at there'
      obtain ⟨c', -, rfl⟩ := Option.map_eq_some_iff.mp there'
      cases stage
  · exact h.over
  · exact h.over
  · next reader _ =>
    have waits := h.modifyConnection (tame_read reader) n
    dsimp only
    split
    · exact waits.over
    · next more =>
      apply waits.quiet
      rw [ending?_modifyConnection (tame_read reader), there]
      simpa using more

theorem Orderly.receive (h : e.Orderly (some n)) : (e.receive n).Orderly none := by
  rw [Endpoint.receive]
  split
  · next gone =>
    apply h.noticed
    intro c s there
    cases gone.symm.trans there
  · next c there =>
    have taken := h.modifyConnection tame_take n
    have there' : (e.modifyConnection n Connection.take).ending? n = some c.take.pipe.ending := by
      rw [ending?, connections_modifyConnection, if_pos rfl, there]
      rfl
    dsimp only
    split
    · exact taken.readGreeting there'
    · exact taken.readAnswer _ _ there'
    · exact taken.readOpen _ there'
    · next other =>
      apply h.noticed
      intro c' s there' stage
      obtain rfl := Option.some.inj (there.symm.trans there')
      exact absurd stage (other s)

/-! ## What an endpoint does -/

theorem Orderly.established (h : e.Orderly none) (n : Nat) : (e.established n).Orderly none := by
  rw [Endpoint.established]
  split
  · split
    · apply Orderly.writeFrame
      apply h.modifyConnection
      exact tame_of_same (fun _ => rfl) (fun _ => rfl) (fun _ _ stage => by cases stage)
    · exact h
  · exact h

theorem Orderly.refused (h : e.Orderly none) (n : Nat) (detail : String) :
    (e.refused n detail).Orderly none := by
  rw [Endpoint.refused]
  split
  · split
    · exact h.fail n _ _
    · exact h
  · exact h

theorem Orderly.expire (h : e.Orderly none) (n : Nat) : (e.expire n).Orderly none := by
  rw [Endpoint.expire]
  split
  · split
    · exact h.fail n _ _
    · exact h.fail n _ _
    · exact h.endConnection n
    · exact h
  · exact h

theorem Orderly.ping (h : e.Orderly none) (n : Nat) : (e.ping n).Orderly none := by
  rw [Endpoint.ping]
  split
  · split
    · apply Orderly.writeFrame
      apply h.modifyConnection
      exact tame_of_same (fun _ => rfl) (fun _ => rfl) (fun _ _ stage => stage)
    · exact h
  · exact h

theorem Orderly.accept (h : e.Orderly none) (s : SessionId) : (e.accept s).2.Orderly none := by
  rw [Endpoint.accept]
  split
  · exact h
  · next slot _ =>
    dsimp only
    split
    · have admitted : (e.modifySlot s (fun slot => { slot with isGated := false })).Orderly none :=
        h.modifySlot fun slot _ tidy => tidy.congr rfl rfl
      split
      · split
        · exact admitted.fail _ s _
        · have acknowledged := admitted.writeFrame slot.connection s .helloAck
          split
          · next wrote =>
            rw [wrote] at acknowledged
            exact ((acknowledged.weaken _).enter s _).receive
          · next failed =>
            rw [failed] at acknowledged
            exact acknowledged
      · exact admitted
    · exact h

theorem Orderly.send (h : e.Orderly none) (s : SessionId) (data : Bytes) (r : Reliability) :
    (e.send s data r).2.Orderly none := by
  rw [Endpoint.send]
  split
  · exact h
  · split
    · exact h
    · exact h.modifySlot fun slot _ tidy => tidy.push data

theorem Orderly.close (h : e.Orderly none) (s : SessionId) (reason : String) :
    (e.close s reason).Orderly none := by
  rw [Endpoint.close]
  split
  · exact h
  · have erased := h.erase s
    dsimp only
    split
    · exact (erased.writeBytes _ (isWhole_closing ..)).endConnection _
    · exact (erased.writeBytes _ (isWhole_send (by decide))).endConnection _
    · exact erased.endConnection _

theorem Orderly.takeWritten (h : e.Orderly none) (n : Nat) : (e.takeWritten n).2.2.Orderly none := by
  rw [Endpoint.takeWritten]
  split
  · exact h
  · exact h.modifyConnection tame_collected n

theorem Orderly.act (h : e.Orderly none) (n : Nat) (a : FarAct) : (e.act n a).Orderly none := by
  apply Orderly.receive
  apply (h.weaken (some n)).modifyLate
  exact fun c fit => fit.act a

theorem Orderly.perform (h : e.Orderly none) (a : EndpointAct) : (e.perform a).Orderly none := by
  cases a with
  | listen =>
      rw [Endpoint.perform, Endpoint.listen]
      split
      · exact h
      · split <;> exact ⟨h.tidy, h.fit, h.flows, h.sorted⟩
  | closeListener | takeEvents | lag frames | pass nanos => exact ⟨h.tidy, h.fit, h.flows, h.sorted⟩
  | connect peer port timeout =>
      exact (h.openSlot e.connections.length false).append (fit_new _ _) rfl
  | accept s => exact h.accept s
  | send s data r => exact h.send s data r
  | close s reason => exact h.close s reason
  | inbound =>
      rw [Endpoint.perform]
      split
      · exact h.append (fit_new _ _) rfl
      · exact h
  | established n => exact h.established n
  | refused n detail => exact h.refused n detail
  | far n a => exact h.act n a
  | expire n => exact h.expire n
  | ping n => exact h.ping n
  | flush n => exact h.flush n
  | collect n => exact h.takeWritten n

/-! ## What an endpoint comes to -/

/-- What comes of acts, of which the writing of a queue may be interrupted by others. -/
inductive Attained (settings : EndpointSettings) (bindFault : Option String) : Endpoint → Prop
  | start : Attained settings bindFault { settings, bindFault }
  | act {e : Endpoint} (a : EndpointAct) (before : Attained settings bindFault e) :
      Attained settings bindFault (e.perform a)
  | writes {e : Endpoint} {n : Nat} {c : Connection} {s : SessionId} {slot : Slot} {f : Frame}
      {rest : List Frame} (before : Attained settings bindFault e) (there : e.connections[n]? = some c)
      (stage : c.stage = .open s) (held : e.slots.get? s = some slot) (queue : slot.queue = f :: rest) :
      Attained settings bindFault (e.writeNext n s f rest).2

theorem Attained.orderly {settings : EndpointSettings} {bindFault : Option String}
    (h : Attained settings bindFault e) : e.Orderly none := by
  induction h with
  | start => exact ⟨by simp, by simp, by simp, .nil⟩
  | act a _ ih => exact ih.perform a
  | writes _ _ _ held queue ih =>
      apply ih.writeNext
      intro slot' held'
      obtain rfl := Option.some.inj (held.symm.trans held')
      exact queue

end Endpoint

theorem EndpointRun.attained_run (settings : EndpointSettings) (bindFault : Option String)
    (acts : List EndpointAct) :
    Endpoint.Attained settings bindFault ((start settings bindFault).run acts).endpoint := by
  induction acts using List.reverseRecOn with
  | nil => exact .start
  | append_singleton acts a ih =>
      rw [EndpointRun.run, List.foldl_append]
      exact .act a ih

end StreamTunnel
