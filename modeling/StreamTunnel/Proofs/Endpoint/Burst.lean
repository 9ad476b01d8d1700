import StreamTunnel.Proofs.Endpoint.Backlog

namespace StreamTunnel
open StreamTunnel.Frame StreamTunnel.Frame.Reading Exchange

/-- The messages of a burst that are queued where so many wait before it. -/
def admitted (limit : Nat) : Nat → List (Bytes × Reliability) → List Bytes
  | _, [] => []
  | waiting, (data, r) :: rest =>
      if r = .reliable ∨ waiting < limit then data :: admitted limit (waiting + 1) rest
      else admitted limit waiting rest

theorem mem_of_mem_admitted {limit waiting : Nat} {burst : List (Bytes × Reliability)} {data : Bytes}
    (mem : data ∈ admitted limit waiting burst) : ∃ r, (data, r) ∈ burst := by
  induction burst generalizing waiting with
  | nil => cases mem
  | cons m rest ih =>
      obtain ⟨first, r⟩ := m
      rw [admitted] at mem
      split at mem
      · rcases List.mem_cons.mp mem with rfl | later
        · exact ⟨r, List.mem_cons_self⟩
        · obtain ⟨r', mem'⟩ := ih later
          exact ⟨r', List.mem_cons_of_mem _ mem'⟩
      · obtain ⟨r', mem'⟩ := ih mem
        exact ⟨r', List.mem_cons_of_mem _ mem'⟩

/-! ## Sending -/

namespace Slot

def offer (limit : Nat) (slot : Slot) (m : Bytes × Reliability) : Slot :=
  if m.2 = .unreliable ∧ limit ≤ slot.backlog then slot
  else { slot with queue := slot.queue ++ [.message m.1], backlog := slot.backlog + 1 }

theorem foldl_offer (limit : Nat) (burst : List (Bytes × Reliability)) (slot : Slot) :
    burst.foldl (offer limit) slot =
      { slot with
        queue := slot.queue ++ (admitted limit slot.backlog burst).map .message
        backlog := slot.backlog + (admitted limit slot.backlog burst).length } := by
  induction burst generalizing slot with
  | nil => simp [admitted]
  | cons m rest ih =>
      obtain ⟨data, r⟩ := m
      have dropped : (r = .unreliable ∧ limit ≤ slot.backlog) ↔
          ¬ (r = .reliable ∨ slot.backlog < limit) := by
        cases r <;> simp
      rw [List.foldl_cons, ih, offer, admitted]
      -- one that is kept counts for those after it
      by_cases kept : r = .reliable ∨ slot.backlog < limit
      · rw [if_neg (fun drop => dropped.mp drop kept), if_pos kept]
        simp [Nat.add_assoc, Nat.add_comm]
      · rw [if_pos (dropped.mpr kept), if_neg kept]

end Slot

namespace Connection

def wrote (b : Bytes) (c : Connection) : Connection :=
  { c with pipe := { c.pipe with toFar := c.pipe.toFar ++ b } }

theorem wrote_nil (c : Connection) : wrote [] c = c := by
  rw [wrote, List.append_nil]

theorem wrote_append (b b' : Bytes) (c : Connection) : wrote (b ++ b') c = wrote b' (wrote b c) := by
  simp only [wrote, List.append_assoc]

end Connection

namespace Endpoint
open Connection

variable {e : Endpoint} {n : Nat} {s : SessionId} {c : Connection} {slot : Slot}

theorem send_of_some (there : e.slots.get? s = some slot) (data : Bytes) (r : Reliability) :
    ∃ slots, e.send s data r = (.ok (), { e with slots }) ∧
      slots.get? s = some (slot.offer e.settings.backlogLimit (data, r)) := by
  rw [Endpoint.send, there]
  dsimp only [Slot.offer]
  split
  · exact ⟨e.slots, rfl, there⟩
  · refine ⟨_, rfl, ?_⟩
    rw [Table.get?_modify, if_pos rfl, there]
    rfl

/-- One send of a burst, after which the writer has not run. -/
def sendOne (s : SessionId) (sent : List (Except ChannelError Unit) × Endpoint)
    (m : Bytes × Reliability) : List (Except ChannelError Unit) × Endpoint :=
  (sent.1 ++ [(sent.2.send s m.1 m.2).1], (sent.2.send s m.1 m.2).2)

theorem foldl_sendOne (there : e.slots.get? s = some slot) (burst : List (Bytes × Reliability))
    (results : List (Except ChannelError Unit)) :
    ∃ slots, burst.foldl (sendOne s) (results, e) =
        (results ++ List.replicate burst.length (.ok ()), { e with slots }) ∧
      slots.get? s = some (burst.foldl (Slot.offer e.settings.backlogLimit) slot) := by
  induction burst generalizing e slot results with
  | nil => exact ⟨e.slots, by simp, there⟩
  | cons m rest ih =>
      obtain ⟨slots, sent, there'⟩ := send_of_some there m.1 m.2
      obtain ⟨slots', later, after⟩ := ih (e := { e with slots }) there' (results ++ [.ok ()])
      refine ⟨slots', ?_, after⟩
      rw [List.foldl_cons, sendOne, sent, later, List.append_assoc]
      rfl

/-! ## Writing -/

theorem writeBytes_of_some (there : e.connections[n]? = some c) (reads : c.pipe.farGone = false)
    (b : Bytes) : (e.writeBytes n b).connections[n]? = some (wrote b c) := by
  rw [writeBytes, connections_modifyConnection, if_pos rfl, there, Option.map_some, Pipe.write,
    if_neg (by simp [reads])]
  rfl

theorem writeFrames_of_small (there : e.connections[n]? = some c) (reads : c.pipe.farGone = false)
    {frames : List Frame} (small : ∀ f ∈ frames, f.body.length ≤ maxBody) :
    ∃ e', e.writeFrames n s frames = (true, e') ∧ e'.slots = e.slots ∧ e'.events = e.events ∧
      e'.connections[n]? = some (wrote (frames.flatMap frameBytes) c) := by
  induction frames generalizing c e with
  | nil => exact ⟨e, rfl, rfl, rfl, by rwa [List.flatMap_nil, wrote_nil]⟩
  | cons f rest ih =>
      obtain ⟨first, later⟩ := List.forall_mem_cons.mp small
      obtain ⟨e', written, slots, events, after⟩ :=
        ih (writeBytes_of_some there reads (frameBytes f)) reads later
      refine ⟨e', ?_, slots, events, by rwa [List.flatMap_cons, wrote_append]⟩
      rw [Endpoint.writeFrames, Endpoint.writeFrame, wire_of_small first]
      exact written

theorem writeQueue_of_small (there : e.connections[n]? = some c) (reads : c.pipe.farGone = false)
    {frames : List Frame} (small : ∀ f ∈ frames, f.body.length ≤ maxBody) :
    (e.writeQueue n s frames).connections[n]? = some (wrote (frames.flatMap frameBytes) c) := by
  induction frames generalizing c e with
  | nil =>
      rw [writeQueue, List.flatMap_nil, wrote_nil]
      exact there
  | cons f rest ih =>
      obtain ⟨first, later⟩ := List.forall_mem_cons.mp small
      have taken : (e.modifySlot s (Slot.taken f rest)).connections[n]? = some c := there
      have after := ih (writeBytes_of_some taken reads (frameBytes f)) reads later
      rw [Endpoint.writeQueue, writeNext, Endpoint.writeFrame, wire_of_small first, List.flatMap_cons,
        wrote_append]
      exact after

theorem flush_of_open (there : e.connections[n]? = some c) (stage : c.stage = .open s)
    (reads : c.pipe.farGone = false) (held : e.slots.get? s = some slot)
    (answers : ∀ f ∈ c.control, f.body.length ≤ maxBody) :
    ∃ e' : Endpoint, e.flush n = e'.writeQueue n s slot.queue ∧ e'.slots.get? s = some slot ∧
      e'.events = e.events ∧ e'.connections[n]? =
        some (wrote (c.control.flatMap frameBytes) { c with control := [] }) := by
  have cleared : (e.modifyConnection n (fun c => { c with control := [] })).connections[n]? =
      some { c with control := [] } := by
    rw [connections_modifyConnection, if_pos rfl, there]
    rfl
  obtain ⟨e', answered, slots, events, there'⟩ :=
    writeFrames_of_small (s := s) cleared reads answers
  have held' : e'.slots.get? s = some slot := by
    rw [slots, slots_modifyConnection, held]
  refine ⟨e', ?_, held', events, there'⟩
  simp only [Endpoint.flush, there, stage, answered, held', Option.elim]

theorem flush_of_small (there : e.connections[n]? = some c) (stage : c.stage = .open s)
    (reads : c.pipe.farGone = false) (held : e.slots.get? s = some slot)
    (answers : ∀ f ∈ c.control, f.body.length ≤ maxBody)
    (small : ∀ f ∈ slot.queue, f.body.length ≤ maxBody) :
    (e.flush n).connections[n]?.map (·.pipe) =
      some (wrote ((c.control ++ slot.queue).flatMap frameBytes) c).pipe := by
  obtain ⟨e', flushed, -, -, there'⟩ := flush_of_open there stage reads held answers
  rw [flushed, writeQueue_of_small there' reads small]
  simp [wrote]

/-! ## Closing -/

theorem flush_of_ended (there : e.connections[n]? = some c) (ended : c.stage = .ended) :
    e.flush n = e := by
  simp only [Endpoint.flush, there, ended]

theorem connection_close (there : e.connections[slot.connection]? = some c) (stage : c.stage = .open s)
    (reads : c.pipe.farGone = false) (held : e.slots.get? s = some slot) (reason : String) :
    let c' := wrote (slot.closing reason e.lag).written c
    (e.close s reason).connections[slot.connection]? =
      some { c' with stage := .ended, pipe := c'.pipe.closeNear } := by
  have there' : ({ e with slots := e.slots.erase s } : Endpoint).connections[slot.connection]? =
      some c := there
  have written := writeBytes_of_some there' reads (slot.closing reason e.lag).written
  simp only [Endpoint.close, held, there, Option.map_some, stage]
  rw [endConnection, connections_modifyConnection, if_pos rfl, written]
  rfl

end Endpoint

/-! ## Reading -/

theorem eq_nil_of_unwritten {frames : List Frame} (unwritten : frames.flatMap frameBytes = []) :
    frames = [] := by
  cases frames with
  | nil => rfl
  | cons f rest => simp [frameBytes, Bytes.big, Bytes.little] at unwritten

theorem exhaust_frames {frames : List Frame} (small : ∀ f ∈ frames, f.body.length ≤ maxBody) :
    (Reader.mk none (frames.flatMap frameBytes)).exhaust = (frames.map .frame, {}) := by
  rw [List.flatMap_def]
  apply exhaust_wires
  rw [List.forall₂_map_right_iff, List.forall₂_same]
  exact fun f mem => Endpoint.wire_of_small (small f mem)

theorem run_of_frames {frames : List Frame} (small : ∀ f ∈ frames, f.body.length ≤ maxBody)
    {turns : List Turn} (bytes : arrived turns = frames.flatMap frameBytes) (ended : Ended turns) :
    run turns = ⟨{}, frames.map .frame⟩ := by
  obtain ⟨given, reader⟩ := eq_exhaust_of_ended ended
  rw [bytes, exhaust_frames small] at given reader
  have whole : throughRefusal (frames.map Decoded.frame) = frames.map .frame :=
    throughRefusal_of_not_mem (by simp)
  have going : .error .tooBig ∉ (run turns).given := by
    rw [← mem_throughRefusal, given, whole]
    simp
  rw [throughRefusal_of_not_mem going, whole] at given
  calc
    run turns = ⟨(run turns).reader, (run turns).given⟩ := rfl
    _ = ⟨{}, frames.map .frame⟩ := by rw [reader, given]

/-! ## The burst -/

namespace Exchange
open Endpoint

variable {x : Exchange} {s : SessionId} {slot : Slot} {c : Connection}

def queued (limit : Nat) (slot : Slot) (burst : List (Bytes × Reliability)) : List Frame :=
  slot.queue ++ (admitted limit (slot.queue.countP isMessage) burst).map .message

/-- What is written on a connection once a burst is sent: answers to pings first, unless the session
was closed. A reason that is too long is not written, and then the end of the queue may be missing. -/
def Outgoing (limit : Nat) (c : Connection) (slot : Slot) (burst : List (Bytes × Reliability)) :
    Option String → List Frame → Prop
  | none, frames => frames = c.control ++ queued limit slot burst
  | some reason, frames =>
      if (Utf8.encode reason).length ≤ 16777204 then
        frames = queued limit slot burst ++ [.close reason]
      else
        ∃ lost, frames ++ lost = queued limit slot burst ∧ (lost.flatMap frameBytes).length < 8192

section

variable {limit : Nat} {burst : List (Bytes × Reliability)} {reason : String} {frames : List Frame}

theorem outgoing_of_short (short : (Utf8.encode reason).length ≤ 16777204) :
    Outgoing limit c slot burst (some reason) frames ↔
      frames = queued limit slot burst ++ [.close reason] := by
  rw [Outgoing, if_pos short]

theorem outgoing_of_long (long : ¬ (Utf8.encode reason).length ≤ 16777204) :
    Outgoing limit c slot burst (some reason) frames ↔
      ∃ lost, frames ++ lost = queued limit slot burst ∧ (lost.flatMap frameBytes).length < 8192 := by
  rw [Outgoing, if_neg long]

end

theorem sendBurst_eq (s : SessionId) (burst : List (Bytes × Reliability)) (closing : Option String) :
    x.sendBurst s burst closing =
      ((burst.foldl (sendOne s) ([], x.endpoint)).1, { x with
        endpoint := closing.elim (burst.foldl (sendOne s) ([], x.endpoint)).2
          ((burst.foldl (sendOne s) ([], x.endpoint)).2.close s ·) }) :=
  rfl

theorem sendBurst_of_some (held : x.endpoint.slots.get? s = some slot) (balanced : slot.Balanced)
    (burst : List (Bytes × Reliability)) (closing : Option String) :
    ∃ e slot', e.connections = x.endpoint.connections ∧ e.slots.get? s = some slot' ∧
      slot'.connection = slot.connection ∧
      slot'.queue = queued x.endpoint.settings.backlogLimit slot burst ∧
      x.sendBurst s burst closing = (List.replicate burst.length (.ok ()),
        { x with endpoint := closing.elim e (e.close s ·) }) := by
  obtain ⟨slots, sent, there⟩ := foldl_sendOne held burst []
  rw [Slot.foldl_offer, balanced] at there
  refine ⟨{ x.endpoint with slots }, _, rfl, there, rfl, rfl, ?_⟩
  rw [sendBurst_eq, sent]
  rfl

theorem small_queued {limit : Nat} {burst : List (Bytes × Reliability)}
    (small : ∀ f ∈ slot.queue, f.body.length ≤ maxBody) (short : ∀ m ∈ burst, m.1.length ≤ 16777204) :
    ∀ f ∈ queued limit slot burst, f.body.length ≤ maxBody := by
  intro f mem
  rcases List.mem_append.mp mem with mem | mem
  · exact small f mem
  · obtain ⟨data, kept, rfl⟩ := List.mem_map.mp mem
    obtain ⟨r, sent⟩ := mem_of_mem_admitted kept
    have length := short (data, r) sent
    rw [length_body_message, maxBody]
    dsimp only at length
    omega

theorem small_answers (fit : c.Fit) : ∀ f ∈ c.control, f.body.length ≤ maxBody := by
  intro f mem
  obtain ⟨t, rfl⟩ := fit.answers f mem
  simp [body, writeFields, maxBody]

theorem exists_parting {limit : Nat} {slot' : Slot} {burst : List (Bytes × Reliability)}
    (queue : slot'.queue = queued limit slot burst) (small : ∀ f ∈ slot'.queue, f.body.length ≤ maxBody)
    (c : Connection) (reason : String) (lag : Nat) :
    ∃ frames, Outgoing limit c slot burst (some reason) frames ∧
      (∀ f ∈ frames, f.body.length ≤ maxBody) ∧
      (slot'.closing reason lag).written = frames.flatMap frameBytes := by
  have length := length_body_close reason
  have goes := Closing.goes_closing slot' reason lag
  by_cases short : (Utf8.encode reason).length ≤ 16777204
  · have all : ∀ f ∈ slot'.queue ++ [.close reason], f.body.length ≤ maxBody := by
      rw [List.forall_mem_append, List.forall_mem_singleton, length, maxBody]
      exact ⟨small, by omega⟩
    exact ⟨_, (outgoing_of_short short).mpr (by rw [queue]), all, goes.written all⟩
  · have long : maxBody < (Frame.close reason).body.length := by
      rw [length, maxBody]
      omega
    obtain ⟨kept, lost, cut, written, few⟩ := goes.written_of_last_fault rfl small long
    refine ⟨kept, (outgoing_of_long short).mpr ⟨lost, cut.trans queue, few⟩, ?_, written⟩
    exact fun f mem => small f (cut ▸ List.mem_append_left _ mem)

theorem pipe_of_burst (orderly : x.endpoint.Orderly none) (held : x.endpoint.slots.get? s = some slot)
    (there : x.endpoint.connections[slot.connection]? = some c) (stage : c.stage = .open s)
    (small : ∀ f ∈ slot.queue, f.body.length ≤ maxBody) {burst : List (Bytes × Reliability)}
    (short : ∀ m ∈ burst, m.1.length ≤ 16777204) (closing : Option String) :
    ∃ frames, Outgoing x.endpoint.settings.backlogLimit c slot burst closing frames ∧
      (∀ f ∈ frames, f.body.length ≤ maxBody) ∧
      let full := (c.wrote (frames.flatMap frameBytes)).pipe
      ((x.sendBurst s burst closing).2.endpoint.flush slot.connection).connections[slot.connection]?.map
        (·.pipe) = some (closing.elim full fun _ => full.closeNear) := by
  have fit := orderly.fit there
  have reads := orderly.reads there stage
  obtain ⟨e, slot', same, held', connection, queue, sent⟩ :=
    sendBurst_of_some held (orderly.tidy held).balanced burst closing
  have small' : ∀ f ∈ slot'.queue, f.body.length ≤ maxBody := by
    rw [queue]
    exact small_queued small short
  rw [← same, ← connection] at there
  rw [sent, ← connection]
  cases closing with
  | none =>
      have written := flush_of_small there stage reads held' (small_answers fit) small'
      rw [queue] at written small'
      exact ⟨_, rfl, List.forall_mem_append.mpr ⟨small_answers fit, small'⟩, written⟩
  | some reason =>
      obtain ⟨frames, outgoing, fits, written⟩ := exists_parting queue small' c reason e.lag
      have closed := connection_close there stage reads held' reason
      refine ⟨frames, outgoing, fits, ?_⟩
      dsimp only [Option.elim]
      rw [flush_of_ended closed rfl, closed, Option.map_some, written]

/-- What a session sends in a burst is read by the far end in order: every reliable message, every
unreliable one that found fewer messages waiting than the limit, and last the reason if the session
was closed. If its frame is too long the reason is not read, and of the messages before it the last
may be missing, in all fewer bytes than a buffer takes. The count of waiting messages is right
throughout, also while a session that was closed goes through its queue. -/
theorem burst_delivered {settings : EndpointSettings} {bindFault : Option String}
    (attained : Attained settings bindFault x.endpoint) :
    (∀ s slot left, x.endpoint.slots.get? s = some slot →
      (left = slot ∨ ∃ reason k, left = ((slot.closing reason x.endpoint.lag).run k).slot) →
        left.backlog = left.queue.countP isMessage ∧
          ∀ f rest, left.queue = f :: rest → f.isMessage → 0 < left.backlog) ∧
    ∀ s slot c burst closing, x.endpoint.slots.get? s = some slot →
      x.endpoint.connections[slot.connection]? = some c → c.stage = .open s →
      (∀ f ∈ slot.queue, f.body.length ≤ 16777216) → (∀ m ∈ burst, m.1.length ≤ 16777204) →
      let sent := x.sendBurst s burst closing
      let written := (sent.2.endpoint.flush slot.connection).takeWritten slot.connection
      sent.1 = List.replicate burst.length (.ok ()) ∧
        (closing.isSome → written.2.1 = true) ∧
        ∃ earlier frames : List Frame, c.pipe.toFar = earlier.flatMap frameBytes ∧
          Outgoing x.endpoint.settings.backlogLimit c slot burst closing frames ∧
          ∀ turns, arrived turns = written.1 → Ended turns →
            run turns = ⟨{}, (earlier ++ frames).map .frame⟩ := by
  have orderly := attained.orderly
  constructor
  · intro s slot left held now
    have first := (orderly.tidy held).balanced
    have balanced : left.Balanced := by
      rcases now with rfl | ⟨reason, k, rfl⟩
      · exact first
      · exact (first.closing reason _).run k
    exact ⟨balanced, fun f rest queue message => balanced.pos queue message⟩
  · intro s slot c burst closing held there stage small short sent written
    obtain ⟨e, slot', -, -, -, -, all⟩ :=
      sendBurst_of_some held (orderly.tidy held).balanced burst closing
    obtain ⟨frames, outgoing, fits, ended⟩ := pipe_of_burst orderly held there stage small short closing
    obtain ⟨c', there', pipe⟩ := Option.map_eq_some_iff.mp ended
    have collected : written = _ := takeWritten_of_some there'
    obtain ⟨earlier, whole, toFar⟩ := (orderly.fit there).whole
    refine ⟨by rw [show sent = _ from all], ?_, earlier, frames, toFar, outgoing, ?_⟩
    · intro closes
      obtain ⟨reason, rfl⟩ := Option.isSome_iff_exists.mp closes
      rw [collected, pipe]
      rfl
    · intro turns bytes ended
      apply run_of_frames _ _ ended
      · exact List.forall_mem_append.mpr ⟨whole, fits⟩
      · rw [bytes, collected, pipe, List.flatMap_append, ← toFar]
        cases closing <;> rfl

def acknowledged : Endpoint :=
  (((({ settings := { backlogLimit := 1 } } : Endpoint).perform (.connect "@server" 0 ⟨0⟩)).perform
    (.established 0)).perform (.far 0 (.write (frameBytes .helloAck)))).perform (.collect 0)

theorem attained_acknowledged : Attained { backlogLimit := 1 } none acknowledged :=
  .act _ (.act _ (.act _ (.act _ .start)))

theorem acknowledged_open :
    ∃ slot c, acknowledged.slots.get? ⟨1⟩ = some slot ∧ slot.connection = 0 ∧ slot.queue = [] ∧
      acknowledged.connections[slot.connection]? = some c ∧ c.stage = .open ⟨1⟩ ∧
      c.pipe.toFar = [] := by
  have slots : (acknowledged.slots.get? ⟨1⟩).map (fun slot => (slot.connection, slot.queue)) =
      some (0, []) := by decide +kernel
  have connections : acknowledged.connections[0]?.map (fun c => (c.stage, c.pipe.toFar)) =
      some (.open ⟨1⟩, []) := by decide +kernel
  obtain ⟨slot, held, fields⟩ := Option.map_eq_some_iff.mp slots
  obtain ⟨c, there, parts⟩ := Option.map_eq_some_iff.mp connections
  obtain ⟨connection, queue⟩ := Prod.mk.inj fields
  obtain ⟨stage, toFar⟩ := Prod.mk.inj parts
  rw [← connection] at there
  exact ⟨slot, c, held, connection, queue, there, stage, toFar⟩

theorem burst_delivered_of_three :
    let burst := [([1], .unreliable), ([2], .unreliable), ([3], .reliable)]
    let sent := (({ endpoint := acknowledged } : Exchange).sendBurst ⟨1⟩ burst (some "bye")).2
    let written := (sent.endpoint.flush 0).takeWritten 0
    Attained { backlogLimit := 1 } none acknowledged ∧ written.2.1 = true ∧
      (run [.arrive written.1, .poll, .poll, .poll, .poll]).given =
        [.frame (.message [1]), .frame (.message [3]), .frame (.close "bye")] := by
  intro burst sent written
  obtain ⟨slot, c, held, connection, queue, there, stage, toFar⟩ := acknowledged_open
  obtain ⟨-, closed, earlier, frames, whole, outgoing, read⟩ :=
    (burst_delivered (x := { endpoint := acknowledged }) attained_acknowledged).2 ⟨1⟩ slot c burst
      (some "bye") held there stage (by simp [queue]) (by decide)
  rw [connection] at closed read
  have nothing : earlier = [] := eq_nil_of_unwritten (whole.symm.trans toFar)
  refine ⟨attained_acknowledged, by simpa only [written, sent] using closed rfl, ?_⟩
  have ended : Ended [.arrive written.1, .poll, .poll, .poll, .poll] :=
    ⟨[.arrive written.1, .poll, .poll, .poll], rfl, by decide +kernel⟩
  rw [outgoing_of_short (by decide +kernel)] at outgoing
  rw [read _ (by simp [arrived, written, sent]) ended, nothing, outgoing, queued, queue]
  decide +kernel

theorem length_encode_replicate (k : Nat) :
    (Utf8.encode (String.ofList (List.replicate k 'a'))).length = k := by
  rw [Utf8.encode_eq, String.toList_ofList, List.length_flatMap, List.map_replicate,
    List.sum_replicate_nat]
  exact Nat.mul_one k

/-- The far end of a session that is closed with a longer reason reads no frame. -/
theorem long_reason_unsaid :
    let reason := String.ofList (List.replicate 16777205 'a')
    let sent := (({ endpoint := acknowledged } : Exchange).sendBurst ⟨1⟩ [] (some reason)).2
    let written := (sent.endpoint.flush 0).takeWritten 0
    Attained { backlogLimit := 1 } none acknowledged ∧
      acknowledged.connections[0]?.map (·.stage) = some (.open ⟨1⟩) ∧
      Ended [.arrive written.1, .poll] ∧ (run [.arrive written.1, .poll]).given = [] := by
  intro reason sent written
  have long : ¬ (Utf8.encode reason).length ≤ 16777204 := by
    rw [length_encode_replicate]
    decide
  -- from here on only its length matters, and nothing may try to write it out
  clear_value reason
  obtain ⟨slot, c, held, connection, queue, there, stage, toFar⟩ := acknowledged_open
  obtain ⟨frames, outgoing, -, ended⟩ :=
    pipe_of_burst (x := { endpoint := acknowledged }) attained_acknowledged.orderly held there stage
      (by simp [queue]) (List.forall_mem_nil _) (some reason)
  obtain ⟨c', there', pipe⟩ := Option.map_eq_some_iff.mp ended
  have silent : frames = [] := by
    obtain ⟨lost, cut, -⟩ := (outgoing_of_long long).mp outgoing
    rw [queued, queue] at cut
    exact (List.append_eq_nil_iff.mp cut).1
  have nothing : c'.pipe.toFar = [] := by
    rw [pipe, silent]
    simp [Connection.wrote, Pipe.closeNear, toFar]
  rw [connection] at there there'
  have unwritten : written.1 = [] := (congrArg Prod.fst (takeWritten_of_some there')).trans nothing
  rw [unwritten, there, Option.map_some, stage]
  exact ⟨attained_acknowledged, rfl, ⟨[.arrive []], rfl, rfl⟩, rfl⟩

end Exchange
end StreamTunnel
