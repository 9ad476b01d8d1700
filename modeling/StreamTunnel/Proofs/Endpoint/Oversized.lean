import Mathlib.Data.List.TakeWhile
import Mathlib.Data.Set.List
import StreamTunnel.Proofs.Endpoint.Burst
import StreamTunnel.Proofs.Endpoint.Grammar

namespace StreamTunnel
open StreamTunnel.Frame StreamTunnel.Frame.Reading Exchange

theorem Slot.Tidy.exists_messages {slot : Slot} (tidy : slot.Tidy) :
    ∃ waiting : List Bytes, waiting.map .message = slot.queue := by
  have range : slot.queue ∈ Set.range (List.map Frame.message) := by
    rw [Set.range_list_map]
    exact fun f mem => (tidy.messages f mem).imp fun _ => Eq.symm
  exact range

namespace Endpoint
open Connection

variable {e e' : Endpoint} {n : Nat} {s : SessionId} {c : Connection} {slot : Slot}
  {front back : List Frame} {big : Frame}

structure Stopped (n : Nat) (s : SessionId) (pipe : Pipe) (told : List ChannelEvent) (e : Endpoint) :
    Prop where
  pipe : ∃ c, e.connections[n]? = some c ∧ c.stage = .ended ∧ c.pipe = pipe
  gone : e.slots.get? s = none
  events : e.events = told

theorem stopped_fail (there : e.connections[n]? = some c) (held : e.slots.get? s = some slot)
    (err : ChannelError) :
    Stopped n s c.pipe.closeNear (e.events ++ [.closed s err.toReason]) (e.fail n s err) where
  pipe := by
    refine ⟨{ c with stage := .ended, pipe := c.pipe.closeNear }, ?_, rfl, rfl⟩
    rw [fail, endConnection, connections_modifyConnection, if_pos rfl, connections_finish, there]
    rfl
  gone := by
    rw [fail, endConnection, slots_modifyConnection, slots_finish, if_pos rfl]
  events := by
    have contained : e.slots.contains s = true := by rw [Table.contains, held]; rfl
    rw [fail, endConnection, finish, if_pos contained]
    rfl

theorem stopped_writeQueue (there : e.connections[n]? = some c) (reads : c.pipe.farGone = false)
    (held : e.slots.get? s = some slot) (small : ∀ f ∈ front, f.body.length ≤ maxBody)
    (long : maxBody < big.body.length) (back : List Frame) :
    Stopped n s (wrote (front.flatMap frameBytes) c).pipe.closeNear
      (e.events ++ [.closed s (ChannelError.ofFrame .tooBig).toReason])
      (e.writeQueue n s (front ++ big :: back)) := by
  induction front generalizing c slot e with
  | nil =>
      have held' : (e.modifySlot s (Slot.taken big back)).slots.get? s = some (slot.taken big back) := by
        rw [modifySlot, Table.get?_modify, if_pos rfl, held]
        rfl
      have failed := stopped_fail (e := e.modifySlot s (Slot.taken big back)) (n := n) there held'
        (.ofFrame .tooBig)
      rw [List.nil_append, writeQueue, writeNext, writeFrame, wire_of_big long, List.flatMap_nil, wrote_nil]
      exact failed
  | cons f rest ih =>
      obtain ⟨first, later⟩ := List.forall_mem_cons.mp small
      have held' : (e.modifySlot s (Slot.taken f (rest ++ big :: back))).slots.get? s =
          some (slot.taken f (rest ++ big :: back)) := by
        rw [modifySlot, Table.get?_modify, if_pos rfl, held]
        rfl
      have taken : (e.modifySlot s (Slot.taken f (rest ++ big :: back))).connections[n]? = some c :=
        there
      have after := ih (writeBytes_of_some taken reads (frameBytes f)) reads held' later
      rw [List.cons_append, writeQueue, writeNext, writeFrame, wire_of_small first, List.flatMap_cons,
        wrote_append]
      exact after

theorem stopped_flush (there : e.connections[n]? = some c) (stage : c.stage = .open s)
    (reads : c.pipe.farGone = false) (held : e.slots.get? s = some slot)
    (answers : ∀ f ∈ c.control, f.body.length ≤ maxBody) (queue : slot.queue = front ++ big :: back)
    (small : ∀ f ∈ front, f.body.length ≤ maxBody) (long : maxBody < big.body.length) :
    Stopped n s (wrote ((c.control ++ front).flatMap frameBytes) c).pipe.closeNear
      (e.events ++ [.closed s (ChannelError.ofFrame .tooBig).toReason]) (e.flush n) := by
  obtain ⟨e', flushed, held', events, there'⟩ := flush_of_open there stage reads held answers
  have stopped := stopped_writeQueue there' reads held' small long back
  rw [flushed, queue, ← events, List.flatMap_append, wrote_append]
  exact stopped

theorem stopped_close (there : e.connections[slot.connection]? = some c) (stage : c.stage = .open s)
    (reads : c.pipe.farGone = false) (held : e.slots.get? s = some slot)
    (queue : slot.queue = front ++ big :: back) (small : ∀ f ∈ front, f.body.length ≤ maxBody)
    (long : maxBody < big.body.length) (reason : String) :
    Stopped slot.connection s (wrote (front.flatMap frameBytes) c).pipe.closeNear e.events
      (e.close s reason) := by
  have goes := Closing.goes_closing slot reason e.lag
  have behind : (slot.closing reason e.lag).slot.queue = front ++ big :: (back ++ [.close reason]) := by
    rw [Slot.closing, queue, List.append_assoc]
    rfl
  have written := goes.written_of_fault behind small long (by simp)
  obtain ⟨gone, events⟩ := slot_close e s reason
  refine ⟨⟨_, connection_close there stage reads held reason, rfl, ?_⟩, gone, events⟩
  rw [written]

theorem Stopped.flush {pipe : Pipe} {told : List ChannelEvent} (h : Stopped n s pipe told e) :
    Stopped n s pipe told (e.flush n) := by
  obtain ⟨c, there, ended, -⟩ := h.pipe
  rwa [flush_of_ended there ended]

end Endpoint

namespace EndpointRun
open Endpoint Connection

variable {x : EndpointRun} {s : SessionId} {slot : Slot}

theorem step_send (s : SessionId) (data : Bytes) (r : Reliability) :
    x.step (.send s data r) = { x with endpoint := (x.endpoint.send s data r).2 } := by
  have silent := (outline_send (e := x.endpoint) s data r).2
  rw [step, perform, silent, List.drop_length]
  simp [marks]

theorem run_sends (held : x.endpoint.slots.get? s = some slot) (burst : List Bytes) :
    ∃ slots slot', x.run (burst.map (.send s · .reliable)) =
        { x with endpoint := { x.endpoint with slots } } ∧
      slots.get? s = some slot' ∧ slot'.connection = slot.connection ∧
      slot'.queue = slot.queue ++ burst.map .message := by
  induction burst generalizing x slot with
  | nil => exact ⟨_, slot, rfl, held, rfl, by simp⟩
  | cons data rest ih =>
      obtain ⟨slots, sent, held'⟩ := send_of_some held data .reliable
      have stepped : x.step (.send s data .reliable) =
          { x with endpoint := { x.endpoint with slots } } := by rw [step_send, sent]
      obtain ⟨slots', slot', later, held'', connection, queue⟩ :=
        ih (x := { x with endpoint := { x.endpoint with slots } }) held'
      refine ⟨slots', slot', ?_, held'', connection, ?_⟩
      · rw [List.map_cons, run, List.foldl_cons, stepped]
        exact later
      · rw [queue]
        simp [Slot.offer]

def burstActs (n : Nat) (s : SessionId) (burst : List Bytes) (closing : Option String) :
    List EndpointAct :=
  burst.map (.send s · .reliable) ++ closing.toList.map (.close s ·) ++ [.flush n]

/-- What is written of messages that wait: all up to the first that is too long. -/
def writable (messages : List Bytes) : List Frame :=
  (messages.takeWhile (·.length ≤ 16777204)).map .message

theorem small_writable {messages : List Bytes} :
    ∀ f ∈ writable messages, f.body.length ≤ maxBody := by
  intro f mem
  obtain ⟨data, kept, rfl⟩ := List.mem_map.mp mem
  have short := List.mem_takeWhile_imp kept
  simp only [decide_eq_true_eq] at short
  rw [length_body_message, maxBody]
  omega

theorem exists_writable {messages : List Bytes} (long : ∃ data ∈ messages, 16777204 < data.length) :
    ∃ big back, messages.map .message = writable messages ++ big :: back ∧
      maxBody < big.body.length := by
  cases rest : messages.dropWhile (·.length ≤ 16777204) with
  | nil =>
      obtain ⟨data, mem, long⟩ := long
      have short := List.dropWhile_eq_nil_iff.mp rest data mem
      simp only [decide_eq_true_eq] at short
      omega
  | cons data back =>
      refine ⟨.message data, back.map .message, ?_, ?_⟩
      · rw [writable, ← List.map_cons, ← List.map_append, ← rest, List.takeWhile_append_dropWhile]
      · have first := List.head?_dropWhile_not (fun d : Bytes => decide (d.length ≤ 16777204)) messages
        simp only [rest, List.head?_cons, decide_eq_false_iff_not] at first
        rw [length_body_message, maxBody]
        omega

theorem run_burst (orderly : x.endpoint.Orderly none) (held : x.endpoint.slots.get? s = some slot)
    {c : Connection} (there : x.endpoint.connections[slot.connection]? = some c)
    (stage : c.stage = .open s) {waiting burst : List Bytes}
    (queue : slot.queue = waiting.map .message) (long : ∃ data ∈ burst, 16777204 < data.length)
    (closing : Option String) :
    let y := x.run (burstActs slot.connection s burst closing)
    let answers := if closing.isSome then [] else c.control
    let told := if closing.isSome then [] else [.closed s (.problem "IO error: frame size too big")]
    Stopped slot.connection s
        (c.wrote ((answers ++ writable (waiting ++ burst)).flatMap frameBytes)).pipe.closeNear
        (x.endpoint.events ++ told) y.endpoint ∧
      y.history = x.history ++ (closing.toList.map fun _ => .close s) ++
        told.map (.event slot.connection) := by
  intro y answers told
  have fit := orderly.fit there
  have reads := orderly.reads there stage
  obtain ⟨slots, slot', sent, held', connection, queued⟩ := run_sends held burst
  obtain ⟨big, back, cut, tooLong⟩ : ∃ big back, (waiting ++ burst).map .message =
      writable (waiting ++ burst) ++ big :: back ∧ maxBody < big.body.length := by
    apply exists_writable
    obtain ⟨data, mem, long⟩ := long
    exact ⟨data, List.mem_append_right _ mem, long⟩
  have queue' : slot'.queue = writable (waiting ++ burst) ++ big :: back := by
    rw [queued, queue, ← List.map_append, cut]
  let z : EndpointRun := { x with endpoint := { x.endpoint with slots } }
  have there' : z.endpoint.connections[slot'.connection]? = some c := by rw [connection]; exact there
  have ran : y = (z.run (closing.toList.map (.close s ·))).step (.flush slot'.connection) := by
    rw [connection]
    simp only [y, burstActs, run_append, sent]
    rfl
  rw [ran, ← connection]
  cases closing with
  | none =>
      have stopped := stopped_flush there' stage reads held' (small_answers fit) queue' small_writable
        tooLong
      refine ⟨stopped, ?_⟩
      have flushed : (z.endpoint.perform (.flush slot'.connection)).events = z.endpoint.events ++ told :=
        stopped.events
      simp only [Option.toList, List.map_nil, run, List.foldl_nil, step, flushed, List.drop_left, marks,
        reporting]
      rfl
  | some reason =>
      let w := z.step (.close s reason)
      have closed := (stopped_close there' stage reads held' queue' small_writable tooLong reason).flush
      have silent : (w.endpoint.perform (.flush slot'.connection)).events = w.endpoint.events :=
        closed.events.trans (slot_close z.endpoint s reason).2.symm
      refine ⟨?_, ?_⟩
      · rw [show told = [] from rfl, List.append_nil]
        exact closed
      have last : (w.step (.flush slot'.connection)).history = w.history := by
        rw [step, silent, List.drop_length]
        simp [marks]
      exact last.trans ((history_close s reason).trans (List.append_nil _).symm)

theorem reported_told (told : List ChannelEvent) (n : Nat) (own : ∀ ev ∈ told, ev.session = s) :
    reported s (told.map (.event n)) = told := by
  have shown : (told.map (Mark.event n)).filterMap Mark.event? = told := by
    rw [List.filterMap_map]
    exact List.filterMap_some
  rw [reported, shown, List.filter_eq_self]
  simpa using own

/-- A message that is too long ends its session. The far end reads what was queued before it, in
order, and nothing else but answers to pings; then the stream ends. The end is reported once, as
found on this side, unless the session was closed from this side; then it is not reported. -/
theorem oversized_ends_session (settings : EndpointSettings) (bindFault : Option String)
    (acts : List EndpointAct) :
    let x := (start settings bindFault).run acts
    ∀ s slot c (burst : List Bytes) (closing : Option String),
      x.endpoint.slots.get? s = some slot → x.endpoint.connections[slot.connection]? = some c →
      c.stage = .open s → (∃ data ∈ burst, 16777204 < data.length) →
      let y := x.run (burstActs slot.connection s burst closing)
      let written := y.endpoint.takeWritten slot.connection
      let answers := if closing.isSome then [] else c.control
      let told := if closing.isSome then [] else [.closed s (.problem "IO error: frame size too big")]
      (∃ (earlier : List Frame) (waiting : List Bytes),
        c.pipe.toFar = earlier.flatMap frameBytes ∧ slot.queue = waiting.map .message ∧
        (∀ f ∈ answers, ∃ t, f = .pong t) ∧
        let frames := earlier ++ answers ++ writable (waiting ++ burst)
        written.1 = frames.flatMap frameBytes ∧
        ∀ turns, arrived turns = written.1 → Ended turns →
          Reading.run turns = ⟨{}, frames.map .frame⟩) ∧
      written.2.1 = true ∧ y.endpoint.slots.contains s = false ∧
      reported s y.history = reported s x.history ++ told ∧
      ∀ later, (made (y.run later).history).length ≤ UInt64.size →
        (∀ why, .closed s why ∉ reported s x.history) ∧
        reported s (y.run later).history = reported s x.history ++ told := by
  intro x s slot c burst closing held there stage long y written answers told
  have orderly := (attained_run settings bindFault acts).orderly
  have fit := orderly.fit there
  obtain ⟨earlier, whole, toFar⟩ := fit.whole
  obtain ⟨waiting, queue⟩ := (orderly.tidy held).exists_messages
  obtain ⟨stopped, grown⟩ := run_burst orderly held there stage queue.symm long closing
  obtain ⟨c', there', -, pipe⟩ := stopped.pipe
  have collected : written = _ := takeWritten_of_some there'
  have silent : reported s y.history = reported s x.history ++ told := by
    rw [grown, reported_append, reported_append, reported_told]
    · cases closing <;> exact congrArg (· ++ _) (List.append_nil _)
    · cases closing <;> simp [ChannelEvent.session]
  have pongs : ∀ f ∈ answers, ∃ t, f = .pong t := by
    cases closing with
    | none => exact fit.answers
    | some reason => exact List.forall_mem_nil _
  have wire : written.1 =
      (earlier ++ answers ++ writable (waiting ++ burst)).flatMap frameBytes := by
    rw [collected, pipe]
    simp [wrote, Pipe.closeNear, toFar, answers]
  refine ⟨⟨earlier, waiting, toFar, queue.symm, pongs, wire, ?_⟩, ?_, ?_, silent, ?_⟩
  · intro turns bytes ended
    refine run_of_frames ?_ (bytes.trans wire) ended
    simp only [List.forall_mem_append]
    refine ⟨⟨whole, ?_⟩, small_writable⟩
    cases closing with
    | none => exact small_answers fit
    | some reason => exact List.forall_mem_nil _
  · rw [collected, pipe]
    rfl
  · rw [Table.contains, stopped.gone]
    rfl
  · intro later few
    have few' : (made y.history).length ≤ UInt64.size := few_of_run later few
    obtain ⟨-, -, -, kept⟩ := kept_run (kept_start settings bindFault) acts (few_of_run _ few')
    obtain ⟨-, -, -, kept'⟩ := kept_run kept _ few'
    have present : x.endpoint.outline.slot s ≠ none := by simp [outline, held]
    have known : s ∈ made y.history := by
      rw [grown, made_append, made_append]
      exact List.mem_append_left _ (List.mem_append_left _ (kept.known present))
    exact ⟨kept.not_closed present, (reported_of_gone kept' known stopped.gone later few).trans silent⟩

theorem oversized_ends_session_of_three :
    let acts : List EndpointAct := [.connect "@server" 0 ⟨0⟩, .established 0,
      .far 0 (.write (frameBytes .helloAck)), .collect 0]
    let x := (start { backlogLimit := 1 } none).run acts
    let y := x.run (burstActs 0 ⟨1⟩ [[1], List.replicate 16777205 0, [2]] none)
    let written := y.endpoint.takeWritten 0
    x.endpoint.connections[0]?.map (·.stage) = some (.open ⟨1⟩) ∧
      Reading.run [.arrive written.1, .poll, .poll] = ⟨{}, [.frame (.message [1])]⟩ ∧
      written.2.1 = true ∧ y.endpoint.slots.contains ⟨1⟩ = false ∧
      reported ⟨1⟩ y.history = [.connected ⟨1⟩ "@server",
        .closed ⟨1⟩ (.problem "IO error: frame size too big")] := by
  intro acts x
  obtain ⟨big, length, replicate⟩ : ∃ big : Bytes, 16777204 < big.length ∧
      big = List.replicate 16777205 0 := ⟨_, by rw [List.length_replicate]; decide, rfl⟩
  -- from here on only its length matters, and nothing may try to write it out
  rw [← replicate]
  intro y written
  obtain ⟨slot, c, held, connection, queue, there, stage, toFar⟩ := acknowledged_open
  have quiet : acknowledged.connections[0]?.map (·.control) = some [] := by decide +kernel
  have unanswered : c.control = [] := by
    rw [← connection, there] at quiet
    exact Option.some.inj quiet
  have long : ∃ data ∈ [[1], big, [2]], 16777204 < data.length := ⟨big, by simp, length⟩
  have here : x.endpoint = acknowledged := rfl
  rw [← here] at held there
  have ends := oversized_ends_session { backlogLimit := 1 } none acts ⟨1⟩ slot c [[1], big, [2]] none held
    there stage long
  obtain ⟨⟨earlier, waiting, sent, same, -, wire, -⟩, closed, gone, told, -⟩ := ends
  obtain rfl : waiting = [] := by simpa [queue] using same.symm
  obtain rfl : earlier = [] := eq_nil_of_unwritten (sent.symm.trans toFar)
  have first : writable ([] ++ [[1], big, [2]]) = [.message [1]] := by
    simp [writable, Nat.not_le_of_lt length]
  simp only [first, unanswered, connection] at wire
  rw [connection] at closed gone told
  refine ⟨?_, ?_, closed, gone, ?_⟩
  · rw [← stage, ← connection]
    exact congrArg (Option.map _) there
  · rw [show written.1 = _ from wire]
    decide +kernel
  · exact told.trans (by decide +kernel)

end EndpointRun
end StreamTunnel
