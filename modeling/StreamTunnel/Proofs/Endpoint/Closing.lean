import StreamTunnel.Proofs.Endpoint.Open

namespace StreamTunnel
open Exchange Frame

namespace Frame.Sink

variable {k : Sink} {frames : List Frame} {f : Frame}

/-- What a sink that was fed these frames has written and what it holds. -/
structure Took (frames : List Frame) (k : Sink) : Prop where
  small : ∀ f ∈ frames, f.body.length ≤ maxBody
  parts : ∃ sent held, frames = sent ++ held ++ k.waiting.toList ∧
    k.written = sent.flatMap frameBytes ∧ k.buffer = held.flatMap frameBytes

theorem took_nil : Took [] {} :=
  ⟨by simp, [], [], rfl, rfl, rfl⟩

theorem Took.spill (h : k.Took frames) : k.spill.Took frames := by
  obtain ⟨sent, held, cut, written, buffer⟩ := h.parts
  refine ⟨h.small, sent ++ held, [], ?_, ?_, rfl⟩
  · rw [List.append_nil]
    exact cut
  · rw [Sink.spill, written, buffer, List.flatMap_append]

theorem Took.ready (h : k.Took frames) : k.ready.Took frames := by
  rw [Sink.ready]
  split
  · exact h.spill
  · exact h

theorem waiting_ready (k : Sink) : k.ready.waiting = k.waiting := by
  rw [Sink.ready]
  split <;> rfl

theorem length_buffer_ready (k : Sink) : k.ready.buffer.length < capacity := by
  rw [Sink.ready]
  split
  · exact Nat.zero_lt_succ 8191
  · next room => exact Nat.lt_of_not_le room

theorem Took.encode (h : k.Took frames) (idle : k.waiting = none)
    (small : f.body.length ≤ maxBody) :
    ∃ k', k.encode f = (true, k') ∧ k'.waiting = none ∧ k'.Took (frames ++ [f]) := by
  have idle' : k.ready.waiting = none := (waiting_ready k).trans idle
  obtain ⟨sent, held, cut, written, buffer⟩ := h.ready.parts
  refine ⟨{ k.ready with buffer := k.ready.buffer ++ frameBytes f }, ?_, idle', ?_⟩
  · rw [Sink.encode, Endpoint.wire_of_small small]
  refine ⟨List.forall_mem_append.mpr ⟨h.small, by simpa using small⟩, sent, held ++ [f], ?_, written, ?_⟩
  · rw [cut]
    simp [idle']
  · simp [buffer]

theorem Took.advance (h : k.Took frames) :
    ∃ k', k.advance = (true, k') ∧ k'.waiting = none ∧ k'.Took frames := by
  cases waiting : k.waiting with
  | none => exact ⟨k, by rw [Sink.advance, waiting], waiting, h⟩
  | some f =>
      obtain ⟨small, sent, held, cut, written, buffer⟩ := h
      rw [waiting, Option.toList] at cut
      rw [cut, List.forall_mem_append, List.forall_mem_singleton] at small
      have before : Took (sent ++ held) { k with waiting := none } :=
        ⟨small.1, sent, held, (List.append_nil _).symm, written, buffer⟩
      rw [cut, Sink.advance, waiting]
      exact before.encode rfl small.2

theorem Took.feed (h : k.Took frames) (small : f.body.length ≤ maxBody) :
    ∃ k', k.feed f = (true, k') ∧ k'.Took (frames ++ [f]) := by
  obtain ⟨k', went, idle, took⟩ := h.advance
  obtain ⟨sent, held, cut, written, buffer⟩ := took.parts
  rw [Sink.feed, went]
  refine ⟨_, rfl, List.forall_mem_append.mpr ⟨h.small, by simpa using small⟩, sent, held, ?_, written,
    buffer⟩
  rw [cut, idle, Option.toList, List.append_nil]
  rfl

theorem Took.flush (h : k.Took frames) :
    ∃ k', k.flush = (true, k') ∧ k'.Took frames ∧ k'.written = frames.flatMap frameBytes := by
  obtain ⟨k', went, idle, took⟩ := h.advance
  obtain ⟨sent, held, cut, written, buffer⟩ := took.parts
  rw [Sink.flush, went]
  refine ⟨_, rfl, took.spill, ?_⟩
  rw [Sink.spill, written, buffer, cut, idle, Option.toList, List.append_nil, List.flatMap_append]

theorem Took.send (h : k.Took frames) (small : f.body.length ≤ maxBody) :
    ∃ k', k.send f = (true, k') ∧ k'.Took (frames ++ [f]) := by
  obtain ⟨k', fed, took⟩ := h.feed small
  obtain ⟨k'', flushed, took', -⟩ := took.flush
  exact ⟨k'', by rw [Sink.send, fed]; exact flushed, took'⟩

/-- A frame that is too long waits behind these. -/
structure Stuck (frames : List Frame) (k : Sink) : Prop where
  before : Took frames { k with waiting := none }
  last : ∃ f, k.waiting = some f ∧ maxBody < f.body.length

theorem Took.feed_of_big (h : k.Took frames) (big : maxBody < f.body.length) :
    ∃ k', k.feed f = (true, k') ∧ k'.Stuck frames := by
  obtain ⟨k', went, idle, took⟩ := h.advance
  rw [Sink.feed, went]
  refine ⟨_, rfl, ?_, f, rfl, big⟩
  rwa [← idle]

theorem Stuck.advance (h : k.Stuck frames) :
    ∃ k', k.advance = (false, k') ∧ k'.Took frames ∧ k'.waiting = none ∧ k'.buffer.length < capacity := by
  obtain ⟨before, f, waiting, big⟩ := h
  refine ⟨_, ?_, before.ready, waiting_ready _, length_buffer_ready _⟩
  rw [Sink.advance, waiting]
  dsimp only
  rw [Sink.encode, Endpoint.wire_of_big big]

theorem Stuck.feed (h : k.Stuck frames) (f : Frame) : ∃ k', k.feed f = (false, k') ∧ k'.Took frames := by
  obtain ⟨k', failed, took, -⟩ := h.advance
  exact ⟨k', by rw [Sink.feed, failed], took⟩

theorem Stuck.flush (h : k.Stuck frames) :
    ∃ k', k.flush = (false, k') ∧ k'.Took frames ∧ k'.waiting = none ∧ k'.buffer.length < capacity := by
  obtain ⟨k', failed, rest⟩ := h.advance
  exact ⟨k', by rw [Sink.flush, failed], rest⟩

theorem Stuck.send (h : k.Stuck frames) (f : Frame) : ∃ k', k.send f = (false, k') ∧ k'.Took frames := by
  obtain ⟨k', failed, took⟩ := h.feed f
  exact ⟨k', by rw [Sink.send, failed], took⟩

theorem Took.send_of_big (h : k.Took frames) (big : maxBody < f.body.length) :
    ∃ k', k.send f = (false, k') ∧ k'.Took frames := by
  obtain ⟨k', fed, stuck⟩ := h.feed_of_big big
  obtain ⟨k'', failed, took, -⟩ := stuck.flush
  exact ⟨k'', by rw [Sink.send, fed]; exact failed, took⟩

end Frame.Sink

namespace Closing
open Frame.Sink

variable {w : Closing} {frames front back rest : List Frame} {f big : Frame}

theorem run_add (j k : Nat) (w : Closing) : w.run (j + k) = (w.run j).run k := by
  induction j generalizing w with
  | zero => rw [Nat.zero_add]; rfl
  | succ j ih =>
      rw [Nat.succ_add]
      exact ih w.next

theorem run_of_failed (failed : w.hasFailed = true) (k : Nat) : w.run k = w := by
  have stays : w.next = w := by rw [Closing.next, failed]
  induction k with
  | zero => rfl
  | succ k ih => rwa [Closing.run, stays]

structure Goes (frames : List Frame) (w : Closing) : Prop where
  fine : w.hasFailed = false
  took : w.sink.Took frames

theorem goes_closing (slot : Slot) (reason : String) (lag : Nat) : (slot.closing reason lag).Goes [] :=
  ⟨rfl, took_nil⟩

theorem next_of_cons (fine : w.hasFailed = false) (queue : w.slot.queue = f :: rest) :
    let (goes, sink) := if w.lag = 0 then w.sink.feed f else w.sink.send f
    w.next = { slot := w.slot.taken f rest, lag := w.lag - 1, sink, hasFailed := !goes } := by
  rw [Closing.next, fine, queue]

theorem Goes.next (h : w.Goes frames) (queue : w.slot.queue = f :: rest)
    (small : f.body.length ≤ maxBody) : w.next.Goes (frames ++ [f]) ∧ w.next.slot.queue = rest := by
  obtain ⟨k, wrote, took⟩ :
      ∃ k, (if w.lag = 0 then w.sink.feed f else w.sink.send f) = (true, k) ∧ k.Took (frames ++ [f]) := by
    split
    · exact h.took.feed small
    · exact h.took.send small
  have next := next_of_cons h.fine queue
  rw [wrote] at next
  rw [next]
  exact ⟨⟨rfl, took⟩, rfl⟩

theorem Goes.run (h : w.Goes frames) (queue : w.slot.queue = front ++ rest)
    (small : ∀ f ∈ front, f.body.length ≤ maxBody) :
    (w.run front.length).Goes (frames ++ front) ∧ (w.run front.length).slot.queue = rest := by
  induction front generalizing w frames with
  | nil =>
      rw [List.append_nil]
      exact ⟨h, queue⟩
  | cons f front ih =>
      obtain ⟨first, later⟩ := List.forall_mem_cons.mp small
      obtain ⟨goes, queue'⟩ := h.next queue first
      rw [List.append_cons]
      exact ih goes queue' later

structure Failed (frames : List Frame) (w : Closing) : Prop where
  failed : w.hasFailed = true
  took : w.sink.Took frames

theorem Failed.run (h : w.Failed frames) (k : Nat) : (w.run k).Failed frames := by
  rwa [run_of_failed h.failed]

theorem Goes.next_of_big (h : w.Goes frames) (queue : w.slot.queue = big :: rest)
    (long : maxBody < big.body.length) :
    w.next.Failed frames ∨
      w.next.hasFailed = false ∧ w.next.sink.Stuck frames ∧ w.next.slot.queue = rest := by
  have next := next_of_cons h.fine queue
  by_cases together : w.lag = 0
  · obtain ⟨k, fed, stuck⟩ := h.took.feed_of_big long
    rw [if_pos together, fed] at next
    rw [next]
    exact .inr ⟨rfl, stuck, rfl⟩
  · obtain ⟨k, failed, took⟩ := h.took.send_of_big long
    rw [if_neg together, failed] at next
    rw [next]
    exact .inl ⟨rfl, took⟩

theorem failed_next (fine : w.hasFailed = false) (stuck : w.sink.Stuck frames)
    (queue : w.slot.queue = f :: rest) : w.next.Failed frames := by
  obtain ⟨k, failed, took⟩ :
      ∃ k, (if w.lag = 0 then w.sink.feed f else w.sink.send f) = (false, k) ∧ k.Took frames := by
    split
    · exact stuck.feed f
    · exact stuck.send f
  have next := next_of_cons fine queue
  rw [failed] at next
  rw [next]
  exact ⟨rfl, took⟩

theorem written_of_took {k : Sink} (took : k.Took frames) : k.flush.2.written = frames.flatMap frameBytes := by
  obtain ⟨k', flushed, -, written⟩ := took.flush
  rw [flushed]
  exact written

theorem Goes.written (h : w.Goes []) (small : ∀ f ∈ w.slot.queue, f.body.length ≤ maxBody) :
    w.written = w.slot.queue.flatMap frameBytes :=
  written_of_took (h.run (List.append_nil _).symm small).1.took

theorem Goes.written_of_fault (h : w.Goes []) (queue : w.slot.queue = front ++ big :: back)
    (small : ∀ f ∈ front, f.body.length ≤ maxBody) (long : maxBody < big.body.length) (more : back ≠ []) :
    w.written = front.flatMap frameBytes := by
  obtain ⟨f, rest, rfl⟩ := List.exists_cons_of_ne_nil more
  obtain ⟨goes, queue'⟩ := h.run queue small
  have failed : (w.run (front.length + 2)).Failed front := by
    rw [run_add]
    rcases goes.next_of_big queue' long with failed | ⟨fine, stuck, queue''⟩
    · exact failed.run 1
    · exact failed_next fine stuck queue''
  rw [Closing.written, queue, List.length_append, List.length_cons, List.length_cons, Nat.add_assoc,
    Nat.add_comm rest.length, ← Nat.add_assoc, run_add]
  exact written_of_took (failed.run rest.length).took

/-- If the last frame is too long, what is in the buffer then is lost. -/
theorem Goes.written_of_last_fault (h : w.Goes []) (queue : w.slot.queue = front ++ [big])
    (small : ∀ f ∈ front, f.body.length ≤ maxBody) (long : maxBody < big.body.length) :
    ∃ kept lost, kept ++ lost = front ∧ w.written = kept.flatMap frameBytes ∧
      (lost.flatMap frameBytes).length < capacity := by
  obtain ⟨goes, queue'⟩ := h.run queue small
  have ran : w.run w.slot.queue.length = (w.run front.length).next := by
    rw [queue, List.length_append, run_add]
    rfl
  rw [Closing.written, ran]
  rcases goes.next_of_big queue' long with failed | ⟨-, stuck, -⟩
  · exact ⟨front, [], List.append_nil _, written_of_took failed.took, Nat.zero_lt_succ 8191⟩
  · obtain ⟨k, flushed, took, idle, short⟩ := stuck.flush
    obtain ⟨kept, lost, cut, written, buffer⟩ := took.parts
    rw [idle, Option.toList, List.append_nil] at cut
    rw [buffer] at short
    rw [flushed]
    exact ⟨kept, lost, cut.symm, written, short⟩

theorem small_or_cut (frames : List Frame) :
    (∀ f ∈ frames, f.body.length ≤ maxBody) ∨ ∃ front big back, frames = front ++ big :: back ∧
      (∀ f ∈ front, f.body.length ≤ maxBody) ∧ maxBody < big.body.length := by
  induction frames with
  | nil => exact .inl (List.forall_mem_nil _)
  | cons f rest ih =>
      by_cases small : f.body.length ≤ maxBody
      · rcases ih with all | ⟨front, big, back, rfl, before, long⟩
        · exact .inl (List.forall_mem_cons.mpr ⟨small, all⟩)
        · exact .inr ⟨f :: front, big, back, rfl, List.forall_mem_cons.mpr ⟨small, before⟩, long⟩
      · exact .inr ⟨[], f, rest, rfl, List.forall_mem_nil _, Nat.lt_of_not_le small⟩

theorem Goes.exists_written (h : w.Goes []) :
    ∃ first : List Frame, (∀ f ∈ first, f.body.length ≤ maxBody) ∧
      w.written = first.flatMap frameBytes := by
  rcases small_or_cut w.slot.queue with all | ⟨front, big, back, queue, small, long⟩
  · exact ⟨_, all, h.written all⟩
  cases back with
  | nil =>
      obtain ⟨kept, lost, rfl, written, -⟩ := h.written_of_last_fault queue small long
      exact ⟨kept, fun f mem => small f (List.mem_append_left _ mem), written⟩
  | cons f back => exact ⟨front, small, h.written_of_fault queue small long (List.cons_ne_nil f back)⟩

end Closing
end StreamTunnel
