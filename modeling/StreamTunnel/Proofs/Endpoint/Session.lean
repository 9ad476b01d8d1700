import StreamTunnel.Proofs.Endpoint.Open

namespace StreamTunnel.Endpoint
open StreamTunnel.Frame StreamTunnel.Frame.Decoded

/-! ## What the bytes say -/

def decodedIn (b : Bytes) : List Decoded :=
  (Reader.mk none b).exhaust.1

def leftIn (b : Bytes) : Reader :=
  (Reader.mk none b).exhaust.2

/-- No frame closes the session, and nothing in between is no frame. -/
def GoesOn (b : Bytes) : Prop :=
  (decodedIn b).findSome? ending? = none

def endingIn (b : Bytes) (finished : Bool) : Option CloseReason :=
  ((decodedIn b).findSome? ending?).or (if finished then some (endReason (leftIn b)) else none)

def heardIn (s : SessionId) (b : Bytes) (finished : Bool) : List ChannelEvent :=
  messagesIn s (decodedIn b) ++ (endingIn b finished).toList.map (.closed s)

/-- The writes that were answered: all but those from the one on that ends the session. -/
def Answered (writes answered : List Bytes) : Prop :=
  answered <+: writes ∧ GoesOn answered.flatten ∧
    ∀ more, more <+: writes → GoesOn more.flatten → more <+: answered

/-! ## A conversation -/

def settle (n : Nat) (a : FarAct) (e : Endpoint) : Endpoint :=
  (e.act n a).flushAll

/-- The session is open, nothing has come in on it yet, and nothing was sent. -/
structure Connected (n : Nat) (s : SessionId) (e : Endpoint) : Prop where
  connection : ∃ c out, e.connections[n]? = some c ∧ c.stage = .open s ∧ c.reader = {} ∧
    c.control = [] ∧ c.pipe = { toFar := out }
  slot : ∃ slot, e.slots.get? s = some slot ∧ slot.queue = []
  alone : Alone n s e

/-- What the peer has written, whether it is through, what it has collected, and the endpoint. From
this side nothing is sent and nothing closed. -/
inductive Conversation (n : Nat) (s : SessionId) (start : Endpoint) :
    List Bytes → Bool → Bytes → Endpoint → Prop where
  | start : Conversation n s start [] false [] start
  | write {writes got e} (b : Bytes) (h : Conversation n s start writes false got e) :
      Conversation n s start (writes ++ [b]) false got (e.settle n (.write b))
  | finish {writes finished got e a} (ends : a = .halfClose ∨ a = .close)
      (h : Conversation n s start writes finished got e) :
      Conversation n s start writes true got (e.settle n a)
  | collect {writes finished got e} (h : Conversation n s start writes finished got e) :
      Conversation n s start writes finished (got ++ (e.takeWritten n).1) (e.takeWritten n).2.2
  | keepalive {writes finished got e} (h : Conversation n s start writes finished got e) :
      Conversation n s start writes finished got (e.ping n)
  | elsewhere {writes finished got e e'} (apart : Apart n s e e')
      (h : Conversation n s start writes finished got e) :
      Conversation n s start writes finished got e'

variable {n : Nat} {s : SessionId} {e e' : Endpoint} {heard : List ChannelEvent}
  {sent bytes b got : Bytes} {writes : List Bytes} {finished : Bool} {reason : CloseReason}

/-! ## Bytes that arrive later -/

theorem goesOn_nil : GoesOn [] := by
  rw [GoesOn, decodedIn, Reader.exhaust_of_more rfl]
  rfl

theorem GoesOn.not_refused (goes : GoesOn bytes) : .error .tooBig ∉ decodedIn bytes := by
  intro mem
  have none := List.findSome?_eq_none_iff.mp goes _ mem
  simp [ending?] at none

theorem exhaust_append (goes : GoesOn bytes) (later : Bytes) :
    (Reader.mk none (bytes ++ later)).exhaust =
      (decodedIn bytes ++ ((leftIn bytes).feed later).exhaust.1,
        ((leftIn bytes).feed later).exhaust.2) :=
  Reader.exhaust_feed goes.not_refused later

theorem decodedIn_append (goes : GoesOn bytes) (later : Bytes) :
    decodedIn (bytes ++ later) = decodedIn bytes ++ ((leftIn bytes).feed later).exhaust.1 := by
  rw [decodedIn, exhaust_append goes]

theorem leftIn_append (goes : GoesOn bytes) (later : Bytes) :
    leftIn (bytes ++ later) = ((leftIn bytes).feed later).exhaust.2 := by
  rw [leftIn, exhaust_append goes]

theorem exhaust_leftIn (goes : GoesOn bytes) : (leftIn bytes).exhaust = ([], leftIn bytes) :=
  Reader.exhaust_of_more (Reader.decode_exhaust goes.not_refused)

theorem goesOn_append_iff (goes : GoesOn bytes) (later : Bytes) :
    GoesOn (bytes ++ later) ↔ ((leftIn bytes).feed later).exhaust.1.findSome? ending? = none := by
  rw [GoesOn, decodedIn_append goes, List.findSome?_append, goes, Option.none_or]

theorem findSome?_ending_append (ends : (decodedIn bytes).findSome? ending? = some reason)
    (later : Bytes) : (decodedIn (bytes ++ later)).findSome? ending? = some reason ∧
      messagesIn s (decodedIn (bytes ++ later)) = messagesIn s (decodedIn bytes) := by
  obtain ⟨rest, more⟩ := Reader.exhaust_feed_prefix (Reader.mk none bytes) later
  have longer : decodedIn (bytes ++ later) = decodedIn bytes ++ rest := more.symm
  rw [longer, List.findSome?_append, ends, messagesIn_append_of_ends ends]
  exact ⟨rfl, rfl⟩

/-! ## One step -/

structure Going (n : Nat) (s : SessionId) (sent : Bytes) (heard : List ChannelEvent) (bytes : Bytes)
    (e : Endpoint) : Prop where
  goes : GoesOn bytes
  settled : ∃ c, Open n s c [] (heard ++ messagesIn s (decodedIn bytes)) e ∧
    c.reader = leftIn bytes ∧ c.control = [] ∧ c.pipe = { toFar := sent }

theorem Going.act (h : Going n s sent heard bytes e) (a : FarAct) :
    ∃ c e', e.act n a = e'.readOpen n s c ∧ Open n s c [] (heard ++ messagesIn s (decodedIn bytes)) e' ∧
      c.reader = (leftIn bytes).feed (Pipe.act a { toFar := sent }).toNear ∧ c.control = [] ∧
      c.pipe = { Pipe.act a { toFar := sent } with toNear := [] } := by
  obtain ⟨c, opened, reader, control, pipe⟩ := h.settled
  have acted := opened.modifyConnection (fun c => { c with pipe := c.pipe.act a }) opened.stage
  have took := acted.modifyConnection Connection.take acted.stage
  refine ⟨_, _, ?_, took, ?_, control, ?_⟩
  · rw [Endpoint.act, receive, acted.connection]
    simp only [opened.stage]
  · simp only [Connection.take, pipe, reader]
  · simp only [Connection.take, pipe]

theorem Going.write (h : Going n s sent heard bytes e) (goes : GoesOn (bytes ++ b)) :
    ∃ new, answersIn (decodedIn (bytes ++ b)) = answersIn (decodedIn bytes) ++ answersIn new ∧
      Going n s (sent ++ (answersIn new).flatMap Exchange.frameBytes) heard (bytes ++ b)
        (e.settle n (.write b)) := by
  obtain ⟨c, e', acted, opened, reader, control, pipe⟩ := h.act (.write b)
  have fed : c.reader = (leftIn bytes).feed b := reader
  have new := (goesOn_append_iff h.goes b).mp goes
  rw [← fed] at new
  have read := opened.readOpen new (by rw [pipe]; rfl)
  have flushed := read.flushAll (by rw [pipe]; rfl)
    (fun f mem => wire_of_mem_answersIn (by simpa [control] using mem))
  have whole : decodedIn (bytes ++ b) = decodedIn bytes ++ c.reader.exhaust.1 := by
    rw [decodedIn_append h.goes, fed]
  rw [List.append_assoc, ← messagesIn_append_of_goes h.goes, ← whole, ← acted] at flushed
  refine ⟨c.reader.exhaust.1, ?_, goes, _, flushed, ?_, rfl, ?_⟩
  · rw [whole, answersIn_append_of_goes h.goes]
  · rw [leftIn_append h.goes, ← fed]
    rfl
  · simp [answered, pipe, control, Pipe.act]

theorem Going.write_of_ends (h : Going n s sent heard bytes e)
    (ends : (decodedIn (bytes ++ b)).findSome? ending? = some reason) :
    Over n s sent (heard ++ messagesIn s (decodedIn (bytes ++ b)) ++ [.closed s reason])
      (e.settle n (.write b)) := by
  obtain ⟨c, e', acted, opened, reader, control, pipe⟩ := h.act (.write b)
  have fed : c.reader = (leftIn bytes).feed b := reader
  rw [decodedIn_append h.goes, ← fed] at ends ⊢
  rw [List.findSome?_append, h.goes, Option.none_or] at ends
  have past := (opened.readOpen_of_ends ends).flushAll
  rw [pipe] at past
  rw [messagesIn_append_of_goes h.goes, settle, acted, ← List.append_assoc]
  exact past

theorem Going.finish (h : Going n s sent heard bytes e) {a : FarAct} (ends : a = .halfClose ∨ a = .close) :
    Over n s sent (heard ++ messagesIn s (decodedIn bytes) ++ [.closed s (endReason (leftIn bytes))])
      (e.settle n a) := by
  obtain ⟨c, e', acted, opened, reader, control, pipe⟩ := h.act a
  have left : c.reader = leftIn bytes := by
    rw [reader]
    rcases ends with rfl | rfl <;> simp [Pipe.act]
  have ending : c.pipe.ending = some .finished := by
    rw [pipe]
    rcases ends with rfl | rfl <;> rfl
  have same : c.pipe.toFar = sent := by
    rw [pipe]
    rcases ends with rfl | rfl <;> rfl
  have nothing : c.reader.exhaust = ([], leftIn bytes) := by rw [left, exhaust_leftIn h.goes]
  have past := (opened.readOpen_finished (by rw [nothing]; rfl) ending).flushAll
  rw [nothing, same] at past
  rw [settle, acted]
  simpa [messagesIn, taken] using past

theorem takeWritten_of_some {c : Connection} (there : e.connections[n]? = some c) :
    e.takeWritten n = (c.pipe.toFar, c.pipe.nearClosed,
      e.modifyConnection n (fun c => { c with pipe := { c.pipe with toFar := [] } })) := by
  rw [takeWritten, there]

theorem Going.written (h : Going n s sent heard bytes e) : (e.takeWritten n).1 = sent := by
  obtain ⟨c, opened, -, -, pipe⟩ := h.settled
  rw [takeWritten_of_some opened.connection, pipe]

theorem Going.collect (h : Going n s sent heard bytes e) :
    Going n s [] heard bytes (e.takeWritten n).2.2 := by
  obtain ⟨c, opened, reader, control, pipe⟩ := h.settled
  rw [takeWritten_of_some opened.connection]
  exact ⟨h.goes, _, opened.modifyConnection _ opened.stage, reader, control, by rw [pipe]⟩

theorem Going.ping (h : Going n s sent heard bytes e) :
    ∃ t, Going n s (sent ++ Exchange.frameBytes (.ping t)) heard bytes (e.ping n) := by
  obtain ⟨c, opened, reader, control, pipe⟩ := h.settled
  have timed := opened.modifyConnection
    (fun c => { c with pingDue := c.pingDue.map (· + e.settings.keepalive.nanos) }) opened.stage
  let t := UInt64.ofNat ((e.now - (e.slots.get? s).elim 0 (·.began)) / 1000)
  obtain ⟨e', wrote, stays⟩ := timed.writeFrame (by rw [pipe]) (wire_ping t)
  have pinged : e.ping n = e' := by
    rw [Endpoint.ping, opened.connection]
    simp only [opened.stage]
    exact congrArg Prod.snd wrote
  rw [pinged]
  exact ⟨t, h.goes, _, stays, reader, control, by rw [pipe]⟩

theorem Going.apart (h : Going n s sent heard bytes e) (apart : Apart n s e e') :
    Going n s sent heard bytes e' := by
  obtain ⟨c, opened, rest⟩ := h.settled
  exact ⟨h.goes, c, opened.apart apart, rest⟩

theorem Over.modifyConnection {sent' : Bytes} (h : Over n s sent heard e) (f : Connection → Connection)
    (moves : ∀ c, c.stage = .ended → c.pipe.toFar = sent →
      (f c).stage = .ended ∧ (f c).pipe.toFar = sent') :
    Over n s sent' heard (e.modifyConnection n f) where
  connection := by
    obtain ⟨c, there, stage, out⟩ := h.connection
    refine ⟨f c, ?_, moves c stage out⟩
    rw [connections_modifyConnection, if_pos rfl, there]
    rfl
  slot := h.slot
  events := h.events
  alone := h.alone.modifyConnection f

theorem toFar_act (a : FarAct) (p : Pipe) : (p.act a).toFar = p.toFar := by
  cases a with
  | write b =>
      rw [Pipe.act]
      split <;> rfl
  | _ => rfl

theorem Over.settle (h : Over n s sent heard e) (a : FarAct) : Over n s sent heard (e.settle n a) := by
  have acted := h.modifyConnection (fun c => { c with pipe := c.pipe.act a })
    (fun c stage out => ⟨stage, by rw [toFar_act, out]⟩)
  obtain ⟨c, there, stage, -⟩ := acted.connection
  have unread : e.act n a = e.modifyConnection n (fun c => { c with pipe := c.pipe.act a }) := by
    rw [Endpoint.act, receive, there]
    simp only [stage]
  rw [Endpoint.settle, unread]
  exact acted.flushAll

theorem Over.written (h : Over n s sent heard e) : (e.takeWritten n).1 = sent := by
  obtain ⟨c, there, -, out⟩ := h.connection
  rw [takeWritten_of_some there, out]

theorem Over.collect (h : Over n s sent heard e) : Over n s [] heard (e.takeWritten n).2.2 := by
  obtain ⟨c, there, -⟩ := h.connection
  rw [takeWritten_of_some there]
  exact h.modifyConnection _ (fun c stage _ => ⟨stage, rfl⟩)

theorem Over.ping (h : Over n s sent heard e) : Over n s sent heard (e.ping n) := by
  obtain ⟨c, there, stage, -⟩ := h.connection
  have nothing : e.ping n = e := by
    rw [Endpoint.ping, there]
    simp only [stage]
  rwa [nothing]

/-! ## The whole conversation -/

theorem filter_answersIn (decoded : List Decoded) :
    (answersIn decoded).filter (!Exchange.isPing ·) = answersIn decoded := by
  rw [List.filter_eq_self]
  intro f mem
  obtain ⟨d, -, answers⟩ := List.mem_filterMap.mp mem
  obtain ⟨t, rfl⟩ := eq_pong_of_answer? answers
  rfl

theorem Connected.going (h : Connected n s e) : Going n s (e.takeWritten n).1 (e.eventsOf s) [] e := by
  obtain ⟨c, out, there, stage, reader, control, pipe⟩ := h.connection
  have nothing : decodedIn [] = [] ∧ leftIn [] = {} := by
    rw [decodedIn, leftIn, Reader.exhaust_of_more rfl]
    exact ⟨rfl, rfl⟩
  refine ⟨goesOn_nil, c, ⟨⟨there, h.slot, ?_, h.alone⟩, stage⟩, ?_, control, ?_⟩
  · simp [nothing.1, messagesIn, taken]
  · rw [reader, nothing.2]
  · rw [takeWritten_of_some there, pipe]

/-- What the peer has got and can get: `frames` on top of what was there before. -/
structure Heard (n : Nat) (s : SessionId) (start : Endpoint) (writes : List Bytes) (finished : Bool)
    (frames : List Frame) (out : Bytes) (e : Endpoint) : Prop where
  answers : ∃ answered, Answered writes answered ∧
    frames.filter (!Exchange.isPing ·) = answersIn (decodedIn answered.flatten)
  state : (finished = false ∧ Going n s out (start.eventsOf s) writes.flatten e) ∨
    ∃ reason, endingIn writes.flatten finished = some reason ∧
      Over n s out (start.eventsOf s ++ messagesIn s (decodedIn writes.flatten) ++ [.closed s reason]) e

theorem Answered.all (goes : GoesOn writes.flatten) : Answered writes writes :=
  ⟨List.prefix_rfl, goes, fun _ within _ => within⟩

theorem Answered.eq {answered : List Bytes} (h : Answered writes answered)
    (goes : GoesOn writes.flatten) : answered = writes :=
  h.1.eq_of_length_le (h.2.2 writes List.prefix_rfl goes).length_le

theorem Answered.write {answered : List Bytes} (h : Answered writes answered)
    (ends : (decodedIn (writes ++ [b]).flatten).findSome? ending? = some reason) :
    Answered (writes ++ [b]) answered := by
  refine ⟨h.1.trans (List.prefix_append _ _), h.2.1, ?_⟩
  intro more within goes
  -- the new write ends the session or comes after its end
  rcases List.prefix_concat_iff.mp within with rfl | earlier
  · rw [GoesOn, ends] at goes
    cases goes
  · exact h.2.2 more earlier goes

variable {frames : List Frame} {out : Bytes}

theorem Heard.write (h : Heard n s e writes false frames out e') (b : Bytes) :
    ∃ more, Heard n s e (writes ++ [b]) false (frames ++ more)
      (out ++ more.flatMap Exchange.frameBytes) (e'.settle n (.write b)) := by
  obtain ⟨answered, longest, answers⟩ := h.answers
  have bytes : (writes ++ [b]).flatten = writes.flatten ++ b := by simp
  -- the session goes on, or ends with this write, or was over before
  rcases h.state with ⟨-, going⟩ | ⟨reason, ended, past⟩
  · cases ends : (decodedIn (writes.flatten ++ b)).findSome? ending? with
    | none =>
        obtain ⟨new, grown, goes⟩ := going.write ends
        obtain rfl : answered = writes := longest.eq going.goes
        rw [← bytes] at grown goes
        refine ⟨answersIn new, ⟨_, .all goes.goes, ?_⟩, .inl ⟨rfl, goes⟩⟩
        rw [List.filter_append, answers, filter_answersIn, grown]
    | some reason =>
        have past := going.write_of_ends ends
        rw [← bytes] at ends past
        refine ⟨[], ⟨answered, longest.write ends, by simpa using answers⟩, .inr ⟨reason, ?_, ?_⟩⟩
        · rw [endingIn, ends, Option.some_or]
        · simpa using past
  · have before : (decodedIn writes.flatten).findSome? ending? = some reason := by
      simpa [endingIn] using ended
    obtain ⟨ends, same⟩ := findSome?_ending_append before b (s := s)
    rw [← bytes] at ends same
    refine ⟨[], ⟨answered, longest.write ends, by simpa using answers⟩, .inr ⟨reason, ?_, ?_⟩⟩
    · rw [endingIn, ends, Option.some_or]
    · rw [same]
      simpa using past.settle (.write b)

theorem Heard.finish (h : Heard n s e writes finished frames out e') {a : FarAct}
    (ends : a = .halfClose ∨ a = .close) :
    Heard n s e writes true frames out (e'.settle n a) := by
  refine ⟨h.answers, .inr ?_⟩
  rcases h.state with ⟨-, going⟩ | ⟨reason, ended, past⟩
  · refine ⟨endReason (leftIn writes.flatten), ?_, going.finish ends⟩
    rw [endingIn, going.goes]
    rfl
  · refine ⟨reason, ?_, past.settle a⟩
    cases finished with
    | true => exact ended
    | false =>
        have before : (decodedIn writes.flatten).findSome? ending? = some reason := by
          simpa [endingIn] using ended
        rw [endingIn, before, Option.some_or]

theorem Heard.collect (h : Heard n s e writes finished frames out e') :
    (e'.takeWritten n).1 = out ∧ Heard n s e writes finished frames [] (e'.takeWritten n).2.2 := by
  rcases h.state with ⟨early, going⟩ | ⟨reason, ended, past⟩
  · exact ⟨going.written, h.answers, .inl ⟨early, going.collect⟩⟩
  · exact ⟨past.written, h.answers, .inr ⟨reason, ended, past.collect⟩⟩

theorem Heard.keepalive (h : Heard n s e writes finished frames out e') :
    ∃ more, Heard n s e writes finished (frames ++ more) (out ++ more.flatMap Exchange.frameBytes)
      (e'.ping n) := by
  obtain ⟨answered, longest, answers⟩ := h.answers
  rcases h.state with ⟨early, going⟩ | ⟨reason, ended, past⟩
  · obtain ⟨t, pinged⟩ := going.ping
    refine ⟨[.ping t], ⟨answered, longest, ?_⟩, .inl ⟨early, by simpa using pinged⟩⟩
    rw [List.filter_append, answers]
    exact List.append_nil _
  · exact ⟨[], ⟨answered, longest, by simpa using answers⟩,
      .inr ⟨reason, ended, by simpa using past.ping⟩⟩

theorem Heard.elsewhere {e'' : Endpoint} (h : Heard n s e writes finished frames out e')
    (apart : Apart n s e' e'') : Heard n s e writes finished frames out e'' := by
  refine ⟨h.answers, ?_⟩
  rcases h.state with ⟨early, going⟩ | ⟨reason, ended, past⟩
  · exact .inl ⟨early, going.apart apart⟩
  · exact .inr ⟨reason, ended, past.apart apart⟩

theorem Conversation.isHeard (connected : Connected n s e)
    (run : Conversation n s e writes finished got e') :
    ∃ frames out, got ++ out = (e.takeWritten n).1 ++ frames.flatMap Exchange.frameBytes ∧
      Heard n s e writes finished frames out e' := by
  induction run with
  | start =>
      have answers : ([] : List Frame) = answersIn (decodedIn []) := by
        rw [decodedIn, Reader.exhaust_of_more rfl]
        rfl
      exact ⟨[], _, by simp, ⟨[], .all goesOn_nil, answers⟩, .inl ⟨rfl, connected.going⟩⟩
  | write b _ ih =>
      obtain ⟨frames, out, total, heard⟩ := ih
      obtain ⟨more, wrote⟩ := heard.write b
      exact ⟨_, _, by simp [← List.append_assoc, total], wrote⟩
  | finish ends _ ih =>
      obtain ⟨frames, out, total, heard⟩ := ih
      exact ⟨frames, out, total, heard.finish ends⟩
  | collect _ ih =>
      obtain ⟨frames, out, total, heard⟩ := ih
      obtain ⟨written, stays⟩ := heard.collect
      exact ⟨frames, [], by simpa [written] using total, stays⟩
  | keepalive _ ih =>
      obtain ⟨frames, out, total, heard⟩ := ih
      obtain ⟨more, pinged⟩ := heard.keepalive
      exact ⟨_, _, by simp [← List.append_assoc, total], pinged⟩
  | elsewhere apart _ ih =>
      obtain ⟨frames, out, total, heard⟩ := ih
      exact ⟨frames, out, total, heard.elsewhere apart⟩

theorem Heard.told (h : Heard n s e writes finished frames out e') :
    e'.eventsOf s = e.eventsOf s ++ heardIn s writes.flatten finished ∧
      (e'.slots.contains s = true ↔ endingIn writes.flatten finished = none) := by
  rcases h.state with ⟨rfl, going⟩ | ⟨reason, ended, past⟩
  · obtain ⟨c, opened, -⟩ := going.settled
    have endless : endingIn writes.flatten false = none := by
      rw [endingIn, going.goes]
      rfl
    constructor
    · simp [heardIn, endless, opened.events]
    · simp [endless, opened.contains]
  · constructor
    · simp [heardIn, ended, past.events]
    · simp [ended, Table.contains, past.slot]

/-- The bytes and the end of the stream say what is heard; while the session is open each ping is
answered, and but for pings of its own the endpoint writes nothing else. -/
theorem session_hears (connected : Connected n s e)
    (run : Conversation n s e writes finished got e') :
    e'.eventsOf s = e.eventsOf s ++ heardIn s writes.flatten finished ∧
    (e'.slots.contains s = true ↔ endingIn writes.flatten finished = none) ∧
    ∃ (answered : List Bytes) (frames : List Frame), Answered writes answered ∧
      got ++ (e'.takeWritten n).1 = (e.takeWritten n).1 ++ frames.flatMap Exchange.frameBytes ∧
      frames.filter (!Exchange.isPing ·) = answersIn (decodedIn answered.flatten) := by
  obtain ⟨frames, out, total, heard⟩ := run.isHeard connected
  obtain ⟨answered, longest, answers⟩ := heard.answers
  obtain ⟨told, held⟩ := heard.told
  rw [← heard.collect.1] at total
  exact ⟨told, held, answered, frames, longest, total, answers⟩

theorem session_hears_oversized :
    let s : SessionId := ⟨1⟩
    let hello := Exchange.frameBytes (.hello "" 0)
    let e := (((({} : Endpoint).inbound.2.settle 0 (.write hello)).accept s).2).flushAll
    let ping := Exchange.frameBytes (.ping 7)
    let message := Exchange.frameBytes (.message [65])
    let writes := [ping.take 2, ping.drop 2, message ++ [255, 0, 0, 0, 1]]
    ∃ e', Connected 0 s e ∧ Conversation 0 s e writes false [] e' ∧
      e'.eventsOf s = [.incoming s "" 0, .connected s "", .message s [65],
        .closed s (.problem "IO error: frame size too big")] ∧
      (e'.takeWritten 0).1 = Exchange.frameBytes .helloAck ++ Exchange.frameBytes (.pong 7) := by
  intro s hello e ping message writes
  have only : e.connections.map (fun c => (c.stage, c.reader, c.control, c.pipe)) =
      [(.open s, {}, [], { toFar := Exchange.frameBytes .helloAck })] := by decide +kernel
  have queue : (e.slots.get? s).map (·.queue) = some [] := by decide +kernel
  have connected : Connected 0 s e := by
    obtain ⟨c, single, parts⟩ := List.map_eq_singleton_iff.mp only
    simp only [Prod.mk.injEq] at parts
    refine ⟨⟨c, _, by rw [single]; rfl, parts⟩, Option.map_eq_some_iff.mp queue, ?_⟩
    intro m c' there _
    rw [single] at there
    have bound := (List.getElem?_eq_some_iff.mp there).1
    simpa using bound
  have run : Conversation 0 s e writes false [] (((e.settle 0 (.write (ping.take 2))).settle 0
      (.write (ping.drop 2))).settle 0 (.write (message ++ [255, 0, 0, 0, 1]))) :=
    ((Conversation.start.write _).write _).write _
  refine ⟨_, connected, run, ?_, by decide +kernel⟩
  obtain ⟨events, -⟩ := session_hears connected run
  have first : (Reader.mk none writes.flatten).decode =
      (.frame (.ping 7), ⟨none, message ++ [255, 0, 0, 0, 1]⟩) := by decide +kernel
  have second : (Reader.mk none (message ++ [255, 0, 0, 0, 1])).decode =
      (.frame (.message [65]), ⟨none, [255, 0, 0, 0, 1]⟩) := by decide +kernel
  have third : (Reader.mk none [255, 0, 0, 0, 1]).decode =
      (.error .tooBig, ⟨none, [255, 0, 0, 0, 1]⟩) := by decide +kernel
  have decoded : decodedIn writes.flatten =
      [.frame (.ping 7), .frame (.message [65]), .error .tooBig] := by
    rw [decodedIn, Reader.exhaust_of_isBody first rfl, Reader.exhaust_of_isBody second rfl,
      Reader.exhaust_of_tooBig third]
  have before : e.eventsOf s = [.incoming s "" 0, .connected s ""] := by decide +kernel
  rw [events, before, heardIn, endingIn, decoded]
  rfl

end StreamTunnel.Endpoint
