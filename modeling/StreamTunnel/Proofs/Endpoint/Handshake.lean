import StreamTunnel.Proofs.Endpoint.Grammar
import StreamTunnel.Proofs.Endpoint.Session

namespace StreamTunnel.Endpoint
open StreamTunnel.Frame StreamTunnel.Frame.Decoded

variable {n m : Nat} {s : SessionId} {peer : Identity} {c q : Connection} {e e' : Endpoint}
  {waiting frames : List Frame} {heard : List ChannelEvent} {r : Reader} {d : Decoded}
  {err : ChannelError} {bytes b rest got out sent : Bytes} {writes : List Bytes} {finished : Bool}

/-! ## What the first frame says -/

/-- Why a session does not connect if this comes first. -/
def refusal? : Decoded → Option ChannelError
  | .more | .frame .helloAck => none
  | .frame (.close reason) => some (.protocol ("rejected by peer: " ++ reason))
  | .frame f => some (.protocol ("expected HelloAck, got " ++ f.describe))
  | .error err => some (.ofFrame err)

def silence (r : Reader) : ChannelError :=
  if r.buffer.isEmpty then .connectionClosed else .ofFrame .leftover

def failureIn (b : Bytes) (finished : Bool) : Option ChannelError :=
  match (Reader.mk none b).decode with
  | (.more, r) => if finished then some (silence r) else none
  | (d, _) => refusal? d

theorem failureIn_of_more (decoded : (Reader.mk none b).decode = (.more, r)) :
    failureIn b finished = if finished then some (silence r) else none := by
  rw [failureIn, decoded]

theorem failureIn_of_refusal (decoded : (Reader.mk none b).decode = (d, r))
    (refused : refusal? d = some err) : failureIn b finished = some err := by
  rw [failureIn, decoded]
  cases d with
  | more => cases refused
  | frame | error => exact refused

theorem eq_of_refusal? (refused : refusal? d = none) : d = .more ∨ d = .frame .helloAck := by
  unfold refusal? at refused
  split at refused <;> simp_all

theorem failureIn_append (fails : failureIn bytes false = some err) (later : Bytes) :
    failureIn (bytes ++ later) false = some err := by
  cases decoded : (Reader.mk none bytes).decode with
  | mk d r =>
    cases d with
    | more =>
        rw [failureIn_of_more decoded] at fails
        cases fails
    | frame | error =>
        rw [failureIn, decoded] at fails
        exact failureIn_of_refusal (Reader.decode_feed decoded (by simp)) fails

theorem failureIn_finished (fails : failureIn bytes finished = some err) :
    failureIn bytes true = some err := by
  cases finished with
  | true => exact fails
  | false =>
      unfold failureIn at fails ⊢
      split at fails
      · cases fails
      · exact fails

/-! ## One step -/

theorem readAnswer_of_refusal (decoded : q.reader.decode = (d, r)) (refused : refusal? d = some err) :
    e.readAnswer n s peer q = e.fail n s err := by
  rw [readAnswer, decoded]
  cases d with
  | more => cases refused
  | error => cases refused; rfl
  | frame f =>
      cases f with
      | helloAck => cases refused
      | _ => cases refused; rfl

theorem readAnswer_of_more (decoded : q.reader.decode = (.more, r)) (more : q.pipe.ending = none) :
    e.readAnswer n s peer q = e.modifyConnection n (fun c => { c with reader := r }) := by
  simp only [readAnswer, decoded, more]

theorem readAnswer_of_end (decoded : q.reader.decode = (.more, r))
    (ended : q.pipe.ending = some .finished) :
    e.readAnswer n s peer q =
      (e.modifyConnection n (fun c => { c with reader := r })).fail n s (silence r) := by
  have last : (endFault .finished r).getD .connectionClosed = silence r := by
    simp only [endFault, Reader.decodeEnd, Reader.decode_again decoded, silence]
    cases r.buffer.isEmpty <;> rfl
  simp only [readAnswer, decoded, ended, last]

theorem readAnswer_of_ack (decoded : q.reader.decode = (.frame .helloAck, r)) :
    e.readAnswer n s peer q = (e.enter n s peer).readOpen n s { q with reader := r } := by
  rw [readAnswer, decoded]

theorem Held.fail (h : Held n s c waiting heard e) (err : ChannelError) :
    Over n s c.pipe.toFar (heard ++ [.closed s err.toReason]) (e.fail n s err) :=
  h.finish err.toReason

theorem Held.enter (h : Held n s c waiting heard e) (peer : Identity) :
    ∃ c', Open n s c' waiting (heard ++ [.connected s peer]) (e.enter n s peer) ∧
      c'.control = c.control ∧ c'.pipe = c.pipe := by
  let due := e.now + e.settings.keepalive.nanos
  have opened : Open n s _ waiting heard (e.modifyConnection n (fun c =>
      { c with stage := .open s, deadline := none, pingDue := some due })) :=
    ⟨h.modifyConnection _, rfl⟩
  have began := opened.modifySlot (fun slot => { slot with began := e.now }) (fun _ => rfl)
  refine ⟨_, ⟨⟨began.connection, began.slot, ?_, began.alone⟩, began.stage⟩, rfl, rfl⟩
  rw [Endpoint.enter, eventsOf_emit]
  simp [ChannelEvent.session, h.events]

structure Asking (n : Nat) (s : SessionId) (peer : Identity) (r : Reader) (waiting : List Frame)
    (sent : Bytes) (heard : List ChannelEvent) (e : Endpoint) : Prop where
  held : ∃ c, Held n s c waiting heard e ∧ c.stage = .answering s peer ∧ c.reader = r ∧
    c.control = [] ∧ c.pipe = { toFar := sent }

theorem Asking.act (h : Asking n s peer r waiting sent heard e) (a : FarAct) :
    ∃ q e', e.act n a = e'.readAnswer n s peer q ∧ Held n s q waiting heard e' ∧
      q.stage = .answering s peer ∧ q.reader = r.feed (Pipe.act a { toFar := sent }).toNear ∧
      q.control = [] ∧ q.pipe = { Pipe.act a { toFar := sent } with toNear := [] } := by
  obtain ⟨c, held, stage, reader, control, pipe⟩ := h.held
  have acted := held.modifyConnection (fun c => { c with pipe := c.pipe.act a })
  refine ⟨_, _, ?_, acted.modifyConnection Connection.take, stage, ?_, control, ?_⟩
  · rw [Endpoint.act, receive, acted.connection]
    simp only [stage]
  · simp only [Connection.take, pipe, reader]
  · simp only [Connection.take, pipe]

theorem Asking.apart (h : Asking n s peer r waiting sent heard e) (apart : Apart n s e e') :
    Asking n s peer r waiting sent heard e' := by
  obtain ⟨c, held, rest⟩ := h.held
  exact ⟨c, held.apart apart, rest⟩

theorem Asking.flush (h : Asking n s peer r waiting sent heard e) (m : Nat) :
    Asking n s peer r waiting sent heard (e.flush m) := by
  obtain ⟨c, held, stage, -⟩ := h.held
  apply h.apart
  by_cases own : m = n
  · have nothing : e.flush m = e := by
      simp only [Endpoint.flush, own, held.connection, stage]
    rw [nothing]
    exact .refl n s e
  · exact apart_flush own fun c there stage => own (held.alone m c there stage)

theorem Asking.flushAll (h : Asking n s peer r waiting sent heard e) :
    Asking n s peer r waiting sent heard e.flushAll :=
  flushAll_of_flush (fun _ h => h.flush) h

theorem Asking.write (h : Asking n s peer r waiting sent heard e) {r' : Reader}
    (short : (r.feed b).decode = (.more, r')) :
    Asking n s peer r' waiting sent heard (e.settle n (.write b)) := by
  obtain ⟨q, e₁, acted, held, stage, reader, control, pipe⟩ := h.act (.write b)
  have fed : q.reader = r.feed b := reader
  have waits : Asking n s peer r' waiting sent heard (e.act n (.write b)) := by
    rw [acted, readAnswer_of_more (by rw [fed]; exact short) (by rw [pipe]; rfl)]
    exact ⟨_, held.modifyConnection _, stage, rfl, control, by rw [pipe]; rfl⟩
  exact waits.flushAll

theorem Asking.write_of_refusal (h : Asking n s peer r waiting sent heard e) {r' : Reader}
    (decoded : (r.feed b).decode = (d, r')) (refused : refusal? d = some err) :
    Over n s sent (heard ++ [.closed s err.toReason]) (e.settle n (.write b)) := by
  obtain ⟨q, e₁, acted, held, -, reader, -, pipe⟩ := h.act (.write b)
  have fed : q.reader = r.feed b := reader
  have past := (held.fail err).flushAll
  rw [settle, acted, readAnswer_of_refusal (by rw [fed]; exact decoded) refused]
  rwa [pipe] at past

theorem Asking.write_of_ack (h : Asking n s peer r waiting sent heard e) {r' : Reader}
    (decoded : (r.feed b).decode = (.frame .helloAck, r'))
    (goes : r'.exhaust.1.findSome? Decoded.ending? = none)
    (wires : ∀ f ∈ waiting, f.wire = .ok (Exchange.frameBytes f)) :
    ∃ c, Open n s c [] (heard ++ [.connected s peer] ++ messagesIn s r'.exhaust.1)
        (e.settle n (.write b)) ∧
      c.reader = r'.exhaust.2 ∧ c.control = [] ∧ c.pipe =
        { toFar := sent ++ (answersIn r'.exhaust.1 ++ waiting).flatMap Exchange.frameBytes } := by
  obtain ⟨q, e₁, acted, held, -, reader, control, pipe⟩ := h.act (.write b)
  have fed : q.reader = r.feed b := reader
  obtain ⟨c, opened, control', pipe'⟩ := held.enter peer
  have read := opened.readOpen (q := { q with reader := r' }) goes (by rw [pipe]; rfl)
  have flushed := read.flushAll (by rw [pipe', pipe]; rfl) (by
    rw [control', control, List.nil_append, List.forall_mem_append]
    exact ⟨fun f mem => wire_of_mem_answersIn mem, wires⟩)
  rw [← readAnswer_of_ack (by rw [fed]; exact decoded), ← acted] at flushed
  exact ⟨_, flushed, rfl, rfl, by simp [answered, control', control, pipe', pipe, Pipe.act]⟩

theorem Asking.write_of_ack_ends (h : Asking n s peer r waiting sent heard e) {r' : Reader}
    (decoded : (r.feed b).decode = (.frame .helloAck, r')) {reason : CloseReason}
    (ends : r'.exhaust.1.findSome? Decoded.ending? = some reason) :
    Over n s sent (heard ++ [.connected s peer] ++ messagesIn s r'.exhaust.1 ++ [.closed s reason])
      (e.settle n (.write b)) := by
  obtain ⟨q, e₁, acted, held, -, reader, -, pipe⟩ := h.act (.write b)
  have fed : q.reader = r.feed b := reader
  obtain ⟨c, opened, -, pipe'⟩ := held.enter peer
  have past := (opened.readOpen_of_ends (q := { q with reader := r' }) ends).flushAll
  rw [← readAnswer_of_ack (by rw [fed]; exact decoded), ← acted, pipe', pipe] at past
  exact past

theorem Asking.finish (h : Asking n s peer r waiting sent heard e) (silent : r.decode = (.more, r))
    {a : FarAct} (ends : a = .halfClose ∨ a = .close) :
    Over n s sent (heard ++ [.closed s (silence r).toReason]) (e.settle n a) := by
  obtain ⟨q, e₁, acted, held, -, reader, -, pipe⟩ := h.act a
  have left : q.reader = r := by
    rw [reader]
    rcases ends with rfl | rfl <;> simp [Pipe.act]
  have ending : q.pipe.ending = some .finished := by
    rw [pipe]
    rcases ends with rfl | rfl <;> rfl
  have same : q.pipe.toFar = sent := by
    rw [pipe]
    rcases ends with rfl | rfl <;> rfl
  have past := ((held.modifyConnection (fun c => { c with reader := r })).fail (silence r)).flushAll
  rw [settle, acted, readAnswer_of_end (by rw [left]; exact silent) ending]
  rwa [same] at past

theorem Asking.collect (h : Asking n s peer r waiting sent heard e) :
    (e.takeWritten n).1 = sent ∧ Asking n s peer r waiting [] heard (e.takeWritten n).2.2 := by
  obtain ⟨c, held, stage, reader, control, pipe⟩ := h.held
  rw [takeWritten_of_some held.connection]
  exact ⟨by rw [pipe], _, held.modifyConnection _, stage, reader, control, by rw [pipe]⟩

theorem Asking.ping (h : Asking n s peer r waiting sent heard e) : e.ping n = e := by
  obtain ⟨c, held, stage, -⟩ := h.held
  rw [Endpoint.ping, held.connection]
  simp only [stage]

/-! ## The whole conversation -/

/-- How far a connecting session has come whose peer has written these bytes: `frames` were written
since the hello, and `out` of all is not collected yet. -/
inductive Stand (n : Nat) (s : SessionId) (peer : Identity) (waiting : List Frame)
    (start : Endpoint) (writes : List Bytes) (finished : Bool) (out : Bytes) (e : Endpoint) :
    List Frame → Prop where
  | asking {r : Reader} (early : finished = false)
      (short : (Reader.mk none writes.flatten).decode = (.more, r))
      (asks : Asking n s peer r waiting out (start.eventsOf s) e) :
      Stand n s peer waiting start writes finished out e []
  | failed {err : ChannelError} (fails : failureIn writes.flatten finished = some err)
      (past : Over n s out (start.eventsOf s ++ [.closed s err.toReason]) e) :
      Stand n s peer waiting start writes finished out e []
  | connected {r : Reader} {before wrote after : List Frame}
      (ack : (Reader.mk none writes.flatten).decode = (.frame .helloAck, r))
      (hears : Heard n s (start.emit (.connected s peer)) writes finished (before ++ after) out e)
      (queue : wrote = waiting ∨ wrote = [] ∧ ¬ GoesOn writes.flatten) :
      Stand n s peer waiting start writes finished out e (before ++ wrote ++ after)

theorem GoesOn.of_append (goes : GoesOn (bytes ++ b)) : GoesOn bytes := by
  cases ends : (decodedIn bytes).findSome? Decoded.ending? with
  | none => exact ends
  | some reason =>
      have longer := (findSome?_ending_append (s := default) ends b).1
      rw [GoesOn, longer] at goes
      cases goes

theorem decodedIn_of_ack (ack : (Reader.mk none bytes).decode = (.frame .helloAck, r)) :
    decodedIn bytes = .frame .helloAck :: r.exhaust.1 ∧ leftIn bytes = r.exhaust.2 := by
  rw [decodedIn, leftIn, Reader.exhaust_of_isBody ack rfl]
  exact ⟨rfl, rfl⟩

theorem decodedIn_of_more (short : (Reader.mk none bytes).decode = (.more, r)) :
    decodedIn bytes = [] := by
  rw [decodedIn, Reader.exhaust_of_more short]

theorem Asking.acknowledged {start : Endpoint}
    (h : Asking n s peer r waiting out (start.eventsOf s) e)
    (short : (Reader.mk none writes.flatten).decode = (.more, r)) {r' : Reader}
    (ack : (Reader.mk none (writes ++ [b]).flatten).decode = (.frame .helloAck, r'))
    (decoded : (r.feed b).decode = (.frame .helloAck, r'))
    (wires : ∀ f ∈ waiting, f.wire = .ok (Exchange.frameBytes f)) :
    ∃ before wrote, (wrote = waiting ∨ wrote = [] ∧ ¬ GoesOn (writes ++ [b]).flatten) ∧
      Heard n s (start.emit (.connected s peer)) (writes ++ [b]) false before
        (out ++ (before ++ wrote).flatMap Exchange.frameBytes) (e.settle n (.write b)) := by
  obtain ⟨whole, left⟩ := decodedIn_of_ack ack
  have told : (start.emit (.connected s peer)).eventsOf s =
      start.eventsOf s ++ [.connected s peer] := by simp [ChannelEvent.session]
  have messages : messagesIn s (decodedIn (writes ++ [b]).flatten) = messagesIn s r'.exhaust.1 := by
    rw [whole, messagesIn_cons rfl]
    rfl
  have same : (decodedIn (writes ++ [b]).flatten).findSome? Decoded.ending? =
      r'.exhaust.1.findSome? Decoded.ending? := by
    rw [whole]
    rfl
  cases ends : r'.exhaust.1.findSome? Decoded.ending? with
  | none =>
      obtain ⟨c, opened, reader, control, pipe⟩ := h.write_of_ack decoded ends wires
      have goes : GoesOn (writes ++ [b]).flatten := same.trans ends
      have answers : (answersIn r'.exhaust.1).filter (!Exchange.isPing ·) =
          answersIn (decodedIn (writes ++ [b]).flatten) := by
        rw [filter_answersIn, whole, answersIn_cons rfl]
        rfl
      rw [← told, ← messages] at opened
      rw [← left] at reader
      exact ⟨_, waiting, .inl rfl, ⟨_, .all goes, answers⟩,
        .inl ⟨rfl, goes, c, opened, reader, control, pipe⟩⟩
  | some reason =>
      have past := h.write_of_ack_ends decoded ends
      have early : GoesOn writes.flatten := by
        rw [GoesOn, decodedIn_of_more short]
        rfl
      have answers : [].filter (!Exchange.isPing ·) = answersIn (decodedIn writes.flatten) := by
        rw [decodedIn_of_more short]
        rfl
      rw [← told, ← messages] at past
      rw [ends] at same
      refine ⟨[], [], .inr ⟨rfl, by rw [GoesOn, same]; simp⟩,
        ⟨_, (Answered.all early).write same, answers⟩, .inr ⟨reason, ?_, by simpa using past⟩⟩
      rw [endingIn, same, Option.some_or]

theorem Stand.write {start : Endpoint} (h : Stand n s peer waiting start writes false out e frames)
    (wires : ∀ f ∈ waiting, f.wire = .ok (Exchange.frameBytes f)) (b : Bytes) :
    ∃ more, Stand n s peer waiting start (writes ++ [b]) false
      (out ++ more.flatMap Exchange.frameBytes) (e.settle n (.write b)) (frames ++ more) := by
  have bytes : (writes ++ [b]).flatten = writes.flatten ++ b := by simp
  cases h with
  | @asking r early short asks =>
      have fed : ((Reader.mk none writes.flatten).feed b).decode = (r.feed b).decode :=
        Reader.decode_feed_of_more short
      cases decoded : (Reader.mk none (writes.flatten ++ b)).decode with
      | mk d r' =>
        have decoded' : (r.feed b).decode = (d, r') := fed.symm.trans decoded
        cases refused : refusal? d with
        | some err =>
            refine ⟨[], .failed ?_ (by simpa using asks.write_of_refusal decoded' refused)⟩
            rw [bytes]
            exact failureIn_of_refusal decoded refused
        | none =>
            -- what is not refused is no frame or the acknowledgement
            rcases eq_of_refusal? refused with rfl | rfl
            · exact ⟨[], .asking rfl (by rw [bytes]; exact decoded) (by simpa using asks.write decoded')⟩
            · rw [← bytes] at decoded
              obtain ⟨before, wrote, queue, hears⟩ :=
                asks.acknowledged short decoded decoded' wires
              refine ⟨before ++ wrote ++ [], ?_⟩
              rw [List.nil_append]
              exact .connected decoded (by simpa using hears) queue
  | failed fails past =>
      refine ⟨[], .failed ?_ (by simpa using past.settle (.write b))⟩
      rw [bytes]
      exact failureIn_append fails b
  | @connected r before wrote after ack hears queue =>
      obtain ⟨more, heard⟩ := hears.write b
      have ack' : (Reader.mk none (writes ++ [b]).flatten).decode = (.frame .helloAck, r.feed b) := by
        rw [bytes]
        exact Reader.decode_feed ack (by simp)
      have queue' : wrote = waiting ∨ wrote = [] ∧ ¬ GoesOn (writes ++ [b]).flatten := by
        refine queue.imp_right (And.imp_right fun ends goes => ends ?_)
        rw [bytes] at goes
        exact goes.of_append
      rw [List.append_assoc] at heard
      have stand := Stand.connected ack' heard queue'
      exact ⟨more, by simpa using stand⟩

theorem Stand.finish {start : Endpoint} (h : Stand n s peer waiting start writes finished out e frames)
    {a : FarAct} (ends : a = .halfClose ∨ a = .close) :
    Stand n s peer waiting start writes true out (e.settle n a) frames := by
  cases h with
  | asking _ short asks =>
      refine .failed ?_ (asks.finish (Reader.decode_again short) ends)
      rw [failureIn_of_more short]
      rfl
  | failed fails past => exact .failed (failureIn_finished fails) (past.settle a)
  | connected ack hears queue => exact .connected ack (hears.finish ends) queue

theorem Stand.collect {start : Endpoint}
    (h : Stand n s peer waiting start writes finished out e frames) :
    (e.takeWritten n).1 = out ∧
      Stand n s peer waiting start writes finished [] (e.takeWritten n).2.2 frames := by
  cases h with
  | asking early short asks =>
      obtain ⟨written, stays⟩ := asks.collect
      exact ⟨written, .asking early short stays⟩
  | failed fails past => exact ⟨past.written, .failed fails past.collect⟩
  | connected ack hears queue =>
      obtain ⟨written, stays⟩ := hears.collect
      exact ⟨written, .connected ack stays queue⟩

theorem Stand.keepalive {start : Endpoint}
    (h : Stand n s peer waiting start writes finished out e frames) :
    ∃ more, Stand n s peer waiting start writes finished (out ++ more.flatMap Exchange.frameBytes)
      (e.ping n) (frames ++ more) := by
  cases h with
  | asking early short asks =>
      refine ⟨[], .asking early short ?_⟩
      rw [asks.ping]
      simpa using asks
  | failed fails past => exact ⟨[], .failed fails (by simpa using past.ping)⟩
  | @connected r before wrote after ack hears queue =>
      obtain ⟨more, heard⟩ := hears.keepalive
      rw [List.append_assoc] at heard
      have stand := Stand.connected ack heard queue
      exact ⟨more, by simpa using stand⟩

theorem Stand.elsewhere {start : Endpoint}
    (h : Stand n s peer waiting start writes finished out e frames) (apart : Apart n s e e') :
    Stand n s peer waiting start writes finished out e' frames := by
  cases h with
  | asking early short asks => exact .asking early short (asks.apart apart)
  | failed fails past => exact .failed fails (past.apart apart)
  | connected ack hears queue => exact .connected ack (hears.elsewhere apart) queue

def Asked (n : Nat) (s : SessionId) (peer : Identity) (waiting : List Frame) (e : Endpoint) : Prop :=
  ∃ sent, Asking n s peer {} waiting sent (e.eventsOf s) e

theorem Held.established {port : UInt32} (h : Held n s c waiting (e.eventsOf s) e)
    (stage : c.stage = .dialing s peer port) (fresh : c.reader = {} ∧ c.control = [] ∧ c.pipe = {})
    (small : (Frame.hello e.settings.identity port).body.length ≤ maxBody) :
    Asked n s peer waiting (e.established n) := by
  obtain ⟨reader, control, pipe⟩ := fresh
  let hello := Exchange.frameBytes (.hello e.settings.identity port)
  have asks := (h.modifyConnection (fun c => { c with stage := .answering s peer })).modifyConnection
    (fun c => { c with pipe := c.pipe.write hello })
  have wrote : e.established n = (e.modifyConnection n (fun c =>
      { c with stage := .answering s peer })).writeBytes n hello := by
    simp only [Endpoint.established, h.connection, stage, writeFrame, wire_of_small small]
    rfl
  rw [wrote]
  exact ⟨hello, _, asks, rfl, reader, control, by rw [pipe]; rfl⟩

theorem asked_of_run (settings : EndpointSettings) (bindFault : Option String)
    (acts : List EndpointAct)
    (few : (made ((EndpointRun.start settings bindFault).run acts).history).length ≤ UInt64.size) :
    let e := ((EndpointRun.start settings bindFault).run acts).endpoint
    ∀ n c s peer port slot, e.connections[n]? = some c → c.stage = .dialing s peer port →
      c.reader = {} ∧ c.control = [] ∧ c.pipe = {} → e.slots.get? s = some slot →
      (Frame.hello e.settings.identity port).body.length ≤ maxBody →
      Asked n s peer slot.queue (e.established n) := by
  intro e n c s peer port slot there stage fresh known small
  obtain ⟨-, -, -, kept⟩ :=
    EndpointRun.kept_run (EndpointRun.kept_start settings bindFault) acts few
  have alone : Alone n s e := by
    intro m c' there' stage'
    have own := kept.sound.held (line_eq there) (by rw [lineOf, stage]; rfl)
    have other := kept.sound.held (line_eq there') (by rw [lineOf_open stage']; rfl)
    have same := other.symm.trans own
    exact congrArg Prod.fst (Option.some.inj same)
  have held : Held n s c slot.queue (e.eventsOf s) e := ⟨there, ⟨slot, known, rfl⟩, rfl, alone⟩
  exact held.established stage fresh small

theorem Conversation.stands (asked : Asked n s peer waiting e)
    (wires : ∀ f ∈ waiting, f.wire = .ok (Exchange.frameBytes f))
    (run : Conversation n s e writes finished got e') :
    ∃ frames out, got ++ out = (e.takeWritten n).1 ++ frames.flatMap Exchange.frameBytes ∧
      Stand n s peer waiting e writes finished out e' frames := by
  obtain ⟨sent, asks⟩ := asked
  induction run with
  | start => exact ⟨[], sent, by simp [asks.collect.1], .asking rfl rfl asks⟩
  | write b _ ih =>
      obtain ⟨frames, out, total, stand⟩ := ih
      obtain ⟨more, wrote⟩ := stand.write wires b
      exact ⟨_, _, by simp [← List.append_assoc, total], wrote⟩
  | finish ends _ ih =>
      obtain ⟨frames, out, total, stand⟩ := ih
      exact ⟨frames, out, total, stand.finish ends⟩
  | collect _ ih =>
      obtain ⟨frames, out, total, stand⟩ := ih
      obtain ⟨written, stays⟩ := stand.collect
      exact ⟨frames, [], by simpa [written] using total, stays⟩
  | keepalive _ ih =>
      obtain ⟨frames, out, total, stand⟩ := ih
      obtain ⟨more, pinged⟩ := stand.keepalive
      exact ⟨_, _, by simp [← List.append_assoc, total], pinged⟩
  | elsewhere apart _ ih =>
      obtain ⟨frames, out, total, stand⟩ := ih
      exact ⟨frames, out, total, stand.elsewhere apart⟩

/-! ## The outcome -/

/-- The first frame has not come in whole, and its length may be one of a frame. -/
def Incomplete (b : Bytes) : Prop :=
  b.length < 4 ∨ Bytes.ofBig (b.take 4) ≤ maxBody ∧ b.length < 4 + Bytes.ofBig (b.take 4)

theorem decode_of_incomplete (short : Incomplete b) :
    ∃ r, (Reader.mk none b).decode = (.more, r) ∧
      (r.buffer.isEmpty = true ↔ b.length = 0 ∨ b.length = 4) := by
  by_cases headless : b.length < 4
  · refine ⟨⟨none, b⟩, Reader.Poll.decode_eq (.headless ?_), ?_⟩
    · simp [Bytes.split?]
      omega
    · rw [List.isEmpty_iff_length_eq_zero]
      change b.length = 0 ↔ _
      omega
  · obtain ⟨small, short⟩ := short.resolve_left headless
    refine ⟨⟨some _, b.drop 4⟩, Reader.Poll.decode_eq (.headed ?_ small ?_), ?_⟩
    · simp [Bytes.split?]
      omega
    · simp [Bytes.split?]
      omega
    · rw [List.isEmpty_iff_length_eq_zero, List.length_drop]
      omega

theorem decode_of_big {head : Bytes} (four : head.length = 4) (big : maxBody < Bytes.ofBig head)
    (rest : Bytes) :
    (Reader.mk none (head ++ rest)).decode = (.error .tooBig, ⟨none, head ++ rest⟩) := by
  have cut : Bytes.split? 4 (head ++ rest) = some (head, rest) := by
    rw [← four]
    exact Bytes.split?_append head rest
  exact Reader.Poll.decode_eq (.refused cut big)

theorem heardIn_of_ack (ack : (Reader.mk none bytes).decode = (.frame .helloAck, ⟨none, rest⟩)) :
    heardIn s bytes finished = heardIn s rest finished ∧
      endingIn bytes finished = endingIn rest finished := by
  obtain ⟨decoded, left⟩ := decodedIn_of_ack ack
  have ending : endingIn bytes finished = endingIn rest finished := by
    rw [endingIn, decoded, left]
    rfl
  refine ⟨?_, ending⟩
  rw [heardIn, ending, decoded, messagesIn_cons rfl]
  rfl

theorem Stand.fails {start : Endpoint}
    (h : Stand n s peer waiting start writes finished out e frames)
    (fails : failureIn writes.flatten finished = some err) :
    e.eventsOf s = start.eventsOf s ++ [.closed s err.toReason] ∧ e.slots.contains s = false := by
  cases h with
  | asking early short _ =>
      rw [failureIn_of_more short, early] at fails
      cases fails
  | failed fails' past =>
      obtain rfl := Option.some.inj (fails'.symm.trans fails)
      exact ⟨past.events, by simp [Table.contains, past.slot]⟩
  | connected ack _ _ =>
      rw [failureIn, ack] at fails
      cases fails

theorem Stand.waits {start : Endpoint} (h : Stand n s peer waiting start writes false out e frames)
    (short : (Reader.mk none writes.flatten).decode = (.more, r)) :
    e.eventsOf s = start.eventsOf s ∧ e.slots.contains s = true := by
  cases h with
  | asking _ _ asks =>
      obtain ⟨c, held, -⟩ := asks.held
      exact ⟨held.events, held.contains⟩
  | failed fails _ =>
      rw [failureIn_of_more short] at fails
      cases fails
  | connected ack _ _ => cases short.symm.trans ack

theorem Stand.hears {start : Endpoint}
    (h : Stand n s peer waiting start writes finished out e frames)
    (ack : (Reader.mk none writes.flatten).decode = (.frame .helloAck, r)) :
    ∃ before wrote after, frames = before ++ wrote ++ after ∧
      Heard n s (start.emit (.connected s peer)) writes finished (before ++ after) out e ∧
      (wrote = waiting ∨ wrote = [] ∧ ¬ GoesOn writes.flatten) := by
  cases h with
  | asking _ short _ => cases short.symm.trans ack
  | failed fails _ =>
      rw [failureIn, ack] at fails
      cases fails
  | connected _ hears queue => exact ⟨_, _, _, rfl, hears, queue⟩

/-- The bytes that came back and the end of the stream say how a connecting session settles. If they
begin with an acknowledgement it is connected, and what follows is heard as in an open session. If
they begin with anything else it fails with the reason, also if the stream ends before. Until the
first frame is whole nothing is reported. -/
theorem handshake_outcome (asked : Asked n s peer waiting e)
    (small : ∀ f ∈ waiting, f.body.length ≤ maxBody)
    (run : Conversation n s e writes finished got e') :
    let bytes := writes.flatten
    let fails := fun reason : String =>
      e'.eventsOf s = e.eventsOf s ++ [.closed s (.problem reason)] ∧ e'.slots.contains s = false
    (∀ b rest, b.length ≤ maxBody → bytes = Bytes.big 4 b.length ++ b ++ rest →
      (Frame.ofBody b = .ok .helloAck →
        e'.eventsOf s = e.eventsOf s ++ .connected s peer :: heardIn s rest finished ∧
        (e'.slots.contains s = true ↔ endingIn rest finished = none) ∧
        ∃ (answered : List Bytes) (before wrote after : List Frame), Answered writes answered ∧
          got ++ (e'.takeWritten n).1 = (e.takeWritten n).1 ++
            (before ++ wrote ++ after).flatMap Exchange.frameBytes ∧
          (before ++ after).filter (!Exchange.isPing ·) = answersIn (decodedIn answered.flatten) ∧
          (wrote = waiting ∨ wrote = [] ∧ e'.slots.contains s = false)) ∧
      (∀ reason, Frame.ofBody b = .ok (.close reason) →
        fails ("Protocol error: rejected by peer: " ++ reason)) ∧
      (∀ f, Frame.ofBody b = .ok f → f ≠ .helloAck → (∀ reason, f ≠ .close reason) →
        fails ("Protocol error: expected HelloAck, got " ++ f.describe)) ∧
      (∀ err, Frame.ofBody b = .error err → fails ("Serialization error: " ++ err.message))) ∧
    (∀ head rest, head.length = 4 → maxBody < Bytes.ofBig head → bytes = head ++ rest →
      fails "IO error: frame size too big") ∧
    (Incomplete bytes →
      (finished = false → e'.eventsOf s = e.eventsOf s ∧ e'.slots.contains s = true) ∧
      (finished = true → fails (if bytes.length = 0 ∨ bytes.length = 4 then "Connection closed"
        else "IO error: bytes remaining on stream"))) := by
  intro bytes fails
  obtain ⟨frames, out, total, stand⟩ := run.stands asked (fun f mem => wire_of_small (small f mem))
  refine ⟨?_, ?_, ?_⟩
  · intro b rest length same
    have decoded := decode_framed length rest
    rw [← same, Decoded.ofBody] at decoded
    have refuses {f : Frame} {err : ChannelError} (read : Frame.ofBody b = .ok f)
        (refused : refusal? (.frame f) = some err) : fails err.message := by
      rw [read] at decoded
      exact stand.fails (failureIn_of_refusal decoded refused)
    refine ⟨?_, fun reason read => refuses read rfl, ?_, ?_⟩
    · intro read
      rw [read] at decoded
      obtain ⟨before, wrote, after, rfl, hears, queue⟩ := stand.hears decoded
      obtain ⟨answered, longest, answers⟩ := hears.answers
      obtain ⟨told, held⟩ := hears.told
      obtain ⟨same', ending⟩ : heardIn s bytes finished = heardIn s rest finished ∧ _ :=
        heardIn_of_ack decoded
      rw [← hears.collect.1] at total
      refine ⟨?_, by rw [held, ending], answered, before, wrote, after, longest, total, answers, ?_⟩
      · rw [told, same']
        simp [ChannelEvent.session]
      · refine queue.imp_right (And.imp_right fun ends => ?_)
        rw [← Bool.not_eq_true, held]
        exact fun endless => ends (Option.or_eq_none_iff.mp endless).1
    · intro f read noAck noClose
      cases f with
      | helloAck => exact absurd rfl noAck
      | close reason => exact absurd rfl (noClose reason)
      | _ => exact refuses read rfl
    · intro err read
      rw [read] at decoded
      exact stand.fails (failureIn_of_refusal decoded rfl)
  · intro head rest four big same
    have decoded := decode_of_big four big rest
    rw [← same] at decoded
    exact stand.fails (failureIn_of_refusal decoded rfl)
  · intro short
    obtain ⟨r, decoded, empty⟩ := decode_of_incomplete short
    constructor
    · rintro rfl
      exact stand.waits decoded
    · rintro rfl
      have message : (silence r).message = if bytes.length = 0 ∨ bytes.length = 4
          then "Connection closed" else "IO error: bytes remaining on stream" := by
        simp only [silence, empty]
        split <;> rfl
      rw [← message]
      exact stand.fails (failureIn_of_more decoded)

theorem handshake_outcome_cut :
    let e := ((EndpointRun.start {} none).run [.connect "b" 7 ⟨5⟩,
      .send ⟨1⟩ [9] .reliable]).endpoint.established 0
    let ack := Exchange.frameBytes .helloAck
    let writes := [ack.take 3, ack.drop 3 ++ Exchange.frameBytes (.message [65]) ++ [0, 0]]
    ∃ e', Asked 0 ⟨1⟩ "b" [.message [9]] e ∧ Conversation 0 ⟨1⟩ e writes true [] e' ∧
      e'.eventsOf ⟨1⟩ = [.connected ⟨1⟩ "b", .message ⟨1⟩ [65],
        .closed ⟨1⟩ (.problem "IO error: bytes remaining on stream")] ∧
      e'.slots.contains ⟨1⟩ = false := by
  intro e ack writes
  let acts : List EndpointAct := [.connect "b" 7 ⟨5⟩, .send ⟨1⟩ [9] .reliable]
  let x := (EndpointRun.start {} none).run acts
  have few : (made x.history).length ≤ UInt64.size := by
    rw [show made x.history = [⟨1⟩] by decide +kernel]
    decide
  have dials : x.endpoint.connections[0]?.map (fun c => (c.stage, c.reader, c.control, c.pipe)) =
      some (.dialing ⟨1⟩ "b" 7, ({} : Reader), [], ({} : Pipe)) := by decide +kernel
  have queue : (x.endpoint.slots.get? ⟨1⟩).map (·.queue) = some [.message [9]] := by decide +kernel
  obtain ⟨c, there, parts⟩ := Option.map_eq_some_iff.mp dials
  obtain ⟨slot, known, waits⟩ := Option.map_eq_some_iff.mp queue
  simp only [Prod.mk.injEq] at parts
  have asked : Asked 0 ⟨1⟩ "b" slot.queue e :=
    asked_of_run {} none acts few 0 c ⟨1⟩ "b" 7 slot there parts.1 parts.2 known (by decide +kernel)
  rw [waits] at asked
  have run : Conversation 0 ⟨1⟩ e writes true [] (((e.settle 0 (.write (ack.take 3))).settle 0
      (.write (ack.drop 3 ++ Exchange.frameBytes (.message [65]) ++ [0, 0]))).settle 0 .halfClose) :=
    .finish (.inl rfl) ((Conversation.start.write _).write _)
  have outcome := handshake_outcome asked (by decide +kernel) run
  obtain ⟨events, ending, -⟩ := (outcome.1 Frame.helloAck.body
    (Exchange.frameBytes (.message [65]) ++ [0, 0]) (by decide +kernel) (by decide +kernel)).1
      (by decide +kernel)
  have first : (Reader.mk none (Exchange.frameBytes (.message [65]) ++ [0, 0])).decode =
      (.frame (.message [65]), ⟨none, [0, 0]⟩) := by decide +kernel
  have second : (Reader.mk none [0, 0]).decode = (.more, ⟨none, [0, 0]⟩) := by decide +kernel
  have decoded : decodedIn (Exchange.frameBytes (.message [65]) ++ [0, 0]) =
      [.frame (.message [65])] := by
    rw [decodedIn, Reader.exhaust_of_isBody first rfl, Reader.exhaust_of_more second]
  have left : leftIn (Exchange.frameBytes (.message [65]) ++ [0, 0]) = ⟨none, [0, 0]⟩ := by
    rw [leftIn, Reader.exhaust_of_isBody first rfl, Reader.exhaust_of_more second]
  refine ⟨_, asked, run, ?_, ?_⟩
  · rw [events, show e.eventsOf ⟨1⟩ = [] by decide +kernel, heardIn, endingIn, decoded, left]
    rfl
  · rw [← Bool.not_eq_true, ending, endingIn, decoded, left]
    simp [Decoded.ending?]

end StreamTunnel.Endpoint
