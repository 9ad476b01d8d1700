import Mathlib.Data.List.Nodup
import StreamTunnel.Proofs.Endpoint.Backlog
import StreamTunnel.Proofs.Endpoint.Grammar

namespace StreamTunnel.Endpoint
open StreamTunnel.Frame

/-- The session that is closed from this side, or whose end is reported. -/
def Mark.ends? : Mark → Option SessionId
  | close s | event _ (.closed s _) => some s
  | _ => none

def since (s : SessionId) (h : List Mark) : List Mark :=
  (h.dropWhile (·.made? ≠ some s)).tail

def isOver (s : SessionId) (h : List Mark) : Bool :=
  (since s h).any (·.ends? = some s)

variable {h h' : List Mark} {o : Outline} {s : SessionId} {m : Mark} {l : Line} {n : Nat}

theorem since_cons (m : Mark) (h : List Mark) :
    since s (m :: h) = if m.made? = some s then h else since s h := by
  by_cases makes : m.made? = some s <;> simp [since, makes]

theorem since_append (known : s ∈ made h) (h' : List Mark) :
    since s (h ++ h') = since s h ++ h' := by
  induction h with
  | nil => cases known
  | cons m rest ih =>
      rw [List.cons_append, since_cons, since_cons]
      split
      · rfl
      · next other =>
        apply ih
        simpa [made, other] using known

theorem since_made (new : s ∉ made h) (makes : m.made? = some s) : since s (h ++ [m]) = [] := by
  induction h with
  | nil => simp [since, makes]
  | cons m' rest ih =>
      have other : m'.made? ≠ some s := fun same => new (List.mem_filterMap.mpr ⟨m', by simp, same⟩)
      rw [List.cons_append, since_cons, if_neg other]
      apply ih
      exact fun mem => new (by simpa [made, other] using mem)

theorem isOver_append (known : s ∈ made h) (h' : List Mark) :
    isOver s (h ++ h') = (isOver s h || h'.any (·.ends? = some s)) := by
  rw [isOver, since_append known, List.any_append, isOver]

theorem since_story (s : SessionId) (h : List Mark) : since s (story s h) = story s (since s h) := by
  induction h with
  | nil => rfl
  | cons m rest ih =>
      rw [since_cons]
      by_cases makes : m.made? = some s
      · have mine := session_of_made? makes
        rw [if_pos makes, story, List.filter_cons_of_pos (by simpa using mine), since_cons,
          if_pos makes]
        rfl
      · rw [if_neg makes, ← ih]
        by_cases mine : m.session? = some s
        · rw [story, List.filter_cons_of_pos (by simpa using mine), since_cons, if_neg makes]
          rfl
        · rw [story, List.filter_cons_of_neg (by simpa using mine)]
          rfl

theorem session_of_ends? (ends : m.ends? = some s) : m.session? = some s := by
  unfold Mark.ends? at ends
  split at ends <;> cases ends <;> rfl

theorem isOver_story (s : SessionId) (h : List Mark) : isOver s (story s h) = isOver s h := by
  rw [isOver, since_story, story, List.any_filter, isOver]
  congr 1
  funext m
  by_cases ends : m.ends? = some s
  · simp [ends, session_of_ends? ends]
  · simp [ends]

theorem Tale.isOver (tale : Tale s h (some l)) : isOver s h = l.session?.isNone := by
  generalize something : some l = l₀ at tale
  induction tale generalizing l with
  | unmade => cases something
  | accepted before ih =>
      subst something
      rw [isOver_append before.mem_made, ih rfl]
      exact Bool.or_false _
  | closedNothing before absent ih =>
      subst something
      rw [isOver_append before.mem_made, ih rfl, show l.session? = none from absent]
      rfl
  | connect n peer before =>
      cases something
      rw [Endpoint.isOver, since_made before.not_made rfl]
      rfl
  | incoming n peer port before =>
      cases something
      rw [Endpoint.isOver, since_made before.not_made rfl]
      rfl
  | turned before session turn ih =>
      cases something
      rw [isOver_append before.mem_made, ih rfl, session]
      cases turn <;> simp_all [Mark.ends?, Line.session?]

theorem Kept.listed (kept : Kept h o) (s : SessionId) :
    o.slot s ≠ none ↔ s ∈ made h ∧ isOver s h = false := by
  obtain ⟨l, tale, here⟩ := kept.tales s
  cases here with
  | unmade absent =>
      have new : s ∉ made h := fun known => tale.not_made (mem_made_story.mpr known)
      simp [absent, new]
  | ended absent =>
      have ended := tale.isOver
      rw [isOver_story] at ended
      simp [absent, ended, Line.session?]
  | carried carries =>
      have ended := tale.isOver
      rw [isOver_story, carries.session] at ended
      simp [carries.slot, ended, mem_made_story.mp tale.mem_made]

theorem unusable_of_absent {e : Endpoint} (absent : e.slots.get? s = none) :
    (∀ data r, e.send s data r = (.error (.unknownSession s), e)) ∧
      e.accept s = (.error (.unknownSession s), e) ∧ e.quality s = none ∧
      ∀ reason, e.close s reason = e := by
  refine ⟨?_, ?_, ?_, ?_⟩
  · intro data r
    rw [send, absent]
  · rw [accept, absent]
  · rw [quality, absent]
    rfl
  · intro reason
    rw [close, absent]

theorem Kept.sessionCount {e : Endpoint} (kept : Kept h e.outline)
    (few : (made h).length ≤ UInt64.size) (sorted : e.slots.keys.Pairwise (· < ·)) :
    e.sessionCount + (made h).countP (isOver · h) = (made h).length := by
  have distinct : e.slots.keys.Nodup := sorted.imp SessionId.ne_of_lt
  have listed : e.slots.keys.Perm ((made h).filter (!isOver · h)) := by
    rw [List.perm_ext_iff_of_nodup distinct ((kept.numbered.nodup few).filter _)]
    intro s
    have held := kept.listed s
    rw [← Table.contains_iff_mem_keys, Table.contains, Option.isSome_iff_ne_none, List.mem_filter]
    simpa [outline] using held
  have size : e.sessionCount = (made h).countP (!isOver · h) := by
    rw [List.countP_eq_length_filter, ← listed.length_eq, Table.keys, List.length_map]
    rfl
  have rest : (made h).countP (fun s => ¬ isOver s h = true) = (made h).countP (!isOver · h) :=
    List.countP_congr (by simp)
  rw [List.length_eq_countP_add_countP (isOver · h), rest, size, Nat.add_comm]

def hello? : Decoded → Option (Identity × UInt32)
  | .frame (.hello peer port) => some (peer, port)
  | _ => none

theorem greets_iff {b : Bytes} : Greets b ↔ (hello? (Reader.feed {} b).decode.1).isSome := by
  constructor
  · rintro ⟨body, rest, peer, port, rfl, small, read⟩
    have decoded := decode_framed small rest
    rw [Decoded.ofBody, read] at decoded
    rw [show Reader.feed {} _ = Reader.mk none _ from rfl, List.nil_append, decoded]
    rfl
  · intro hello
    cases decoded : (Reader.feed {} b).decode with
    | mk d r =>
        rw [decoded] at hello
        unfold hello? at hello
        split at hello
        · next first =>
          obtain rfl : d = _ := first
          exact greets_of_decode decoded
        · cases hello

theorem act_of_greeting {e : Endpoint} {c : Connection} (there : e.connections[n]? = some c)
    (stage : c.stage = .greeting) (isOpen : (c.pipe.nearClosed || c.pipe.ending.isSome) = false)
    (b : Bytes) :
    let first := hello? ((c.reader.feed c.pipe.toNear).feed b).decode.1
    (e.act n (.write b)).events = e.events ++
        first.toList.map (fun p => .incoming ⟨e.nextSession⟩ p.1 p.2) ∧
      (first.isSome → (e.act n (.write b)).slots.contains ⟨e.nextSession⟩ = true) := by
  intro first
  rw [act_eq_readGreeting there stage, readGreeting, reader_take, isOpen, heardBy,
    if_neg Bool.false_ne_true]
  simp only [first]
  have nothing {α : Prop} (hello : (none : Option (Identity × UInt32)).isSome) : α := by
    cases hello
  cases ((c.reader.feed c.pipe.toNear).feed b).decode with
  | mk d r =>
    cases d with
    | more =>
        dsimp only
        split <;> exact ⟨(List.append_nil _).symm, nothing⟩
    | error err => exact ⟨(List.append_nil _).symm, nothing⟩
    | frame f =>
        cases f with
        | hello peer port =>
            refine ⟨rfl, fun _ => ?_⟩
            exact (Table.contains_insert ..).trans (if_pos rfl)
        | _ => exact ⟨(List.append_nil _).symm, nothing⟩

end StreamTunnel.Endpoint

namespace StreamTunnel.EndpointRun
open Endpoint

variable {x : EndpointRun} {n : Nat} {c : Connection}

theorem step_greeting (kept : Kept x.history x.endpoint.outline)
    (there : x.endpoint.connections[n]? = some c) (stage : c.stage = .greeting) (b : Bytes) :
    let y := x.step (.far n (.write b))
    Greets (written n y.history) ↔ ∃ s peer port,
      y.history = x.history ++ [.wrote n b, .event n (.incoming s peer port)] ∧
        y.endpoint.slots.contains s = true := by
  intro y
  have line : x.endpoint.outline.line n = some (.greeting (c.reader.feed c.pipe.toNear)
      (c.pipe.nearClosed || c.pipe.ending.isSome)) := by rw [line_eq there, lineOf, stage]
  obtain ⟨isOpen, reads, -⟩ := (kept.greeted n).greeting line
  obtain ⟨told, held⟩ := act_of_greeting there stage isOpen b
  rw [reads b] at told held
  have marks : x.endpoint.marks (.far n (.write b)) = [.wrote n b] :=
    if_pos (List.getElem?_eq_some_iff.mp there).1
  have grown : y.history = x.history ++ [.wrote n b] ++
      ((hello? (Frame.Reader.feed {} (written n x.history ++ b)).decode.1).toList.map
        fun p => .event n (.incoming ⟨x.endpoint.nextSession⟩ p.1 p.2)) := by
    simp only [y, step, marks, perform, told, List.drop_left, reporting, List.map_map]
    rfl
  have quiet (p : Option (Identity × UInt32)) :
      written n (p.toList.map fun p => .event n (.incoming ⟨x.endpoint.nextSession⟩ p.1 p.2)) = [] := by
    cases p <;> rfl
  have wrote : written n y.history = written n x.history ++ b := by
    rw [grown, written_append, written_append, quiet, List.append_nil]
    exact congrArg (_ ++ ·) (written_wroteMarks n (.write b))
  rw [wrote, greets_iff, grown]
  constructor
  · intro hello
    obtain ⟨p, first⟩ := Option.isSome_iff_exists.mp hello
    refine ⟨⟨x.endpoint.nextSession⟩, p.1, p.2, ?_, held hello⟩
    rw [first]
    simp
  · rintro ⟨s, peer, port, same, -⟩
    cases first : hello? (Frame.Reader.feed {} (written n x.history ++ b)).decode.1 with
    | some p => rfl
    | none => simp [first] at same

/-- Which sessions are in the table. One is from when it is made until it is closed from this side or
its end is reported, whichever comes first. An outgoing one is made when it is connected, one that
comes in when a whole hello has arrived. One that is not in the table cannot be used. -/
theorem table_accurate (settings : EndpointSettings) (bindFault : Option String)
    (acts : List EndpointAct)
    (few : (made ((start settings bindFault).run acts).history).length ≤ UInt64.size) :
    let x := (start settings bindFault).run acts
    let h := x.history
    ((made h).Nodup ∧
      ∀ s, x.endpoint.slots.contains s = true ↔ s ∈ made h ∧ isOver s h = false) ∧
    (∀ s, x.endpoint.slots.contains s = false →
      (∀ data r, x.endpoint.send s data r = (.error (.unknownSession s), x.endpoint)) ∧
      x.endpoint.accept s = (.error (.unknownSession s), x.endpoint) ∧
      x.endpoint.quality s = none ∧ ∀ reason, x.endpoint.close s reason = x.endpoint) ∧
    x.endpoint.sessionCount + (made h).countP (isOver · h) = (made h).length ∧
    (∀ peer port timeout, let y := x.step (.connect peer port timeout)
      ∃ s, (x.endpoint.connect peer port timeout).1 = .ok s ∧
        y.history = h ++ [.connect x.endpoint.connections.length s peer] ∧
        y.endpoint.slots.contains s = true) ∧
    ∀ n c b, x.endpoint.connections[n]? = some c → c.stage = .greeting →
      let y := x.step (.far n (.write b))
      Greets (written n y.history) ↔ ∃ s peer port,
        y.history = h ++ [.wrote n b, .event n (.incoming s peer port)] ∧
          y.endpoint.slots.contains s = true := by
  intro x h
  obtain ⟨-, -, -, kept⟩ := kept_run (kept_start settings bindFault) acts few
  refine ⟨⟨kept.numbered.nodup few, ?_⟩, ?_, ?_, ?_, ?_⟩
  · intro s
    rw [← kept.listed s, Table.contains, Option.isSome_iff_ne_none]
    simp [outline, x]
  · intro s absent
    apply unusable_of_absent
    simpa [Table.contains] using absent
  · exact kept.sessionCount few (attained_run settings bindFault acts).orderly.sorted
  · intro peer port timeout y
    refine ⟨⟨x.endpoint.nextSession⟩, rfl, ?_, (Table.contains_insert ..).trans (if_pos rfl)⟩
    simp [y, h, step, perform, marks, connect, openSlot]
  · intro n c b there stage
    exact step_greeting kept there stage b

theorem table_accurate_two_sessions :
    let acts : List EndpointAct := [.listen, .connect "a" 1 ⟨5⟩, .inbound, .established 0,
      .far 1 (.write (Exchange.frameBytes (.hello "b" 2))),
      .far 0 (.write (Exchange.frameBytes .helloAck)), .close ⟨1⟩ "done"]
    let x := (start {} none).run acts
    (made x.history).length ≤ UInt64.size ∧ made x.history = [⟨1⟩, ⟨2⟩] ∧
      x.endpoint.slots.contains ⟨1⟩ = false ∧ x.endpoint.slots.contains ⟨2⟩ = true ∧
      x.endpoint.send ⟨1⟩ [7] .reliable = (.error (.unknownSession ⟨1⟩), x.endpoint) ∧
      x.endpoint.sessionCount = 1 := by
  intro acts x
  have sessions : made x.history = [⟨1⟩, ⟨2⟩] := by decide +kernel
  have few : (made x.history).length ≤ UInt64.size := by
    rw [sessions]
    decide
  obtain ⟨⟨-, listed⟩, unusable, count, -⟩ := table_accurate {} none acts few
  have first : isOver ⟨1⟩ x.history = true := by decide +kernel
  have second : isOver ⟨2⟩ x.history = false := by decide +kernel
  have gone : x.endpoint.slots.contains ⟨1⟩ = false := by
    rw [← Bool.not_eq_true, listed, show isOver ⟨1⟩ _ = true from first]
    simp
  refine ⟨few, sessions, gone, (listed ⟨2⟩).mpr ⟨?_, second⟩, (unusable ⟨1⟩ gone).1 [7] _, ?_⟩
  · rw [show made _ = _ from sessions]
    decide
  · have ended : (made x.history).countP (isOver · x.history) = 1 := by
      rw [sessions, List.countP_cons, List.countP_singleton, first, second]
      rfl
    have total := count
    rw [show (made _).countP _ = 1 from ended, show made _ = _ from sessions] at total
    exact Nat.add_right_cancel total

end StreamTunnel.EndpointRun
