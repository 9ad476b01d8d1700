import Mathlib.Data.List.Induction
import StreamTunnel.Proofs.Link.Run

namespace StreamTunnel

def marks (s : SessionId) (events : List LinkEvent) : List Bool :=
  events.filterMap fun
    | .opened s' _ => if s' = s then some true else none
    | .closed s' _ => if s' = s then some false else none
    | _ => none

def Alternates (l : List Bool) : Prop :=
  ∀ i b, l[i]? = some b → b = decide (i % 2 = 0)

def LinkEvent.isOfHost : LinkEvent → Bool
  | .reconnecting .. | .disconnected _ => false
  | _ => true

theorem Alternates.append {l : List Bool} (h : Alternates l) {b : Bool}
    (turn : b = true ↔ l.getLast? ≠ some true) : Alternates (l ++ [b]) := by
  -- the last of a list that takes turns tells how long it is, up to a multiple of two
  have parity : b = decide (l.length % 2 = 0) := by
    rw [Bool.eq_iff_iff, decide_eq_true_iff, turn]
    rcases List.eq_nil_or_concat l with rfl | ⟨l', last, rfl⟩
    · simp
    · have before : last = decide (l'.length % 2 = 0) := h l'.length last (by simp)
      simp [before]
      omega
  intro i b' place
  rw [List.getElem?_append] at place
  split at place
  · exact h i b' place
  · next beyond =>
    obtain ⟨bound, same⟩ := List.getElem?_eq_some_iff.mp place
    rw [List.length_singleton] at bound
    obtain rfl : i = l.length := by omega
    rw [← parity, ← same, List.getElem_singleton]

/-- What a host has reported when these are the sessions that are open. -/
structure Reports (isOpen : SessionId → Bool) (events : List LinkEvent) : Prop where
  alternate : ∀ s, Alternates (marks s events)
  last : ∀ s, isOpen s = true ↔ (marks s events).getLast? = some true
  message : ∀ before s data after, events = before ++ .message s data :: after →
    (marks s before).getLast? = some true
  host : ∀ e ∈ events, e.isOfHost = true

variable {isOpen isOpen' : SessionId → Bool} {events : List LinkEvent} {s : SessionId}

theorem marks_append (s : SessionId) (events later : List LinkEvent) :
    marks s (events ++ later) = marks s events ++ marks s later :=
  List.filterMap_append

theorem Reports.nil : Reports (fun _ => false) [] where
  alternate := by simp [marks, Alternates]
  last := by simp [marks]
  message := by simp
  host := by simp

theorem Reports.marked (h : Reports isOpen events) {e : LinkEvent} {b : Bool}
    (own : ∀ s', marks s' [e] = if s' = s then [b] else []) (turn : isOpen s = !b)
    (next : ∀ s', isOpen' s' = if s' = s then b else isOpen s')
    (host : e.isOfHost = true) (mark : ∀ s' data, e ≠ .message s' data) :
    Reports isOpen' (events ++ [e]) where
  alternate := by
    intro s'
    rw [marks_append, own]
    split
    · next same =>
      subst same
      apply (h.alternate s').append
      rw [Ne, ← h.last s', turn, Bool.not_eq_true', Bool.not_eq_false]
    · rw [List.append_nil]
      exact h.alternate s'
  last := by
    intro s'
    rw [marks_append, own, next]
    split
    · simp
    · rw [List.append_nil]
      exact h.last s'
  message := by
    intro before s' data after cut
    rcases cut_append_singleton cut with ⟨-, same⟩ | ⟨after', cut⟩
    · exact absurd same (mark s' data)
    · exact h.message before s' data after' cut
  host := by
    rw [List.forall_mem_append, List.forall_mem_singleton]
    exact ⟨h.host, host⟩

theorem Reports.opened (h : Reports isOpen events) (peer : Identity) (new : isOpen s = false)
    (next : ∀ s', isOpen' s' = if s' = s then true else isOpen s') :
    Reports isOpen' (events ++ [.opened s peer]) := by
  refine h.marked (fun s' => ?_) new next rfl (by simp)
  by_cases same : s = s'
  · simp [marks, same]
  · simp [marks, same, Ne.symm same]

theorem Reports.closed (h : Reports isOpen events) (reason : CloseReason) (there : isOpen s = true)
    (next : ∀ s', isOpen' s' = if s' = s then false else isOpen s') :
    Reports isOpen' (events ++ [.closed s reason]) := by
  refine h.marked (fun s' => ?_) there next rfl (by simp)
  by_cases same : s = s'
  · simp [marks, same]
  · simp [marks, same, Ne.symm same]

theorem Reports.messaged (h : Reports isOpen events) (data : Bytes) (there : isOpen s = true) :
    Reports isOpen (events ++ [.message s data]) where
  alternate := by simpa [marks_append, marks] using h.alternate
  last := by simpa [marks_append, marks] using h.last
  message := by
    intro before s' data' after cut
    rcases cut_append_singleton cut with ⟨rfl, same⟩ | ⟨after', cut⟩
    · cases same
      exact (h.last s).mp there
    · exact h.message before s' data' after' cut
  host := by
    rw [List.forall_mem_append, List.forall_mem_singleton]
    exact ⟨h.host, rfl⟩

theorem Reports.closedAll (h : Reports isOpen events) (reason : CloseReason) {sessions : List SessionId}
    (distinct : sessions.Nodup) (there : ∀ s ∈ sessions, isOpen s = true)
    (next : ∀ s, isOpen' s = (isOpen s && s ∉ sessions)) :
    Reports isOpen' (events ++ sessions.map (.closed · reason)) := by
  -- one after the other; that they are distinct keeps those to come open
  induction sessions generalizing isOpen events with
  | nil =>
      have same : isOpen' = isOpen := by
        funext s
        simp [next s]
      simpa [same] using h
  | cons s rest ih =>
      rw [List.forall_mem_cons] at there
      rw [List.nodup_cons] at distinct
      have first : Reports (fun s' => if s' = s then false else isOpen s')
          (events ++ [.closed s reason]) := h.closed reason there.1 (fun _ => rfl)
      rw [List.map_cons, List.append_cons]
      refine ih first distinct.2 ?_ ?_
      · intro s' mem
        rw [if_neg (ne_of_mem_of_not_mem mem distinct.1)]
        exact there.2 s' mem
      · intro s'
        rw [next]
        by_cases same : s' = s <;> simp [same]

/-- A session is only accepted in answer to its coming in. -/
def Answering (record : List Signal) : Prop :=
  ∀ before s after, record = before ++ .asked (.accept s) :: after →
    ∃ before' peer port, before = before' ++ [.told (.incoming s peer port)]

variable {record extra : List Signal}

theorem Answering.append {x : Signal} (h : Answering record) (other : ∀ s, x ≠ .asked (.accept s)) :
    Answering (record ++ [x]) := by
  intro before s after cut
  rcases cut_append_singleton cut with ⟨-, same⟩ | ⟨after', cut⟩
  · exact absurd same (other s)
  · exact h before s after' cut

theorem Answering.plain (h : Answering record) (plain : ∀ x ∈ extra, x.isPlain) :
    Answering (record ++ extra) := by
  induction extra generalizing record with
  | nil => simpa using h
  | cons x rest ih =>
      rw [List.forall_mem_cons] at plain
      rw [List.append_cons]
      refine ih (h.append ?_) plain.2
      rintro s rfl
      cases plain.1

theorem Answering.accept (h : Answering record) (s : SessionId) (peer : Identity) (port : UInt32) :
    Answering (record ++ [.told (.incoming s peer port)] ++ [.asked (.accept s)]) := by
  intro before s' after cut
  rcases cut_append_singleton cut with ⟨rfl, same⟩ | ⟨after', cut⟩
  · cases same
    exact ⟨record, peer, port, rfl⟩
  · exact h.append (by simp) before s' after' cut

namespace Link

variable {τ : Type} {called : Prop} {l : Link (Recorded τ)}

structure Host (called : Prop) (l : Link (Recorded τ)) : Prop where
  claimed : called → l.state.role = some .host ∨ l.state.isShutDown = true
  role : l.state.isGuest = false
  waits : l.state.pending = none
  listening : l.state.listening = true → l.state.role = some .host
  keys : l.state.active.keys.Nodup
  reports : Reports l.state.active.contains l.events
  dials : ∀ peer port timeout, .asked (.connect peer port timeout) ∉ l.record
  accepts : Answering l.record

theorem Host.consults {l' : Link (Recorded τ)} (h : l.Host called) (same : l.Consults l') :
    l'.Host called := by
  obtain ⟨quality, c, extra, rfl, noted, plain⟩ := same
  refine ⟨h.claimed, h.role, h.waits, h.listening, h.keys, h.reports, ?_, ?_⟩
  · intro peer port timeout mem
    rw [Link.record, noted] at mem
    exact h.dials peer port timeout (mem_of_mem_append_plain plain rfl mem)
  · rw [Link.record, noted]
    exact h.accepts.plain plain

theorem shutDown_of_claim_host {st : LinkState} {e : LinkError} (notGuest : st.isGuest = false)
    (refused : st.claim .host = .error e) : st.isShutDown = true := by
  rw [LinkState.claim] at refused
  split at refused
  · assumption
  · split at refused
    · cases refused
    · next current role =>
      cases current with
      | host => simp at refused
      | guest => simp [LinkState.isGuest, role] at notGuest

theorem Host.imp {called' : Prop} (h : l.Host called) (weaker : called' → called) : l.Host called' :=
  { h with claimed := fun now => h.claimed (weaker now) }

theorem Host.closed (h : l.Host called) (s : SessionId) (reason : CloseReason) :
    (((l.update (fun st => { st with active := st.active.erase s })).update (·.settleHost)).report
      (l.state.active.contains s) s reason).Host called := by
  obtain ⟨quality, phase, settled⟩ : ∃ quality phase,
      ({ l.state with active := l.state.active.erase s } : LinkState).settleHost =
        { l.state with active := l.state.active.erase s, quality, phase } := by
    rw [LinkState.settleHost]
    split <;> exact ⟨_, _, rfl⟩
  rw [update, update, settled]
  have keys := Table.nodup_keys_erase h.keys s
  cases was : l.state.active.contains s with
  | true =>
      exact { h with
        keys
        reports := h.reports.closed reason was (fun _ => Table.contains_erase ..) }
  -- without a session of that name nothing is reported, and the same sessions are open
  | false =>
      refine { h with keys, reports := ?_ }
      have same : (l.state.active.erase s).contains = l.state.active.contains := by
        funext s'
        rw [Table.contains_erase]
        split
        · next same => rw [same, was]
        · rfl
      change Reports (l.state.active.erase s).contains l.events
      rw [same]
      exact h.reports

variable [Channel τ]

theorem Host.host (h : l.Host called) : l.host.2.Host True := by
  rcases host_cases l with ⟨e, refused, conflict⟩ | ⟨st, r, listening, c, done, ok, listens, noted⟩
  · rw [refused]
    exact { h with claimed := fun _ => .inr (shutDown_of_claim_host h.role conflict) }
  · rw [done]
    obtain ⟨-, -, rfl⟩ := claim_ok ok
    refine ⟨fun _ => .inl rfl, rfl, h.waits, fun _ => rfl, h.keys, h.reports, ?_, ?_⟩
    · intro peer port timeout mem
      rw [Link.record, noted] at mem
      simp [h.dials] at mem
    · rw [Link.record, noted]
      exact h.accepts.append (by simp)

theorem Host.connect (h : l.Host called) (claimed : called) (peer : Identity) :
    (l.connect peer).2 = l := by
  have refused : ∃ e, l.state.claim .guest = .error e := by
    rw [LinkState.claim]
    rcases h.claimed claimed with role | shut
    · rw [role]
      split <;> exact ⟨_, rfl⟩
    · rw [shut]
      exact ⟨_, rfl⟩
  obtain ⟨e, refused⟩ := refused
  rw [Link.connect, beginConnect, refused]

theorem Host.disconnect (h : l.Host called) : l.disconnect.Host called := by
  obtain ⟨events, state⟩ := disconnect_eq l
  rw [h.waits, Option.toList_none, List.append_nil] at events
  obtain ⟨extra, noted, plain⟩ := plain_disconnect l
  refine ⟨?_, ?_, ?_, ?_, ?_, ?_, ?_, ?_⟩
  · exact fun _ => .inr (by rw [state])
  · rw [state]
    exact h.role
  · rw [state]
  · simp [state]
  · rw [state]
    exact List.nodup_nil
  · rw [events, state]
    refine h.reports.closedAll .locally h.keys (fun s => Table.contains_iff_mem_keys.mpr) ?_
    intro s
    by_cases there : s ∈ l.state.active.keys
    · simp [there, Table.contains]
    · have gone : l.state.active.contains s = false := by
        rw [Bool.eq_false_iff, Ne, Table.contains_iff_mem_keys]
        exact there
      rw [gone]
      rfl
  · intro peer port timeout mem
    rw [noted] at mem
    exact h.dials peer port timeout (mem_of_mem_append_plain plain rfl mem)
  · rw [noted]
    exact h.accepts.plain plain

theorem Host.onIncoming (h : l.Host called) (s : SessionId) (peer : Identity) (port : UInt32) :
    ∃ l', (l.hear (.incoming s peer port)).handle (.incoming s peer port) = (.done, l') ∧
      l'.Host called ∧ l'.record = l.record ++ [.told (.incoming s peer port),
        if l.state.listening && !l.state.isShutDown then .asked (.accept s)
        else .asked (.close s "not hosting")] := by
  have heard := h.consults (consults_hear (.incoming s peer port) l)
  have hosts : (l.state.isHost && l.state.listening) = l.state.listening := by
    cases listens : l.state.listening with
    | false => simp
    | true => simp [LinkState.isHost, h.listening listens]
  have same : (l.hear (.incoming s peer port)).state = l.state := rfl
  rw [Link.handle, Link.onIncoming, same, hosts]
  split
  · have accepted : (Channel.accept s (l.hear (.incoming s peer port)).channel).2.record =
        l.record ++ [.told (.incoming s peer port)] ++ [.asked (.accept s)] := rfl
    refine ⟨_, rfl, { heard with dials := ?_, accepts := ?_ }, ?_⟩
    · intro peer' port' timeout mem
      rw [record, accepted] at mem
      simp [h.dials] at mem
    · rw [record, accepted]
      exact h.accepts.accept s peer port
    · rw [record, accepted, List.append_assoc]
      rfl
  · exact ⟨_, rfl, heard.consults (consults_closeSession ..), by simp⟩

theorem Host.handle (h : l.Host called) {e : ChannelEvent}
    (new : ∀ s peer, e = .connected s peer → l.state.active.contains s = false) :
    ∃ l', (l.hear e).handle e = (.done, l') ∧ l'.Host called := by
  have heard := h.consults (consults_hear e l)
  cases e with
  | incoming s peer port =>
      obtain ⟨l', handled, host, -⟩ := h.onIncoming s peer port
      exact ⟨l', handled, host⟩
  | connected s peer =>
      rw [Link.handle, onConnected]
      have fresh : (l.hear (.connected s peer)).state.isStale s = false := by
        simp [LinkState.isStale, heard.role]
      rw [fresh]
      split
      · exact ⟨_, rfl, heard.consults (consults_closeSession ..)⟩
      · refine ⟨_, rfl, ?_⟩
        have absent : (l.hear (.connected s peer)).state.active.contains s = false := new s peer rfl
        generalize l.hear (.connected s peer) = l' at heard absent
        have state : l'.state.opened s peer =
            { l'.state with active := l'.state.active.insert s peer, phase := .connected } := by
          simp [LinkState.opened, heard.role]
        rw [update, state]
        exact { heard with
          keys := Table.nodup_keys_insert heard.keys absent peer
          reports := heard.reports.opened peer absent (fun _ => Table.contains_insert ..) }
  | message s data =>
      rw [Link.handle, onMessage]
      split
      · next there => exact ⟨_, rfl, { heard with reports := heard.reports.messaged data there }⟩
      · exact ⟨_, rfl, heard⟩
  | closed s reason =>
      refine ⟨_, onClosed_of_not_guest heard.role, ?_⟩
      generalize l.hear (.closed s reason) = l' at heard
      exact heard.closed s reason

end Link

namespace LinkRun

variable {τ : Type}

theorem host_start (settings : LinkSettings) (channel : τ) : (start settings channel).link.Host False where
  claimed := False.elim
  role := rfl
  waits := rfl
  listening := by simp [start, Link.start, LinkState.start]
  keys := List.nodup_nil
  reports := .nil
  dials := by simp [start, Link.start, Link.record]
  accepts := by simp [start, Link.start, Link.record, Answering]

variable [Channel τ] {x : LinkRun τ} {called : Prop}

def HostFirst (acts : List LinkAct) : Prop :=
  ∀ before peer after, acts = before ++ .connect peer :: after → .host ∈ before

/-- A session that becomes connected is not open at that time. -/
def ConnectsNew (x : LinkRun τ) (acts : List LinkAct) : Prop :=
  ∀ before s peer after, acts = before ++ .event (.connected s peer) :: after →
    (x.run before).link.state.active.contains s = false

theorem HostFirst.of_append {acts later : List LinkAct} (h : HostFirst (acts ++ later)) :
    HostFirst acts := by
  intro before peer after cut
  exact h before peer (after ++ later) (by simp [cut])

theorem ConnectsNew.of_append {acts later : List LinkAct} (h : x.ConnectsNew (acts ++ later)) :
    x.ConnectsNew acts := by
  intro before s peer after cut
  exact h before s peer (after ++ later) (by simp [cut])

theorem run_append_singleton (x : LinkRun τ) (acts : List LinkAct) (a : LinkAct) :
    x.run (acts ++ [a]) = (x.run acts).step a := by
  simp [run]

theorem host_step {a : LinkAct} (ready : x.handling = .done) (h : x.link.Host called)
    (claims : ∀ peer, a = .connect peer → called)
    (new : ∀ s peer, a = .event (.connected s peer) → x.link.state.active.contains s = false) :
    (x.step a).handling = .done ∧ (x.step a).link.Host (called ∨ a = .host) := by
  cases a with
  | host => exact ⟨ready, h.host.imp (fun _ => trivial)⟩
  | connect peer =>
      rw [step, h.connect (claims peer rfl)]
      exact ⟨ready, h.imp (by simp)⟩
  | event e =>
      obtain ⟨l', handled, host⟩ := h.handle (e := e) (fun s peer same => new s peer (by rw [same]))
      rw [step, ready, handled]
      exact ⟨rfl, host.imp (by simp)⟩
  | resume =>
      rw [step, ready]
      exact ⟨ready, h.imp (by simp)⟩
  | send s data => exact ⟨ready, (h.consults (Link.consults_send s data x.link)).imp (by simp)⟩
  | sample => exact ⟨ready, (h.consults (Link.consults_samplePing x.link)).imp (by simp)⟩
  | disconnect =>
      rw [step, ready]
      exact ⟨rfl, h.disconnect.imp (by simp)⟩

theorem host_run (ready : x.handling = .done) (h : x.link.Host False) {acts : List LinkAct}
    (first : HostFirst acts) (new : x.ConnectsNew acts) :
    (x.run acts).handling = .done ∧ (x.run acts).link.Host (.host ∈ acts) := by
  -- from the back: whether a role was claimed before an act is a matter of the acts before it
  induction acts using List.reverseRecOn with
  | nil => exact ⟨ready, h.imp (by simp)⟩
  | append_singleton acts a ih =>
      obtain ⟨ready, host⟩ := ih first.of_append new.of_append
      rw [run_append_singleton]
      have next := host_step ready host (a := a) (fun peer same => first acts peer [] (by rw [same]))
        (fun s peer same => new acts s peer [] (by rw [same]))
      exact ⟨next.1, next.2.imp (by simp [eq_comm])⟩

/-- Whatever the channel answers and reports, as long as no session becomes connected that is open
already. -/
theorem host_reports (settings : LinkSettings) (channel : τ) (acts : List LinkAct)
    (first : HostFirst acts) (new : (start settings channel).ConnectsNew acts) :
    let x := (start settings channel).run acts
    (∀ s, Alternates (marks s x.link.events) ∧
      (x.link.state.active.contains s = true ↔ (marks s x.link.events).getLast? = some true)) ∧
    (∀ before s data after, x.link.events = before ++ .message s data :: after →
      (marks s before).getLast? = some true) ∧
    (∀ e ∈ x.link.events, e.isOfHost = true) ∧
    (∀ peer port timeout, .asked (.connect peer port timeout) ∉ x.link.record) ∧
    (∀ before s after, x.link.record = before ++ .asked (.accept s) :: after →
      ∃ before' peer port, before = before' ++ [.told (.incoming s peer port)]) ∧
    ∀ before s peer port after, acts = before ++ .event (.incoming s peer port) :: after →
      let y := (start settings channel).run before
      (y.step (.event (.incoming s peer port))).link.record = y.link.record ++
        [.told (.incoming s peer port),
          if y.link.state.listening && !y.link.state.isShutDown then .asked (.accept s)
          else .asked (.close s "not hosting")] := by
  intro x
  obtain ⟨-, host⟩ := host_run rfl (host_start settings channel) first new
  refine ⟨fun s => ⟨host.reports.alternate s, host.reports.last s⟩, host.reports.message,
    host.reports.host, host.dials, host.accepts, ?_⟩
  intro before s peer port after cut y
  rw [cut] at first new
  obtain ⟨ready, host⟩ := host_run rfl (host_start settings channel) first.of_append new.of_append
  obtain ⟨l', handled, -, noted⟩ := host.onIncoming s peer port
  have stepped : y.step (.event (.incoming s peer port)) = LinkRun.handled (.done, l') := by
    rw [step, ready, handled]
  rw [stepped]
  exact noted

theorem hostFirst_cons (later : List LinkAct) : HostFirst (.host :: later) := by
  rintro (_ | ⟨a, before⟩) peer after cut
  · simp at cut
  · rw [List.cons_append, List.cons.injEq] at cut
    rw [← cut.1]
    exact List.mem_cons_self

theorem host_reports_shut_down :
    let s : SessionId := ⟨1⟩
    let late : ChannelEvent := .incoming ⟨2⟩ "late" 4
    let acts := [.host, .event (.incoming s "guest" 3), .event (.connected s "guest"),
      .connect "other", .event (.message s [7]), .disconnect, .event late]
    let x := (start {} ({} : Script)).run acts
    HostFirst acts ∧ (start {} ({} : Script)).ConnectsNew acts ∧
      x.link.events = [.opened s "guest", .message s [7], .closed s .locally] ∧
      x.link.state.active.contains s = false ∧
      x.link.record = ((start {} ({} : Script)).run acts.dropLast).link.record ++
        [.told late, .asked (.close ⟨2⟩ "not hosting")] := by
  intro s late acts x
  have first : HostFirst acts := hostFirst_cons _
  have new : (start {} ({} : Script)).ConnectsNew acts := by
    intro before s' peer after cut
    rcases before with _ | ⟨a, _ | ⟨b, _ | ⟨c, before⟩⟩⟩
    · simp [acts] at cut
    · simp [acts] at cut
    · obtain ⟨rfl, rfl, ⟨rfl, rfl⟩, -⟩ := by simpa [acts] using cut
      decide +kernel
    · have mem : LinkAct.event (.connected s' peer) ∈ acts.drop 3 := by
        rw [cut]
        simp
      simp [acts, late] at mem
  have events : x.link.events = [.opened s "guest", .message s [7], .closed s .locally] := by
    decide +kernel
  obtain ⟨sessions, -, -, -, -, answers⟩ := host_reports {} ({} : Script) acts first new
  refine ⟨first, new, events, ?_, ?_⟩
  · rw [Bool.eq_false_iff, Ne, (sessions s).2, events]
    decide
  · have last := answers acts.dropLast ⟨2⟩ "late" 4 [] rfl
    have closed : ((start {} ({} : Script)).run acts.dropLast).link.state.listening = false := by
      decide +kernel
    dsimp only at last
    rw [closed] at last
    exact last

end LinkRun
end StreamTunnel
