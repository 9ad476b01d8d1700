import StreamTunnel.Proofs.Link.Rounds

namespace StreamTunnel
open LinkEvent

def portsAsked (record : List Signal) : List UInt32 :=
  record.filterMap fun
    | .asked (.connect _ port _) => some port
    | _ => none

theorem portsAsked_append (record more : List Signal) :
    portsAsked (record ++ more) = portsAsked record ++ portsAsked more :=
  List.filterMap_append

theorem portsAsked_of_plain {record : List Signal} (plain : ∀ x ∈ record, x.isPlain) :
    portsAsked record = [] := by
  rw [portsAsked, List.filterMap_eq_nil_iff]
  intro x mem
  have plain := plain x mem
  cases x with
  | asked call => cases call <;> first | rfl | cases plain
  | gave s => cases plain
  | told e => rfl

def Handling.unmade : Handling → List UInt32
  | .waiting w => [w.attempt.virtualPort]
  | _ => []

theorem Retries.next_cases (r : Retries) :
    (∃ a r', r.next = (.granted a, r') ∧ r.attempt < r.policy.maxAttempts ∧
      a.number = r.attempt + 1 ∧ a.virtualPort = r.virtualPort + 1 ∧ r'.policy = r.policy ∧
      r'.attempt = r.attempt + 1 ∧ r'.virtualPort = r.virtualPort + 1) ∨
    (∃ e r', r.next = (.fault e, r')) ∨
    (r.next = (.exhausted r.attempt, r) ∧ r.policy.maxAttempts ≤ r.attempt) := by
  rw [next]
  split
  · next more =>
    dsimp only
    cases r.backoff.scale r.policy.multiplier with
    | error e => exact .inr (.inl ⟨e, _, rfl⟩)
    | ok grown => exact .inl ⟨_, _, rfl, more, rfl, rfl, rfl, rfl, rfl⟩
  · next spent => exact .inr (.inr ⟨rfl, Nat.le_of_not_lt spent⟩)

/-- What a guest has reported, and asked for but for the calls that are not made yet. -/
structure Reported (settings : LinkSettings) (primary : Option SessionId) (n : Nat)
    (unmade : List UInt32) (events : List LinkEvent) (record : List Signal) : Prop where
  trace : Trace settings.retry.maxAttempts events primary n
  ports : ∃ n, events.filterMap port? =
    (List.range n).map (fun i => settings.initialVirtualPort + UInt32.ofNat (i + 1))
  calls : portsAsked record ++ unmade = settings.initialVirtualPort :: events.filterMap port?

variable {settings : LinkSettings} {pending primary : Option SessionId} {unmade : List UInt32}
  {n : Nat} {events : List LinkEvent} {record extra : List Signal}

theorem Reported.plain (h : Reported settings primary n unmade events record)
    (plain : ∀ x ∈ extra, x.isPlain) :
    Reported settings primary n unmade events (record ++ extra) where
  trace := h.trace
  ports := h.ports
  calls := by
    rw [portsAsked_append, portsAsked_of_plain plain, List.append_nil]
    exact h.calls

theorem filterMap_port?_append {e : LinkEvent} (other : e.port? = none) (events : List LinkEvent) :
    (events ++ [e]).filterMap port? = events.filterMap port? := by
  simp [other]

theorem Reported.emit {primary' : Option SessionId} {n' : Nat} {e : LinkEvent}
    (h : Reported settings primary n unmade events record) (other : e.port? = none)
    (next : Trace settings.retry.maxAttempts (events ++ [e]) primary' n') :
    Reported settings primary' n' unmade (events ++ [e]) record where
  trace := next
  ports := by
    rw [filterMap_port?_append other]
    exact h.ports
  calls := by
    rw [filterMap_port?_append other]
    exact h.calls

theorem Reported.retry {port : UInt32} (h : Reported settings none n [] events record)
    (more : n < settings.retry.maxAttempts)
    (next : port = settings.initialVirtualPort + UInt32.ofNat ((events.filterMap port?).length + 1)) :
    Reported settings none (n + 1) [port] (events ++ [.reconnecting (n + 1) port]) record := by
  have longer : (events ++ [LinkEvent.reconnecting (n + 1) port]).filterMap port? =
      events.filterMap port? ++ [port] := by simp [port?]
  constructor
  · exact .reconnecting port more h.trace
  · obtain ⟨n, ports⟩ := h.ports
    refine ⟨n + 1, ?_⟩
    rw [longer, next, ports, List.range_succ]
    simp
  · rw [longer, ← List.cons_append, ← h.calls, List.append_nil]

theorem Reported.dialed {port : UInt32} (h : Reported settings primary n [port] events record)
    {later : List Signal} (noted : later = record ++ extra) (asks : portsAsked extra = [port]) :
    Reported settings primary n [] events later where
  trace := h.trace
  ports := h.ports
  calls := by
    rw [noted, portsAsked_append, asks, List.append_nil]
    exact h.calls

namespace Link

variable {τ : Type} {l : Link (Recorded τ)}

structure Guest (settings : LinkSettings) (pending primary : Option SessionId)
    (unmade : List UInt32) (l : Link (Recorded τ)) : Prop where
  role : l.state.role = some .guest
  running : l.state.isShutDown = false
  waits : l.state.pending = pending
  carries : l.state.primary = primary
  active : ∀ s, l.state.active.contains s = true ↔ primary = some s
  policy : l.state.retries.policy = settings.retry
  port : l.state.retries.virtualPort =
    settings.initialVirtualPort + UInt32.ofNat (l.events.filterMap port?).length
  reported : Reported settings primary l.state.retries.attempt unmade l.events l.record
  ends : ∀ s, .gave s ∈ l.record → pending = some s ∨ primary = some s ∨ HasClosed s l.record
  connected : ∀ s, primary = some s → HasConnected s l.record
  accepts : ∀ s, .asked (.accept s) ∉ l.record

theorem Guest.consults {l' : Link (Recorded τ)} (h : l.Guest settings pending primary unmade)
    (same : l.Consults l') : l'.Guest settings pending primary unmade := by
  obtain ⟨quality, c, extra, rfl, noted, plain⟩ := same
  refine ⟨h.role, h.running, h.waits, h.carries, h.active, h.policy, h.port, ?_, ?_, ?_, ?_⟩
  · rw [Link.record, noted]
    exact h.reported.plain plain
  · intro s mem
    rw [Link.record, noted] at mem ⊢
    have given := h.ends s (mem_of_mem_append_plain plain rfl mem)
    exact given.imp_right (.imp_right (·.append extra))
  · intro s carries
    rw [Link.record, noted]
    exact (h.connected s carries).append extra
  · intro s mem
    rw [Link.record, noted] at mem
    exact h.accepts s (mem_of_mem_append_plain plain rfl mem)

theorem Guest.retry {a : Attempt} {r : Retries} (h : l.Guest settings none none [])
    (granted : l.state.retries.next = (.granted a, r)) :
    ((l.update (fun st => { st with retries := r })).emit
      (.reconnecting a.number a.virtualPort)).Guest settings none none [a.virtualPort] := by
  rcases l.state.retries.next_cases with ⟨a', r', same, more, number, port, policy, attempt, port'⟩ |
    ⟨e, r', same⟩ | ⟨same, -⟩
  · obtain ⟨granted', rfl⟩ := Prod.mk.inj (granted.symm.trans same)
    cases granted'
    have next : a.virtualPort = settings.initialVirtualPort +
        UInt32.ofNat ((l.events.filterMap port?).length + 1) := by
      rw [port, h.port, UInt32.ofNat_add, UInt32.add_assoc]
      rfl
    rw [h.policy] at more
    have reported := h.reported.retry more next
    refine ⟨h.role, h.running, h.waits, h.carries, h.active, policy.trans h.policy, ?_, ?_,
      h.ends, h.connected, h.accepts⟩
    · simp only [emit, update, List.filterMap_append]
      exact (port'.trans port.symm).trans (by simpa [port?] using next)
    · rw [number]
      simp only [emit, update, attempt]
      exact reported
  · cases granted.symm.trans same
  · cases granted.symm.trans same

theorem Guest.giveUp (h : l.Guest settings none none [])
    (spent : settings.retry.maxAttempts ≤ l.state.retries.attempt) (reason : CloseReason) :
    ((l.update (fun st => { st with phase := .closed })).emit (.disconnected reason)).Guest
      settings none none [] := by
  have all : l.state.retries.attempt = settings.retry.maxAttempts :=
    Nat.le_antisymm h.reported.trace.tries_le spent
  have last : Trace settings.retry.maxAttempts (l.events ++ [.disconnected reason]) none
      l.state.retries.attempt := by
    have before := h.reported.trace
    rw [all] at before ⊢
    exact before.disconnected reason
  refine { h with port := ?_, reported := h.reported.emit rfl last }
  rw [emit, filterMap_port?_append rfl]
  exact h.port

theorem Guest.opened {s : SessionId} (h : l.Guest settings (some s) none [])
    (connected : HasConnected s l.record) (peer : Identity) :
    ((l.update (·.opened s peer)).emit (.opened s peer)).Guest settings none (some s) [] := by
  have state : l.state.opened s peer = { l.state with
      pending := none, primary := some s, retries := l.state.retries.reset,
      active := l.state.active.insert s peer, phase := .connected } := by
    simp [LinkState.opened, LinkState.isGuest, h.role]
  rw [update, state]
  refine ⟨h.role, h.running, rfl, rfl, ?_, h.policy, ?_, ?_, ?_, ?_, h.accepts⟩
  · intro s'
    have others : l.state.active.get? s' = none := by
      simpa [Table.contains] using h.active s'
    simp only [emit, Table.contains, Table.get?_insert, others]
    by_cases same : s = s'
    · simp [same]
    · simp [same, Ne.symm same]
  · rw [emit, filterMap_port?_append rfl]
    exact h.port
  · exact h.reported.emit rfl (.opened s peer h.reported.trace)
  · intro s' mem
    rcases h.ends s' mem with waits | none | closed
    · exact .inr (.inl waits)
    · cases none
    · exact .inr (.inr closed)
  · rintro s' ⟨⟩
    exact connected

theorem Guest.message {s : SessionId} (h : l.Guest settings pending (some s) unmade) (data : Bytes) :
    (l.emit (.message s data)).Guest settings pending (some s) unmade := by
  refine { h with port := ?_, reported := h.reported.emit rfl (.message data h.reported.trace) }
  rw [emit, filterMap_port?_append rfl]
  exact h.port

theorem Guest.current_cases {s : SessionId} (h : l.Guest settings pending primary unmade)
    (alone : pending = none ∨ primary = none) (current : l.state.isCurrent s = true) :
    (primary = some s ∧ pending = none) ∨
      (primary = none ∧ ∀ s', pending = some s' → s' = s) := by
  have which : (primary = some s ∨ pending = some s) ∨ (pending = none ∧ primary = none) := by
    simpa [LinkState.isCurrent, h.carries, h.waits] using current
  -- the session is open, or it is waited for, or there is neither
  rcases which with (rfl | rfl) | ⟨rfl, rfl⟩
  · left
    exact ⟨rfl, by simpa using alone⟩
  · right
    exact ⟨by simpa using alone, fun s' same => (Option.some.inj same).symm⟩
  · right
    exact ⟨rfl, by simp⟩

theorem Guest.closed {s : SessionId} (h : l.Guest settings pending primary [])
    (alone : pending = none ∨ primary = none) (current : l.state.isCurrent s = true)
    (closed : HasClosed s l.record) (reason : CloseReason) (selfInitiated : Bool) :
    (((l.update (fun st => { st with active := st.active.erase s })).update
      (·.dropCurrent selfInitiated)).report (l.state.active.contains s) s reason).Guest
        settings none none [] := by
  have which := h.current_cases alone current
  have nothing (s' : SessionId) : (l.state.active.erase s).contains s' = true ↔ none = some s' := by
    rw [Table.contains, Table.get?_erase]
    split
    · simp
    · next other =>
      rw [← Table.contains, h.active s']
      rcases which with ⟨rfl, -⟩ | ⟨rfl, -⟩ <;> simp [Ne.symm other]
  -- with neither a session open nor one waited for, all that were given are over
  have ended (s' : SessionId) (mem : .gave s' ∈ l.record) : HasClosed s' l.record := by
    rcases h.ends s' mem with waits | carries | before
    · rcases which with ⟨-, rfl⟩ | ⟨-, only⟩
      · cases waits
      · rw [only s' waits]
        exact closed
    · rcases which with ⟨rfl, -⟩ | ⟨rfl, -⟩ <;> cases carries
      exact closed
    · exact before
  rcases which with ⟨rfl, rfl⟩ | ⟨rfl, -⟩
  · have was : l.state.active.contains s = true := (h.active s).mpr rfl
    rw [was]
    refine ⟨h.role, h.running, rfl, rfl, nothing, h.policy, ?_, ?_, ?_, by simp, h.accepts⟩
    · simp only [report, if_true, emit]
      rw [filterMap_port?_append rfl]
      exact h.port
    · exact h.reported.emit rfl (.closed reason h.reported.trace)
    · exact fun s' mem => .inr (.inr (ended s' mem))
  · have was : l.state.active.contains s = false := by
      rw [Bool.eq_false_iff]
      exact fun there => by cases (h.active s).mp there
    rw [was]
    exact ⟨h.role, h.running, rfl, rfl, nothing, h.policy, h.port, h.reported,
      fun s' mem => .inr (.inr (ended s' mem)), by simp, h.accepts⟩

structure Fresh (settings : LinkSettings) (l : Link (Recorded τ)) : Prop where
  state : ∃ quality, l.state = { LinkState.start settings with quality }
  events : l.events = []
  asks : portsAsked l.record = []
  given : ∀ s, .gave s ∉ l.record
  accepts : ∀ s, .asked (.accept s) ∉ l.record

theorem Fresh.consults {l' : Link (Recorded τ)} (h : l.Fresh settings) (same : l.Consults l') :
    l'.Fresh settings := by
  obtain ⟨quality, c, extra, rfl, noted, plain⟩ := same
  refine ⟨⟨quality, ?_⟩, h.events, ?_, ?_, ?_⟩
  · obtain ⟨before, state⟩ := h.state
    rw [state]
  · rw [Link.record, noted, portsAsked_append, h.asks, portsAsked_of_plain plain]
    rfl
  · intro s mem
    rw [Link.record, noted] at mem
    exact h.given s (mem_of_mem_append_plain plain rfl mem)
  · intro s mem
    rw [Link.record, noted] at mem
    exact h.accepts s (mem_of_mem_append_plain plain rfl mem)

theorem Fresh.beginConnect (h : l.Fresh settings) (peer : Identity) :
    ∃ l', l.beginConnect peer = (.ok (), l') ∧
      l'.state.retries.virtualPort = settings.initialVirtualPort ∧
      l'.Guest settings none none [settings.initialVirtualPort] := by
  obtain ⟨quality, state⟩ := h.state
  refine ⟨{ l with state := { LinkState.start settings with
    quality, role := some .guest, phase := .connecting, peer := some peer } }, ?_, rfl, ?_⟩
  · rw [Link.beginConnect, state]
    rfl
  · refine ⟨rfl, rfl, rfl, rfl, by simp [LinkState.start, Table.contains], rfl, ?_, ?_, ?_,
      by simp, h.accepts⟩
    · simp [h.events, LinkState.start, Retries.start]
    · constructor
      · rw [h.events]
        exact .start
      · exact ⟨0, by rw [h.events]; rfl⟩
      · change portsAsked l.record ++ _ = _
        rw [h.asks, h.events]
        rfl
    · exact fun s mem => absurd mem (h.given s)

variable [Channel τ]

theorem Fresh.handle {e : ChannelEvent} (h : l.Fresh settings) (allowed : Allowed l.record (.told e)) :
    ∃ l', (l.hear e).handle e = (.done, l') ∧ l'.Fresh settings := by
  have heard := h.consults (consults_hear e l)
  obtain ⟨quality, state⟩ := heard.state
  cases e with
  | incoming s peer port =>
      refine ⟨_, ?_, heard.consults (consults_closeSession s "not hosting" _)⟩
      rw [Link.handle, onIncoming, state]
      rfl
  | connected s peer =>
      obtain ⟨given | accepted, -⟩ := allowed
      · exact absurd given (h.given s)
      · exact absurd accepted (h.accepts s)
  | message s data =>
      refine ⟨_, ?_, heard⟩
      rw [Link.handle, onMessage, state]
      rfl
  | closed s reason =>
      generalize l.hear (.closed s reason) = l' at heard state
      have guest : l'.state.isGuest = false := by
        rw [state]
        rfl
      refine ⟨_, onClosed_of_not_guest guest, ⟨none, ?_⟩, ?_, ?_, ?_, ?_⟩
      all_goals rw [state]
      · rw [update, update, state]
        rfl
      · exact heard.events
      · exact heard.asks
      · exact heard.given
      · exact heard.accepts

theorem host_of_guest (role : l.state.role = some .guest) : l.host.2 = l := by
  rcases host_cases l with ⟨e, refused, -⟩ | ⟨st, r, listening, c, -, claimed, -⟩
  · rw [refused]
  · rw [LinkState.claim, role] at claimed
    split at claimed <;> cases claimed

theorem Guest.dial {port : UInt32} (h : l.Guest settings none none [port]) (peer : Identity) :
    (∃ s l', l.dial peer port = (.ok s, l') ∧ (l'.await s).Guest settings (some s) none []) ∨
      ∃ e l', l.dial peer port = (.error e, l') ∧ l'.Guest settings none none [] := by
  have ended {s : SessionId} (mem : .gave s ∈ l.record) : HasClosed s l.record := by
    simpa using h.ends s mem
  rcases dial_cases peer port l with ⟨s, c, dialed, noted⟩ | ⟨e, c, dialed, noted⟩
  · refine .inl ⟨s, _, dialed, h.role, h.running, rfl, h.carries, h.active, h.policy, h.port,
      h.reported.dialed noted rfl, ?_, by simp, ?_⟩
    · intro s' mem
      rw [await, record_update, Link.record, noted] at mem ⊢
      rcases List.mem_append.mp mem with mem | mem
      · exact .inr (.inr ((ended mem).append _))
      · left
        simpa using (by simpa using mem : s' = s).symm
    · intro s' mem
      rw [await, record_update, Link.record, noted] at mem
      simp [h.accepts s'] at mem
  · refine .inr ⟨e, _, dialed, h.role, h.running, h.waits, h.carries, h.active, h.policy, h.port,
      h.reported.dialed noted rfl, ?_, by simp, ?_⟩
    · intro s' mem
      rw [Link.record, noted] at mem ⊢
      exact .inr (.inr ((ended (by simpa using mem)).append _))
    · intro s' mem
      rw [Link.record, noted] at mem
      simp [h.accepts s'] at mem

end Link

namespace LinkRun

variable {τ : Type} {l : Link (Recorded τ)} {x : LinkRun τ}

/-- Where a guest's link can be. After a fault only what was reported counts. -/
def IsGuest (settings : LinkSettings) (x : LinkRun τ) : Prop :=
  match x.handling with
  | .done => ∃ pending primary, (pending = none ∨ primary = none) ∧
      x.link.Guest settings pending primary []
  | .waiting w => x.link.Guest settings none none [w.attempt.virtualPort]
  | .fault _ => x.link.state.role = some .guest ∧
      ∃ n, Reported settings none n [] x.link.events x.link.record

theorem IsGuest.role (h : x.IsGuest settings) : x.link.state.role = some .guest := by
  obtain ⟨l, handling⟩ := x
  cases handling with
  | done =>
      obtain ⟨_, _, -, guest⟩ := h
      exact guest.role
  | waiting w => exact Link.Guest.role h
  | fault e => exact h.1

theorem IsGuest.consults {l' : Link (Recorded τ)} (h : x.IsGuest settings)
    (same : x.link.Consults l') : ({ x with link := l' } : LinkRun τ).IsGuest settings := by
  obtain ⟨l, handling⟩ := x
  cases handling with
  | done =>
      obtain ⟨pending, primary, alone, before⟩ := h
      exact ⟨pending, primary, alone, before.consults same⟩
  | waiting w => exact Link.Guest.consults h same
  | fault e =>
      obtain ⟨role, n, reported⟩ := h
      obtain ⟨quality, c, extra, rfl, noted, plain⟩ := same
      refine ⟨role, n, ?_⟩
      have after := reported.plain plain
      rw [← noted] at after
      exact after

theorem IsGuest.reported (h : x.IsGuest settings) : ∃ primary n,
    Reported settings primary n x.handling.unmade x.link.events x.link.record := by
  obtain ⟨l, handling⟩ := x
  cases handling with
  | done =>
      obtain ⟨_, primary, -, guest⟩ := h
      exact ⟨primary, _, guest.reported⟩
  | waiting w => exact ⟨none, _, Link.Guest.reported h⟩
  | fault e =>
      obtain ⟨-, n, reported⟩ := h
      exact ⟨none, n, reported⟩

theorem fresh_start (settings : LinkSettings) (channel : τ) :
    (start settings channel).link.Fresh settings :=
  ⟨⟨none, rfl⟩, rfl, rfl, by simp [start, Link.start, Link.record],
    by simp [start, Link.start, Link.record]⟩

variable [Channel τ]

theorem isGuest_reconnectWith (h : l.Guest settings none none []) (fuel : Nat) (reason : CloseReason) :
    (handled (l.reconnectWith fuel reason)).IsGuest settings := by
  induction fuel generalizing l reason with
  | zero => exact ⟨none, none, .inl rfl, h⟩
  | succ fuel ih =>
      rw [Link.reconnectWith]
      split
      · exact ⟨none, none, .inl rfl, { h with }⟩
      · next peer _ =>
        split
        · next exhausted =>
          rcases l.state.retries.next_cases with ⟨a, r, same, -⟩ | ⟨e, r, same⟩ | ⟨-, spent⟩
          · cases exhausted.symm.trans same
          · cases exhausted.symm.trans same
          · exact ⟨none, none, .inl rfl, h.giveUp (h.policy ▸ spent) reason⟩
        · exact ⟨h.role, _, h.reported⟩
        · next a r granted =>
          have retried := h.retry granted
          dsimp only
          split
          · rcases retried.dial peer with ⟨s, l', dialed, awaits⟩ | ⟨e, l', dialed, fails⟩
            · rw [dialed]
              exact ⟨some s, none, .inr rfl, awaits⟩
            · rw [dialed]
              exact ih fails _
          · exact retried

theorem isGuest_resume {w : Waiting} (h : l.Guest settings none none [w.attempt.virtualPort]) :
    (handled (l.resume w)).IsGuest settings := by
  rw [Link.resume]
  rcases h.dial w.peer with ⟨s, l', dialed, awaits⟩ | ⟨e, l', dialed, fails⟩
  · rw [dialed]
    exact ⟨some s, none, .inr rfl, awaits⟩
  · rw [dialed]
    exact isGuest_reconnectWith fails _ _

theorem isGuest_onConnected {s : SessionId} {peer : Identity} {pending primary : Option SessionId}
    (h : l.Guest settings pending primary []) (alone : pending = none ∨ primary = none)
    (allowed : Allowed l.record (.told (.connected s peer))) :
    (handled ((l.hear (.connected s peer)).handle (.connected s peer))).IsGuest settings := by
  obtain ⟨given, once, going⟩ := allowed
  have mem : .gave s ∈ l.record := by
    rcases given with given | accepted
    · exact given
    · exact absurd accepted (h.accepts s)
  have heard := h.consults (Link.consults_hear (.connected s peer) l)
  -- only the session that is waited for can still become connected
  rcases h.ends s mem with rfl | carries | closed
  · obtain rfl : primary = none := by simpa using alone
    have stale : (l.hear (.connected s peer)).state.isStale s = false := by
      simp [LinkState.isStale, heard.waits]
    rw [Link.handle, Link.onConnected, heard.running, stale]
    exact ⟨none, some s, .inl rfl, heard.opened ⟨peer, by simp⟩ peer⟩
  · exact absurd (h.connected s carries) once
  · exact absurd closed going

theorem isGuest_onClosed {s : SessionId} {reason : CloseReason} {pending primary : Option SessionId}
    (h : l.Guest settings pending primary []) (alone : pending = none ∨ primary = none) :
    (handled ((l.hear (.closed s reason)).handle (.closed s reason))).IsGuest settings := by
  have heard := h.consults (Link.consults_hear (.closed s reason) l)
  have guest : (l.hear (.closed s reason)).state.isGuest = true := by
    simp [LinkState.isGuest, heard.role]
  have closed : HasClosed s (l.hear (.closed s reason)).record := ⟨reason, by simp⟩
  generalize l.hear (.closed s reason) = l' at heard guest closed
  simp only [Link.handle, Link.onClosed]
  rw [if_pos (by exact guest)]
  split
  · next current =>
    split
    · exact ⟨none, none, .inl rfl, heard.closed alone current closed reason _⟩
    · exact isGuest_reconnectWith (heard.closed alone current closed reason _) _ _
  -- a session that is not current was not active either
  · next stale =>
    refine ⟨pending, primary, alone, { heard with active := ?_ }⟩
    intro s'
    change (l'.state.active.erase s).contains s' = true ↔ primary = some s'
    rw [Table.contains, Table.get?_erase]
    split
    · next same =>
      subst same
      have other : primary ≠ some s' := by
        rintro rfl
        exact stale (by simp [Link.update, LinkState.isCurrent, heard.carries])
      simp [other]
    · exact heard.active s'

theorem isGuest_event {e : ChannelEvent} {pending primary : Option SessionId}
    (h : l.Guest settings pending primary []) (alone : pending = none ∨ primary = none)
    (allowed : Allowed l.record (.told e)) :
    (handled ((l.hear e).handle e)).IsGuest settings := by
  cases e with
  | incoming s peer port =>
      have heard := h.consults (Link.consults_hear (.incoming s peer port) l)
      have refused : (l.hear (.incoming s peer port)).state.isHost = false := by
        simp [LinkState.isHost, heard.role]
      rw [Link.handle, Link.onIncoming, refused]
      exact ⟨pending, primary, alone, heard.consults (Link.consults_closeSession ..)⟩
  | connected s peer => exact isGuest_onConnected h alone allowed
  | message s data =>
      have heard := h.consults (Link.consults_hear (.message s data) l)
      rw [Link.handle, Link.onMessage]
      split
      · next there =>
        obtain rfl := (heard.active s).mp there
        exact ⟨pending, some s, alone, heard.message data⟩
      · exact ⟨pending, primary, alone, heard⟩
  | closed s reason => exact isGuest_onClosed h alone

/-! ## Runs -/

theorem allowed_event {e : ChannelEvent} (lawful : Lawful (x.step (.event e)).link.record)
    (ready : x.handling = .done) : Allowed x.link.record (.told e) := by
  rw [step, ready] at lawful
  exact lawful.allowed (Link.record_handle e (x.link.hear e))

theorem isGuest_step {a : LinkAct} (h : x.IsGuest settings) (lawful : Lawful (x.step a).link.record)
    (quiet : a.isConnect = false ∧ a ≠ .disconnect) : (x.step a).IsGuest settings := by
  cases a with
  | host =>
      rw [step, Link.host_of_guest h.role]
      exact h
  | connect peer => cases quiet.1
  | event e =>
      have allowed := allowed_event lawful
      rw [step]
      split
      · next ready =>
        rw [IsGuest, ready] at h
        obtain ⟨pending, primary, alone, guest⟩ := h
        exact isGuest_event guest alone (allowed ready)
      · exact h
  | resume =>
      rw [step]
      split
      · next w waits =>
        rw [IsGuest, waits] at h
        exact isGuest_resume h
      · exact h
  | send s data => exact h.consults (Link.consults_send s data x.link)
  | sample => exact h.consults (Link.consults_samplePing x.link)
  | disconnect => exact absurd rfl quiet.2

theorem isGuest_run {acts : List LinkAct} (h : x.IsGuest settings)
    (lawful : Lawful (x.run acts).link.record)
    (quiet : ∀ a ∈ acts, a.isConnect = false ∧ a ≠ .disconnect) : (x.run acts).IsGuest settings := by
  induction acts generalizing x with
  | nil => exact h
  | cons a rest ih =>
      rw [List.forall_mem_cons] at quiet
      have next := isGuest_step h (lawful.of_prefix (record_run (x.step a) rest)) quiet.1
      exact ih next lawful quiet.2

theorem fresh_step {a : LinkAct} (ready : x.handling = .done) (h : x.link.Fresh settings)
    (lawful : Lawful (x.step a).link.record) (passive : a.claimsRole = false ∧ a ≠ .disconnect) :
    (x.step a).handling = .done ∧ (x.step a).link.Fresh settings := by
  cases a with
  | host | connect => cases passive.1
  | disconnect => exact absurd rfl passive.2
  | event e =>
      obtain ⟨l', handled, fresh⟩ := h.handle (allowed_event lawful ready)
      rw [step, ready, handled]
      exact ⟨rfl, fresh⟩
  | resume =>
      rw [step, ready]
      exact ⟨ready, h⟩
  | send s data => exact ⟨ready, h.consults (Link.consults_send s data x.link)⟩
  | sample => exact ⟨ready, h.consults (Link.consults_samplePing x.link)⟩

theorem fresh_run {acts : List LinkAct} (ready : x.handling = .done) (h : x.link.Fresh settings)
    (lawful : Lawful (x.run acts).link.record)
    (passive : ∀ a ∈ acts, a.claimsRole = false ∧ a ≠ .disconnect) :
    (x.run acts).handling = .done ∧ (x.run acts).link.Fresh settings := by
  induction acts generalizing x with
  | nil => exact ⟨ready, h⟩
  | cons a rest ih =>
      rw [List.forall_mem_cons] at passive
      have next := fresh_step ready h (lawful.of_prefix (record_run (x.step a) rest)) passive.1
      exact ih next.1 next.2 lawful passive.2

theorem isGuest_connect (ready : x.handling = .done) (h : x.link.Fresh settings) (peer : Identity) :
    (x.step (.connect peer)).IsGuest settings := by
  obtain ⟨l, begun, port, guest⟩ := h.beginConnect peer
  rw [step, Link.connect, begun]
  dsimp only
  rw [port]
  rcases guest.dial peer with ⟨s, l', dialed, awaits⟩ | ⟨e, l', dialed, fails⟩
  · rw [dialed, IsGuest, ready]
    exact ⟨some s, none, .inr rfl, awaits⟩
  · rw [dialed, IsGuest, ready]
    exact ⟨none, none, .inl rfl, fails⟩

/-- Whatever the channel does within its promises, a guest that connects once reports rounds, and
gives up only with its budget spent and no session open. The ports of its retries and of the calls
that they make go up by one each. -/
theorem guest_goes_in_rounds (settings : LinkSettings) (channel : τ) (peer : Identity)
    (earlier later : List LinkAct)
    (passive : ∀ a ∈ earlier, a.claimsRole = false ∧ a ≠ .disconnect)
    (once : ∀ a ∈ later, a.isConnect = false ∧ a ≠ .disconnect)
    (lawful : Lawful ((start settings channel).run (earlier ++ .connect peer :: later)).link.record) :
    let x := (start settings channel).run (earlier ++ .connect peer :: later)
    (∃ rounds : List Round, (∀ r ∈ rounds, r.ports.length ≤ settings.retry.maxAttempts) ∧
      x.link.events.filter (!·.isDisconnected) <+: rounds.flatMap Round.events) ∧
    (∃ n, x.link.events.filterMap port? =
      (List.range n).map (fun i => settings.initialVirtualPort + UInt32.ofNat (i + 1))) ∧
    portsAsked x.link.record ++ x.handling.unmade =
      settings.initialVirtualPort :: x.link.events.filterMap port? ∧
    ∀ before reason after, x.link.events = before ++ .disconnected reason :: after →
      carrying before = none ∧ tries before = settings.retry.maxAttempts := by
  -- fresh up to the call, and a guest from then on
  have split : (start settings channel).run (earlier ++ .connect peer :: later) =
      (((start settings channel).run earlier).step (.connect peer)).run later := by
    simp [run]
  rw [split] at lawful ⊢
  have before := lawful.of_prefix (record_run _ later)
  obtain ⟨ready, fresh⟩ := fresh_run rfl (fresh_start settings channel)
    (before.of_prefix (record_step _ _)) passive
  have guest := isGuest_run (isGuest_connect ready fresh peer) lawful once
  obtain ⟨primary, n, reported⟩ := guest.reported
  exact ⟨reported.trace.prefix_rounds, reported.ports, reported.calls,
    fun _ _ _ cut => reported.trace.at_disconnected cut⟩

theorem guest_goes_in_rounds_gives_up :
    let settings : LinkSettings := { initialVirtualPort := 7, retry := { maxAttempts := 1 } }
    let later := [.event (.connected ⟨1⟩ "host"), .event (.message ⟨1⟩ [65]), .event (.closed ⟨1⟩ .byPeer),
      .event (.connected ⟨2⟩ "host"), .event (.closed ⟨2⟩ .byPeer), .event (.closed ⟨3⟩ .byPeer)]
    let x := (start settings ({} : Script)).run ([.sample] ++ .connect "host" :: later)
    Lawful x.link.record ∧
      x.link.events = [.opened ⟨1⟩ "host", .message ⟨1⟩ [65], .closed ⟨1⟩ .byPeer, .reconnecting 1 8,
        .opened ⟨2⟩ "host", .closed ⟨2⟩ .byPeer, .reconnecting 1 9, .disconnected .byPeer] ∧
      portsAsked x.link.record = [7, 8, 9] ∧
      carrying (x.link.events.take 7) = none ∧ tries (x.link.events.take 7) = 1 := by
  intro settings later x
  have lawful : Lawful x.link.record := by decide +kernel
  have events : x.link.events = [.opened ⟨1⟩ "host", .message ⟨1⟩ [65], .closed ⟨1⟩ .byPeer,
      .reconnecting 1 8, .opened ⟨2⟩ "host", .closed ⟨2⟩ .byPeer, .reconnecting 1 9,
      .disconnected .byPeer] := by decide +kernel
  have ready : x.handling = .done := by decide +kernel
  have same : (start settings ({} : Script)).run ([.sample] ++ .connect "host" :: later) = x := rfl
  obtain ⟨-, -, calls, spent⟩ := guest_goes_in_rounds settings ({} : Script) "host" [.sample] later
    (by decide) (by decide) lawful
  rw [same, ready, events] at calls
  rw [same] at spent
  refine ⟨lawful, events, (List.append_nil _).symm.trans calls, ?_⟩
  rw [events]
  exact spent _ .byPeer [] events

end LinkRun
end StreamTunnel
