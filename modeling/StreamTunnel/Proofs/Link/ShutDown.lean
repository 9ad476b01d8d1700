import StreamTunnel.Proofs.Link.Busy

namespace StreamTunnel

def BusyLink.Act.answers : BusyLink.Act → List Signal
  | .event (.incoming s peer port) =>
      [.told (.incoming s peer port), .asked (.close s "not hosting")]
  | .event (.connected s peer) => [.told (.connected s peer), .asked (.close s "shutting down")]
  | .event e => [.told e]
  | _ => []

namespace Link

variable {τ : Type}

structure Over (l : Link (Recorded τ)) : Prop where
  shut : l.state.isShutDown = true
  phase : l.state.phase = .closed
  active : l.state.active = ∅
  pending : l.state.pending = none
  primary : l.state.primary = none
  listening : l.state.listening = false

/-- The link answers an act and stays as it is, but for the quality it knows. -/
def Answers (a : BusyLink.Act) (l : Link (Recorded τ)) (r : Handling × Link (Recorded τ)) : Prop :=
  ∃ quality c, r = (.done, { l with state := { l.state with quality }, channel := c }) ∧
    c.record = l.record ++ a.answers

variable {l : Link (Recorded τ)} {r : Handling × Link (Recorded τ)} {a : BusyLink.Act}

theorem Over.answered (h : l.Over) (answers : l.Answers a r) : r.2.Over := by
  obtain ⟨quality, c, rfl, -⟩ := answers
  exact ⟨h.shut, h.phase, h.active, h.pending, h.primary, h.listening⟩

theorem Over.not_contains (h : l.Over) (s : SessionId) : l.state.active.contains s = false := by
  rw [h.active]
  rfl

theorem Over.claim_eq (h : l.Over) (role : Role) : l.state.claim role = .error .shutDown :=
  if_pos h.shut

theorem answers_unchanged (silent : a.answers = []) : l.Answers a (.done, l) :=
  ⟨l.state.quality, l.channel, rfl, by rw [silent, List.append_nil, record]⟩

theorem Over.message (h : l.Over) (s : SessionId) (data : Bytes) :
    l.Answers (.event (.message s data)) (.done, (l.hear (.message s data)).onMessage s data) := by
  have ignores : (l.hear (.message s data)).onMessage s data = l.hear (.message s data) :=
    if_neg (by simp [hear, h.not_contains])
  rw [ignores]
  exact ⟨l.state.quality, _, rfl, rfl⟩

variable [Channel τ]

theorem over_disconnect (l : Link (Recorded τ)) : l.disconnect.Over := by
  have state := (disconnect_eq l).2
  constructor <;> rw [state]

theorem Over.host_eq (h : l.Over) : l.host = (.error .shutDown, l) := by
  rw [host, h.claim_eq]

theorem Over.connect_eq (h : l.Over) (peer : Identity) :
    l.connect peer = (.error .shutDown, l) := by
  rw [connect, beginConnect, h.claim_eq]

theorem Over.send_eq (h : l.Over) (s : SessionId) (data : Bytes) :
    l.send s data = (.error .notConnected, l) := by
  rw [send, h.not_contains]
  rfl

theorem Over.samplePing_eq (h : l.Over) : l.samplePing = (none, l) := by
  rw [samplePing, h.primary, h.active]
  rfl

theorem Over.incoming (h : l.Over) (s : SessionId) (peer : Identity) (port : UInt32) :
    l.Answers (.event (.incoming s peer port))
      (.done, (l.hear (.incoming s peer port)).onIncoming s) := by
  have refuses : (l.hear (.incoming s peer port)).onIncoming s =
      (l.hear (.incoming s peer port)).closeSession s "not hosting" :=
    if_neg (by simp [hear, h.shut])
  rw [refuses]
  exact ⟨l.state.quality, _, rfl, List.append_assoc ..⟩

theorem Over.connected (h : l.Over) (s : SessionId) (peer : Identity) :
    l.Answers (.event (.connected s peer)) (.done, (l.hear (.connected s peer)).onConnected s peer) := by
  have refuses : (l.hear (.connected s peer)).onConnected s peer =
      (l.hear (.connected s peer)).closeSession s "shutting down" :=
    if_pos h.shut
  rw [refuses]
  exact ⟨l.state.quality, _, rfl, List.append_assoc ..⟩

theorem Over.closed (h : l.Over) (s : SessionId) (reason : CloseReason) :
    l.Answers (.event (.closed s reason)) ((l.hear (.closed s reason)).onClosed s reason) := by
  refine ⟨none, l.channel.telling (.closed s reason), ?_, rfl⟩
  have gone : l.state.active.erase s = l.state.active := by
    rw [h.active]
    rfl
  cases guest : l.state.isGuest with
  | true =>
      have guest : l.state.role = some .guest := by simpa [LinkState.isGuest] using guest
      simp [onClosed, hear, update, report, gone, h.not_contains, LinkState.isGuest, guest,
        LinkState.isCurrent, LinkState.dropCurrent, h.pending, h.primary, h.shut, h.phase]
  | false =>
      rw [onClosed_of_not_guest (by exact guest)]
      have empty : l.state.active.isEmpty = true := by
        rw [h.active]
        rfl
      simp [hear, update, report, gone, h.not_contains, LinkState.settleHost, empty, h.phase]

theorem Over.disconnect (h : l.Over) : l.Answers .disconnect (.done, l.disconnect) := by
  refine ⟨none, l.channel, ?_, (List.append_nil _).symm⟩
  have none : (∅ : Table SessionId Identity).keys = [] := rfl
  simp [Link.disconnect, update, h.listening, h.active, h.pending, h.primary, h.phase, h.shut, none]

theorem Over.answers (h : l.Over) (other : ∀ w, a ≠ .resume w) : l.Answers a (l.perform a) := by
  cases a with
  | host =>
      rw [perform, h.host_eq]
      exact answers_unchanged rfl
  | connect peer =>
      rw [perform, h.connect_eq]
      exact answers_unchanged rfl
  | event e =>
      cases e with
      | incoming s peer port => exact h.incoming s peer port
      | connected s peer => exact h.connected s peer
      | message s data => exact h.message s data
      | closed s reason => exact h.closed s reason
  | resume w => exact absurd rfl (other w)
  | send s data =>
      rw [perform, h.send_eq]
      exact answers_unchanged rfl
  | sample =>
      rw [perform, h.samplePing_eq]
      exact answers_unchanged rfl
  | disconnect => exact h.disconnect

theorem Effect.not_closes_listener (h : l.Effect a r) (other : a ≠ .disconnect) :
    ∃ extra, r.2.record = l.record ++ extra ∧ .asked .closeListener ∉ extra := by
  cases h with
  | idle same =>
      obtain ⟨quality, c, extra, rfl, noted, idle⟩ := same
      refine ⟨extra, noted, fun mem => ?_⟩
      cases idle _ mem
  | message there => exact ⟨_, rfl, by simp⟩
  | accept c hosts noted => exact ⟨_, noted, by simp⟩
  | host listening c running role noted => exact ⟨_, noted, by simp⟩
  | refuse detail why => exact ⟨_, List.append_assoc .., by simp⟩
  | opened running fresh => exact ⟨_, rfl, by simp⟩
  | overlook guest other => exact ⟨_, rfl, by simp⟩
  | stop guest current own => exact ⟨_, record_report .., by simp⟩
  | settle host => exact ⟨_, record_report .., by simp⟩
  | connect running role tried =>
      obtain ⟨extra, noted, dials⟩ := tried.record_eq
      exact ⟨extra, noted, fun mem => by simpa [Signal.isDial] using dials _ mem⟩
  | resume tried =>
      obtain ⟨extra, noted, dials⟩ := tried.record_eq
      exact ⟨extra, noted, fun mem => by simpa [Signal.isDial] using dials _ mem⟩
  | lose guest current foreign running tried =>
      obtain ⟨extra, noted, dials⟩ := tried.record_eq
      rw [release, record_report, record_update, record_update, record_hear, List.append_assoc] at noted
      refine ⟨_, noted, fun mem => ?_⟩
      have dialed : .asked .closeListener ∈ extra := by simpa using mem
      simpa [Signal.isDial] using dials _ dialed
  | disconnect => exact absurd rfl other

end Link

namespace BusyLink

variable {τ : Type} {x : BusyLink τ}

structure Over (x : BusyLink τ) : Prop where
  link : x.link.Over
  waiting : x.waiting = []

variable [Channel τ]

theorem over_disconnect (x : BusyLink τ) : (x.step .disconnect).Over :=
  ⟨Link.over_disconnect x.link, rfl⟩

theorem Over.step (h : x.Over) (a : Act) :
    (x.step a).Over ∧ x.link.Answers a (.done, (x.step a).link) := by
  rw [BusyLink.step]
  split
  · next due =>
    have other : ∀ w, a ≠ .resume w := by
      rintro w rfl
      simp [Act.isDue, h.waiting] at due
    have answers := h.link.answers other
    have through : (x.link.perform a).1 = .done := by
      obtain ⟨quality, c, same, -⟩ := answers
      rw [same]
    have isOver := h.link.answered answers
    refine ⟨⟨isOver, ?_⟩, ?_⟩
    · dsimp only
      rw [through]
      apply List.eq_nil_iff_forall_not_mem.mpr
      intro w mem
      have waits : w ∈ x.waiting := (Act.mem_of_mem_leaves (by simpa [Handling.waiter?] using mem)).1
      simp [h.waiting] at waits
    · rw [← through]
      exact answers
  · next early =>
    have silent : a.answers = [] := by
      cases a <;> first | rfl | exact absurd rfl early
    exact ⟨h, Link.answers_unchanged silent⟩

theorem Over.run (h : x.Over) (acts : List Act) : (x.run acts).Over ∧
    (x.run acts).link.events = x.link.events ∧
    (x.run acts).link.record = x.link.record ++ acts.flatMap Act.answers := by
  induction acts generalizing x with
  | nil => exact ⟨h, rfl, (List.append_nil _).symm⟩
  | cons a rest ih =>
      obtain ⟨next, quality, c, answered, noted⟩ := h.step a
      obtain ⟨last, events, record⟩ := ih next
      have same : (x.step a).link = _ := (Prod.mk.inj answered).2
      refine ⟨last, events.trans (by rw [same]), record.trans ?_⟩
      rw [List.flatMap_cons, ← List.append_assoc, ← noted, same]
      rfl

theorem not_closes_listener_of_over (a : Act) : .asked .closeListener ∉ a.answers := by
  cases a with
  | event e => cases e <;> simp [Act.answers]
  | host | connect | resume | send | sample | disconnect => simp [Act.answers]

theorem runs_or_over (settings : LinkSettings) (channel : τ) (acts : List Act) :
    let x := (start settings channel).run acts
    (x.link.state.isShutDown = false ∧ .asked .closeListener ∉ x.link.record) ∨
      x.Over ∧ x.link.record.count (.asked .closeListener) ≤ 1 := by
  refine run_induction (P := fun x : BusyLink τ =>
    (x.link.state.isShutDown = false ∧ .asked .closeListener ∉ x.link.record) ∨
      x.Over ∧ x.link.record.count (.asked .closeListener) ≤ 1) ?_ ?_ acts
  · exact .inl ⟨rfl, List.not_mem_nil⟩
  · rintro x a (⟨running, never⟩ | ⟨isOver, once⟩)
    · rcases step_cases x a with ⟨-, same⟩ | ⟨-, r, effect, stepped⟩
      · rw [same]
        exact .inl ⟨running, never⟩
      · by_cases last : a = .disconnect
        · subst last
          refine .inr ⟨over_disconnect x, ?_⟩
          change (x.link.disconnect.record).count _ ≤ 1
          rw [Link.record_disconnect, List.count_append, List.count_append,
            List.count_eq_zero_of_not_mem never, List.count_eq_zero_of_not_mem (by simp)]
          split <;> simp
        · obtain ⟨extra, noted, quiet⟩ := effect.not_closes_listener last
          rw [stepped]
          refine .inl ⟨(effect.keeps.2 last).trans running, ?_⟩
          rw [noted, List.mem_append]
          exact fun mem => mem.elim never quiet
    · obtain ⟨next, -, noted⟩ := isOver.run [a]
      refine .inr ⟨next, ?_⟩
      change ((x.run [a]).link.record).count _ ≤ 1
      rw [noted, List.flatMap_singleton, List.count_append, List.count_eq_zero_of_not_mem (not_closes_listener_of_over a)]
      exact once

theorem over_run {settings : LinkSettings} {channel : τ} {acts : List Act}
    (shut : ((start settings channel).run acts).link.state.isShutDown = true) :
    ((start settings channel).run acts).Over := by
  rcases runs_or_over settings channel acts with ⟨running, -⟩ | ⟨isOver, -⟩
  · rw [shut] at running
    cases running
  · exact isOver

/-- Once a link is disconnected it stays closed, reports nothing and asks the channel only to close
the sessions that come in or connect; and it closes its listener at most once. -/
theorem disconnect_is_final (settings : LinkSettings) (channel : τ) (earlier later : List Act) :
    let x := ((start settings channel).run earlier).step .disconnect
    let y := x.run later
    (y.link.state.phase = .closed ∧ y.link.state.active = ∅ ∧ y.link.state.pending = none ∧
      y.link.state.primary = none ∧ y.link.state.listening = false ∧ y.waiting = []) ∧
    y.link.events = x.link.events ∧
    y.link.record = x.link.record ++ later.flatMap Act.answers ∧
    y.link.record.count (.asked .closeListener) ≤ 1 ∧
    y.link.host.1 = .error .shutDown ∧
    (∀ peer, (y.link.connect peer).1 = .error .shutDown) ∧
    ∀ s data, (y.link.send s data).1 = .error .notConnected := by
  intro x y
  obtain ⟨isOver, events, record⟩ := (over_disconnect ((start settings channel).run earlier)).run later
  have whole : (start settings channel).run (earlier ++ .disconnect :: later) = y := run_append ..
  have once : y.link.record.count (.asked .closeListener) ≤ 1 := by
    rcases runs_or_over settings channel (earlier ++ .disconnect :: later) with ⟨running, -⟩ | ⟨-, once⟩
    · rw [whole, isOver.link.shut] at running
      cases running
    · rwa [whole] at once
  have l := isOver.link
  refine ⟨⟨l.phase, l.active, l.pending, l.primary, l.listening, isOver.waiting⟩, events, record, once,
    ?_, fun peer => ?_, fun s data => ?_⟩
  · rw [l.host_eq]
  · rw [l.connect_eq]
  · rw [l.send_eq]

end BusyLink
end StreamTunnel
