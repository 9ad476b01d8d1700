import StreamTunnel.Proofs.Link.Host
import StreamTunnel.Proofs.Link.OneSession

namespace StreamTunnel

variable {events reports : List LinkEvent} {s : SessionId}

theorem marks_of_retries (retries : ∀ e ∈ events, e.isOfHost = false) (s : SessionId) :
    marks s events = [] := by
  rw [marks, List.filterMap_eq_nil_iff]
  intro e mem
  have retry := retries e mem
  cases e <;> first | rfl | cases retry

theorem mem_marks_of_closed {reason : CloseReason} (mem : .closed s reason ∈ events) :
    false ∈ marks s events := by
  rw [marks, List.mem_filterMap]
  exact ⟨_, mem, if_pos rfl⟩

theorem marks_closings (reason : CloseReason) {sessions : List SessionId} (other : s ∉ sessions) :
    marks s (sessions.map (.closed · reason)) = [] := by
  rw [marks, List.filterMap_map, List.filterMap_eq_nil_iff]
  intro s' mem
  exact if_neg (ne_of_mem_of_not_mem mem other)

theorem marks_opened (s s' : SessionId) (peer : Identity) :
    marks s' [.opened s peer] = if s = s' then [true] else [] := by
  by_cases same : s = s' <;> simp [marks, same]

theorem marks_closed (s s' : SessionId) (reason : CloseReason) :
    marks s' [.closed s reason] = if s = s' then [false] else [] := by
  by_cases same : s = s' <;> simp [marks, same]

theorem not_true_mem_marks_closings {sessions : List SessionId} {reason : CloseReason} :
    true ∉ marks s (sessions.map (.closed · reason)) := by
  simp [marks, List.mem_filterMap]

namespace Link

variable {τ : Type} {l l' : Link (Recorded τ)} {r : Handling × Link (Recorded τ)} {a : BusyLink.Act}

theorem Retrying.quiet (h : l.Retrying l') : l'.state.active = l.state.active ∧
    ∃ reports, l'.events = l.events ++ reports ∧ ∀ s, marks s reports = [] := by
  obtain ⟨retries, c, reports, calls, rfl, -, tries, -⟩ := h
  refine ⟨rfl, reports, rfl, marks_of_retries ?_⟩
  intro e mem
  have retry := tries e mem
  cases e <;> first | rfl | cases retry

theorem Tried.quiet (h : l.Tried r) : r.2.state.active = l.state.active ∧
    ∃ reports, r.2.events = l.events ++ reports ∧ ∀ s, marks s reports = [] := by
  cases h with
  | given s c h => exact h.quiet
  | stopped handling phase h => exact h.quiet
  | gaveUp reason h =>
      obtain ⟨active, reports, events, silent⟩ := h.quiet
      refine ⟨active, reports ++ [.disconnected reason], ?_, ?_⟩
      · simp [emit, update, events]
      · intro s
        rw [marks_append, silent s]
        rfl

/-- What an act does to the sessions that are open and to what is reported of them. -/
inductive Reporting (l : Link (Recorded τ)) : BusyLink.Act → Link (Recorded τ) → Prop
  | quiet {a after} (reports : List LinkEvent)
      (active : ∀ s, after.state.active.contains s = l.state.active.contains s)
      (keys : after.state.active.keys.Sublist l.state.active.keys)
      (events : after.events = l.events ++ reports) (silent : ∀ s, marks s reports = []) :
      Reporting l a after
  | opened {s peer after} (active : after.state.active = l.state.active.insert s peer)
      (events : after.events = l.events ++ [.opened s peer]) :
      Reporting l (.event (.connected s peer)) after
  | closed {s reason after} (reports : List LinkEvent) (there : l.state.active.contains s = true)
      (current : l.state.isGuest = true → l.state.isCurrent s = true)
      (active : after.state.active = l.state.active.erase s)
      (events : after.events = l.events ++ .closed s reason :: reports)
      (silent : ∀ s, marks s reports = []) : Reporting l (.event (.closed s reason)) after
  | overlooked {s reason after} (there : l.state.active.contains s = true)
      (guest : l.state.isGuest = true) (other : l.state.isCurrent s = false)
      (active : after.state.active = l.state.active.erase s) (events : after.events = l.events) :
      Reporting l (.event (.closed s reason)) after
  | disconnected {after} (active : after.state.active = ∅)
      (events : after.events = l.events ++ l.state.active.keys.map (.closed · .locally) ++
        l.state.pending.toList.map (.closed · .locally)) :
      Reporting l .disconnect after

theorem Reporting.same {after : Link (Recorded τ)} (active : after.state.active = l.state.active)
    (reports : List LinkEvent) (events : after.events = l.events ++ reports)
    (silent : ∀ s, marks s reports = []) : l.Reporting a after :=
  .quiet reports (fun _ => by rw [active]) (active ▸ List.Sublist.refl _) events silent

theorem contains_erase_of_absent {t : Table SessionId Identity} {s : SessionId}
    (absent : t.contains s = false) (s' : SessionId) : (t.erase s).contains s' = t.contains s' := by
  rw [Table.contains_erase]
  split
  · next same => rw [same, absent]
  · rfl

theorem Reporting.ended {s : SessionId} {reason : CloseReason} {after : Link (Recorded τ)}
    (current : l.state.isGuest = true → l.state.isCurrent s = true)
    (active : after.state.active = l.state.active.erase s) (reports : List LinkEvent)
    (events : after.events = l.events ++
      (if l.state.active.contains s then [.closed s reason] else []) ++ reports)
    (silent : ∀ s, marks s reports = []) : l.Reporting (.event (.closed s reason)) after := by
  cases there : l.state.active.contains s with
  | true =>
      rw [there] at events
      exact .closed reports there current active (by simpa using events) silent
  | false =>
      rw [there] at events
      refine .quiet reports ?_ ?_ (by simpa using events) silent
      · rw [active]
        exact contains_erase_of_absent there
      · rw [active]
        exact Table.keys_erase_sublist _ s

/-- The session ends, and the link takes no notice: another one carries the link or is waited for. -/
def Overlooks (s : SessionId) (a : BusyLink.Act) (l : Link (Recorded τ)) : Prop :=
  l.state.isGuest = true ∧ l.state.isCurrent s = false ∧ ∃ reason, a = .event (.closed s reason)

theorem Reporting.sorted {after : Link (Recorded τ)} (h : l.Reporting a after)
    (sorted : l.state.active.keys.Pairwise (· < ·)) : after.state.active.keys.Pairwise (· < ·) := by
  cases h with
  | quiet reports active keys events silent => exact sorted.sublist keys
  | opened active events =>
      rw [active]
      exact Table.sorted_keys_insert SessionId.lt_trans SessionId.lt_of_not_lt sorted _ _
  | closed reports there current active events silent =>
      rw [active]
      exact sorted.sublist (Table.keys_erase_sublist ..)
  | overlooked there guest other active events =>
      rw [active]
      exact sorted.sublist (Table.keys_erase_sublist ..)
  | disconnected active events =>
      rw [active]
      exact List.Pairwise.nil

theorem Reporting.last_mark {after : Link (Recorded τ)} (h : l.Reporting a after)
    (open' : ∀ s, l.state.active.contains s = true → (marks s l.events).getLast? = some true)
    (s : SessionId) (there : after.state.active.contains s = true) :
    (marks s after.events).getLast? = some true := by
  cases h with
  | quiet reports active keys events silent =>
      rw [events, marks_append, silent, List.append_nil]
      exact open' s (active s ▸ there)
  | opened active events =>
      rw [active, Table.contains_insert] at there
      rw [events, marks_append, marks_opened]
      split at there
      · next same => simp [same]
      · next other => simpa [Ne.symm other] using open' s there
  | closed reports _ current active events silent =>
      rw [active, Table.contains_erase] at there
      rw [events, List.append_cons, marks_append, silent, List.append_nil, marks_append, marks_closed]
      split at there
      · cases there
      · next other => simpa [Ne.symm other] using open' s there
  | overlooked _ guest other active events =>
      rw [active, Table.contains_erase] at there
      rw [events]
      split at there
      · cases there
      · exact open' s there
  | disconnected active events => simp [active, Table.contains] at there

theorem Reporting.of_opened {after : Link (Recorded τ)} (h : l.Reporting a after) {s : SessionId}
    (mem : true ∈ marks s after.events) :
    true ∈ marks s l.events ∨ ∃ peer, a = .event (.connected s peer) := by
  cases h with
  | quiet reports active keys events silent =>
      left
      simpa [events, marks_append, silent] using mem
  | @opened s' peer _ active events =>
      rw [events, marks_append, marks_opened, List.mem_append] at mem
      apply mem.imp_right
      intro new
      split at new
      · next same => exact ⟨peer, by rw [same]⟩
      · cases new
  | closed reports there current active events silent =>
      left
      rw [events, List.append_cons, marks_append, silent, marks_append, marks_closed] at mem
      simpa using mem
  | overlooked there guest other active events => exact .inl (events ▸ mem)
  | disconnected active events =>
      left
      rw [events, marks_append, marks_append, List.mem_append, List.mem_append] at mem
      rcases mem with (old | new) | new
      · exact old
      · cases not_true_mem_marks_closings new
      · cases not_true_mem_marks_closings new

theorem Reporting.leaves {after : Link (Recorded τ)} (h : l.Reporting a after) {s : SessionId}
    (there : l.state.active.contains s = true) (gone : after.state.active.contains s = false) :
    (¬ l.Overlooks s a ∧ ∃ reason, .closed s reason ∈ after.events.drop l.events.length) ∨
      l.Overlooks s a ∧ after.events = l.events := by
  cases h with
  | quiet reports active keys events silent =>
      rw [active, there] at gone
      cases gone
  | opened active events =>
      rw [active, Table.contains_insert, there] at gone
      split at gone <;> cases gone
  | @closed s' reason _ reports _ current active events silent =>
      rw [active, Table.contains_erase, there] at gone
      split at gone
      · next same =>
        subst same
        refine .inl ⟨?_, reason, by simp [events]⟩
        rintro ⟨guest, other, -⟩
        rw [current guest] at other
        cases other
      · cases gone
  | @overlooked s' reason _ _ guest other active events =>
      rw [active, Table.contains_erase, there] at gone
      split at gone
      · next same => exact .inr ⟨⟨guest, same ▸ other, reason, by rw [same]⟩, events⟩
      · cases gone
  | disconnected active events =>
      refine .inl ⟨by simp [Overlooks], .locally, ?_⟩
      have mem : s ∈ l.state.active.keys := Table.contains_iff_mem_keys.mp there
      rw [events, List.append_assoc, List.drop_left]
      exact List.mem_append_left _ (List.mem_map_of_mem mem)

theorem Reporting.silent {after : Link (Recorded τ)} (h : l.Reporting a after) {s : SessionId}
    (absent : l.state.active.contains s = false) (other : l.state.pending ≠ some s)
    (quiet : ∀ peer, a ≠ .event (.connected s peer)) :
    after.state.active.contains s = false ∧ marks s after.events = marks s l.events := by
  have stays {s' : SessionId} (active : after.state.active = l.state.active.erase s') :
      after.state.active.contains s = false := by
    rw [active, Table.contains_erase, absent, ite_self]
  cases h with
  | quiet reports active keys events silent =>
      refine ⟨(active s).trans absent, ?_⟩
      rw [events, marks_append, silent, List.append_nil]
  | @opened s' peer _ active events =>
      have distinct : s ≠ s' := by
        rintro rfl
        exact quiet peer rfl
      refine ⟨?_, ?_⟩
      · rw [active, Table.contains_insert, absent, if_neg distinct]
      · rw [events, marks_append, marks_opened, if_neg distinct.symm, List.append_nil]
  | @closed s' reason _ reports there current active events silent =>
      have distinct : s' ≠ s := by
        rintro rfl
        rw [there] at absent
        cases absent
      refine ⟨stays active, ?_⟩
      rw [events, List.append_cons, marks_append, silent, marks_append, marks_closed,
        if_neg distinct, List.append_nil, List.append_nil]
  | overlooked there guest other active events => exact ⟨stays active, by rw [events]⟩
  | disconnected active events =>
      refine ⟨by rw [active]; rfl, ?_⟩
      have absent : s ∉ l.state.active.keys := by
        rw [← Table.contains_iff_mem_keys, absent]
        exact Bool.false_ne_true
      have other : s ∉ l.state.pending.toList := by simpa using other
      rw [events, marks_append, marks_append, marks_closings _ absent, marks_closings _ other,
        List.append_nil, List.append_nil]

theorem Reporting.closing_cases {after : Link (Recorded τ)} (h : l.Reporting a after)
    (sorted : l.state.active.keys.Pairwise (· < ·)) {before later : List LinkEvent} {s : SessionId}
    {reason : CloseReason} (cut : after.events = before ++ .closed s reason :: later) :
    (∃ later', l.events = before ++ .closed s reason :: later') ∨
      (l.state.active.contains s = true ∧ marks s before = marks s l.events) ∨
      a = .disconnect ∧ l.state.pending = some s ∧ reason = .locally ∧
        before = l.events ++ l.state.active.keys.map (.closed · .locally) := by
  have silent_free {reports mid : List LinkEvent} (silent : ∀ s, marks s reports = [])
      (place : reports = mid ++ .closed s reason :: later) : False := by
    have mem : .closed s reason ∈ reports := by simp [place]
    simpa [silent s] using mem_marks_of_closed mem
  cases h with
  | quiet reports active keys events silent =>
      rw [events] at cut
      rcases cut_append cut with old | ⟨mid, -, place⟩
      · exact .inl old
      · cases silent_free silent place
  | opened active events =>
      rw [events] at cut
      rcases cut_append_singleton cut with ⟨-, same⟩ | old
      · cases same
      · exact .inl old
  | @closed s' reason' _ reports there current active events silent =>
      rw [events] at cut
      rcases cut_append cut with old | ⟨mid, rfl, place⟩
      · exact .inl old
      · cases mid with
        | nil =>
            cases place
            exact .inr (.inl ⟨there, by rw [List.append_nil]⟩)
        | cons e mid => cases silent_free silent (List.cons.inj place).2
  | overlooked there guest other active events => exact .inl ⟨later, events ▸ cut⟩
  | disconnected active events =>
      rw [events, List.append_assoc] at cut
      rcases cut_append cut with old | ⟨mid, rfl, place⟩
      · exact .inl old
      · right
        rcases cut_append place with ⟨_, closings⟩ | ⟨rest, rfl, waits⟩
        · -- the sessions that were dropped before are others
          obtain ⟨earlier, rest, keys, rfl, dropped⟩ := List.map_eq_append_iff.mp closings
          obtain ⟨s', others, rfl, same, -⟩ := List.map_eq_cons_iff.mp dropped
          cases same
          rw [keys] at sorted
          have absent : s ∉ earlier := by
            intro mem
            exact SessionId.ne_of_lt ((List.pairwise_append.mp sorted).2.2 s mem s (by simp)) rfl
          left
          rw [Table.contains_iff_mem_keys, marks_append, marks_closings _ absent, List.append_nil]
          exact ⟨by simp [keys], rfl⟩
        · right
          cases pending : l.state.pending with
          | none => simp [pending] at waits
          | some p =>
              rw [pending] at waits
              cases rest with
              | nil =>
                  cases waits
                  exact ⟨rfl, rfl, rfl, by rw [List.append_nil]⟩
              | cons e rest => simp at waits

variable [Channel τ]

theorem Effect.reporting (h : l.Effect a r) : l.Reporting a r.2 := by
  cases h with
  | idle same =>
      obtain ⟨quality, c, extra, rfl, -, -⟩ := same
      exact .same rfl [] (by simp) (fun _ => rfl)
  | @message s data there => exact .same rfl [.message s data] rfl (fun _ => rfl)
  | accept => exact .same rfl [] (by simp) (fun _ => rfl)
  | host => exact .same rfl [] (by simp) (fun _ => rfl)
  | refuse detail why => exact .same rfl [] (by simp [closeSession, hear]) (fun _ => rfl)
  | connect running role tried =>
      obtain ⟨active, reports, events, silent⟩ := tried.quiet
      exact .same active reports events silent
  | resume tried =>
      obtain ⟨active, reports, events, silent⟩ := tried.quiet
      exact .same active reports events silent
  | opened running fresh =>
      refine .opened ?_ rfl
      cases guest : l.state.isGuest with
      | true => rw [state_opened_of_guest guest]
      | false => rw [state_opened_of_not_guest guest]
  | @overlook s reason guest other =>
      cases there : l.state.active.contains s with
      | true => exact .overlooked there guest other rfl rfl
      | false =>
          exact .quiet [] (contains_erase_of_absent there) (Table.keys_erase_sublist _ s)
            (List.append_nil _).symm (fun _ => rfl)
  | stop guest current own =>
      refine .ended (fun _ => current) (by rw [state_release]; rfl) [] ?_ (fun _ => rfl)
      rw [events_release, List.append_nil]
      rfl
  | lose guest current foreign running tried =>
      obtain ⟨active, reports, events, silent⟩ := tried.quiet
      rw [state_release] at active
      rw [events_release] at events
      exact .ended (fun _ => current) active reports events silent
  | settle host =>
      refine .ended (by simp [host]) ?_ [] ?_ (fun _ => rfl)
      · rw [state_report, update, LinkState.settleHost]
        split <;> rfl
      · rw [events_report, List.append_nil]
        rfl
  | disconnect =>
      obtain ⟨events, state⟩ := disconnect_eq l
      refine .disconnected (by rw [state]) ?_
      rw [events, List.map_append, List.append_assoc]

/-- The open sessions are among those that were reported as opened and not as closed since, and each
of these was connected. -/
structure Logged (l : Link (Recorded τ)) : Prop where
  sorted : l.state.active.keys.Pairwise (· < ·)
  opened : ∀ s, l.state.active.contains s = true → (marks s l.events).getLast? = some true
  heard : ∀ s, true ∈ marks s l.events → HasConnected s l.record

theorem Logged.perform (h : l.Logged) (a : BusyLink.Act) : (l.perform a).2.Logged := by
  have reporting := (effect_perform a l).reporting
  refine ⟨reporting.sorted h.sorted, reporting.last_mark h.opened, ?_⟩
  intro s mem
  rcases reporting.of_opened mem with old | ⟨peer, rfl⟩
  · obtain ⟨more, same⟩ := record_perform a l
    rw [← same]
    exact (h.heard s old).append more
  · obtain ⟨more, same⟩ := record_handle (.connected s peer) (l.hear (.connected s peer))
    refine ⟨peer, ?_⟩
    rw [Link.perform, ← same]
    simp

end Link

namespace BusyLink

variable {τ : Type} [Channel τ] {x : BusyLink τ} {a : Act}

theorem logged_step (h : x.link.Logged) (a : Act) : (x.step a).link.Logged := by
  rw [step]
  split
  · exact h.perform a
  · exact h

theorem logged_run (settings : LinkSettings) (channel : τ) (acts : List Act) :
    ((start settings channel).run acts).link.Logged := by
  refine run_induction (P := (·.link.Logged)) ?_ (fun _ a h => logged_step h a) acts
  refine ⟨List.Pairwise.nil, ?_, ?_⟩
  · intro s there
    cases there
  · intro s mem
    cases mem

theorem reporting_step (x : BusyLink τ) (a : Act) :
    x.step a = x ∨ x.link.Reporting a (x.step a).link := by
  rcases step_cases x a with ⟨-, same⟩ | ⟨-, r, effect, stepped⟩
  · exact .inl same
  · rw [stepped]
    exact .inr effect.reporting

/-! ## Sessions whose end is not reported -/

/-- A session that is over without this having been reported. -/
structure Forgotten (s : SessionId) (reported : List Bool) (x : BusyLink τ) : Prop where
  tracked : x.Tracked
  closed : HasClosed s x.link.record
  absent : x.link.state.active.contains s = false
  marks : marks s x.link.events = reported

theorem Forgotten.step {reported : List Bool} (h : x.Forgotten s reported) (a : Act)
    (lawful : Lawful (x.step a).link.record) : (x.step a).Forgotten s reported := by
  have tracked := h.tracked.step a lawful
  have closed : HasClosed s (x.step a).link.record := by
    obtain ⟨more, same⟩ := record_step x a
    rw [← same]
    exact h.closed.append more
  rcases reporting_step x a with same | reporting
  · rwa [same]
  · have other : x.link.state.pending ≠ some s :=
      fun waits => (h.tracked.link.awaited s waits).2.going h.closed
    have quiet (peer : Identity) : a ≠ .event (.connected s peer) := by
      rintro rfl
      exact (Link.allowed_perform lawful).2.2 h.closed
    obtain ⟨absent, marks⟩ := reporting.silent h.absent other quiet
    exact ⟨tracked, closed, absent, marks.trans h.marks⟩

theorem Tracked.forgotten (h : x.Tracked) (overlooks : x.link.Overlooks s a)
    (gone : (x.step a).link.state.active.contains s = false)
    (same : (x.step a).link.events = x.link.events) (lawful : Lawful (x.step a).link.record) :
    (x.step a).Forgotten s (marks s x.link.events) := by
  refine ⟨h.step a lawful, ?_, gone, by rw [same]⟩
  obtain ⟨-, -, reason, rfl⟩ := overlooks
  exact ⟨reason, (record_event x _).subset (by simp)⟩

theorem not_overlooks {settings : LinkSettings} {channel : τ} {acts : List Act}
    (there : ((start settings channel).run acts).link.state.active.contains s = true)
    (free : (start settings channel).ConnectsFree acts)
    (faithful : Faithful (((start settings channel).run acts).step a).link.record) :
    ¬ ((start settings channel).run acts).link.Overlooks s a := by
  rintro ⟨guest, other, reason, rfl⟩
  rcases lone_run free (faithful.of_prefix (record_step _ _)) with isOver | lone
  · rw [isOver.link.not_contains s] at there
    cases there
  · have held := lone.held_of_given (faithful.closed (record_event _ _))
    rw [LinkState.isCurrent_of_held held] at other
    cases other

/-- When a session ceases to be open, its end is reported at once, unless it ends while another
carries the guest's link or is waited for. It is then never reported. This cannot happen if each
connect finds the guest without a session. -/
theorem closings_reported (settings : LinkSettings) (channel : τ) (acts : List Act) (a : Act)
    (s : SessionId) :
    let x := (start settings channel).run acts
    x.link.state.active.contains s = true → (x.step a).link.state.active.contains s = false →
      (marks s x.link.events).getLast? = some true ∧
      ((∃ reason, .closed s reason ∈ (x.step a).link.events.drop x.link.events.length) ↔
        ¬ x.link.Overlooks s a) ∧
      (x.link.Overlooks s a → ∀ later, Lawful ((x.step a).run later).link.record →
        marks s ((x.step a).run later).link.events = marks s x.link.events) ∧
      ((start settings channel).ConnectsFree acts → Faithful (x.step a).link.record →
        ¬ x.link.Overlooks s a) := by
  intro x there gone
  have reporting : x.link.Reporting a (x.step a).link := by
    apply (reporting_step x a).resolve_left
    intro same
    rw [same, there] at gone
    cases gone
  refine ⟨(logged_run settings channel acts).opened s there, ?_⟩
  rcases reporting.leaves there gone with ⟨notices, closed⟩ | ⟨overlooks, same⟩
  · exact ⟨iff_of_true closed notices, fun overlooks => absurd overlooks notices,
      fun _ _ => notices⟩
  · refine ⟨iff_of_false (by simp [same]) (not_not_intro overlooks), fun _ later lawful => ?_,
      not_overlooks there⟩
    have lawful' := lawful.of_prefix (record_run _ later)
    have tracked : x.Tracked := tracked_run (lawful'.of_prefix (record_step x a))
    have forgotten := tracked.forgotten overlooks gone same lawful'
    exact (run_lawful (P := Forgotten s _) forgotten (fun _ a h => h.step a) lawful).marks

theorem closings_reported_two_connects :
    let s : SessionId := ⟨1⟩
    let x := (start {} ({} : Script)).run [.connect "host", .event (.connected s "host"),
      .connect "host", .event (.connected ⟨2⟩ "host")]
    let a : Act := .event (.closed s .byPeer)
    x.link.state.active.contains s = true ∧ (x.step a).link.state.active.contains s = false ∧
      Lawful ((x.step a).run [.disconnect]).link.record ∧
      marks s ((x.step a).run [.disconnect]).link.events = [true] := by
  intro s x a
  have there : x.link.state.active.contains s = true := by decide +kernel
  have gone : (x.step a).link.state.active.contains s = false := by decide +kernel
  have lawful : Lawful ((x.step a).run [.disconnect]).link.record := by decide +kernel
  have overlooks : x.link.Overlooks s a := ⟨by decide +kernel, by decide +kernel, .byPeer, rfl⟩
  obtain ⟨-, -, never, -⟩ := closings_reported {} ({} : Script) _ a s there gone
  refine ⟨there, gone, lawful, ?_⟩
  rw [never overlooks _ lawful]
  decide +kernel

theorem closing_lost :
    let s : SessionId := ⟨1⟩
    let x := (start {} ({} : Script)).run [.connect "host", .event (.connected s "host"),
      .connect "host", .event (.connected ⟨2⟩ "host")]
    let after := x.step (.event (.closed s .byPeer))
    Lawful after.link.record ∧ x.link.events = [.opened s "host", .opened ⟨2⟩ "host"] ∧
      x.link.state.active.keys = [s, ⟨2⟩] ∧ after.link.state.active.keys = [⟨2⟩] ∧
      after.link.events = x.link.events := by
  decide +kernel

/-! ## Sessions that never were open -/

theorem closing_cases (settings : LinkSettings) (channel : τ) {acts : List Act}
    {before after : List LinkEvent} {s : SessionId} {reason : CloseReason}
    (cut : ((start settings channel).run acts).link.events = before ++ .closed s reason :: after) :
    (marks s before).getLast? = some true ∨
      reason = .locally ∧ ∃ earlier later, acts = earlier ++ .disconnect :: later ∧
        let y := (start settings channel).run earlier
        y.link.state.pending = some s ∧
          before = y.link.events ++ y.link.state.active.keys.map (.closed · .locally) := by
  induction acts using List.reverseRecOn generalizing after with
  | nil => simp [run, start, Link.start] at cut
  | append_singleton acts a ih =>
      -- the end is reported in the last act, or before
      by_cases old : ∃ after', ((start settings channel).run acts).link.events =
          before ++ .closed s reason :: after'
      · obtain ⟨after', cut⟩ := old
        rcases ih cut with open' | ⟨locally, earlier, later, same, waits⟩
        · exact .inl open'
        · exact .inr ⟨locally, earlier, later ++ [a], by simp [same], waits⟩
      · have logged := logged_run settings channel acts
        rw [run_append] at cut
        rcases reporting_step ((start settings channel).run acts) a with same | reporting
        · exact absurd ⟨after, same ▸ cut⟩ old
        · rcases reporting.closing_cases logged.sorted cut with
            now | ⟨there, same⟩ | ⟨rfl, waits, locally, same⟩
          · exact absurd now old
          · left
            rw [same]
            exact logged.opened s there
          · exact .inr ⟨locally, acts, [], rfl, waits, same⟩

/-- An end that is reported is that of a session that was reported as open, with one exception: that
of a session which is still waited for when the guest disconnects, and which was never open. -/
theorem closings_follow_openings (settings : LinkSettings) (channel : τ) (acts : List Act) :
    let x := (start settings channel).run acts
    (∀ before s reason after, x.link.events = before ++ .closed s reason :: after →
      (marks s before).getLast? = some true ∨
      reason = .locally ∧ ∃ earlier later, acts = earlier ++ .disconnect :: later ∧
        let y := (start settings channel).run earlier
        y.link.state.pending = some s ∧
          before = y.link.events ++ y.link.state.active.keys.map (.closed · .locally)) ∧
    (Lawful x.link.record → ∀ s, x.link.state.pending = some s →
      true ∉ marks s x.link.events ∧
      (x.step .disconnect).link.events =
        x.link.events ++ x.link.state.active.keys.map (.closed · .locally) ++ [.closed s .locally]) := by
  intro x
  refine ⟨fun before s reason after cut => closing_cases settings channel cut, ?_⟩
  intro lawful s waits
  have awaited := ((tracked_run lawful).link.awaited s waits).2
  refine ⟨fun mem => awaited.new ((logged_run ..).heard s mem), ?_⟩
  change x.link.disconnect.events = _
  rw [(Link.disconnect_eq x.link).1, waits, List.map_append, List.append_assoc]
  rfl

theorem closings_follow_openings_waiting :
    let x := (start {} ({} : Script)).run [.connect "host"]
    Lawful x.link.record ∧ x.link.state.pending = some ⟨1⟩ ∧ true ∉ marks ⟨1⟩ x.link.events ∧
      (x.step .disconnect).link.events = [.closed ⟨1⟩ .locally] := by
  intro x
  have lawful : Lawful x.link.record := by decide +kernel
  have waits : x.link.state.pending = some ⟨1⟩ := by decide +kernel
  obtain ⟨never, reports⟩ := (closings_follow_openings {} ({} : Script) _).2 lawful _ waits
  exact ⟨lawful, waits, never, reports.trans (by decide +kernel)⟩

theorem closing_without_opening :
    let x := (start {} ({} : Script)).run [.connect "host", .disconnect]
    Lawful x.link.record ∧ x.link.events = [.closed ⟨1⟩ .locally] := by
  decide +kernel

end BusyLink
end StreamTunnel
