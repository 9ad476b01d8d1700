import StreamTunnel.Proofs.Link.Standing

namespace StreamTunnel

theorem Link.onConnected_awaited {τ : Type} [Channel τ] {s : SessionId} (l : Link (Recorded τ))
    (running : l.state.isShutDown = false) (waits : l.state.pending = some s) (peer : Identity) :
    (l.hear (.connected s peer)).onConnected s peer =
      ((l.hear (.connected s peer)).update (·.opened s peer)).emit (.opened s peer) := by
  have fresh : l.state.isStale s = false := by simp [LinkState.isStale, waits]
  rw [onConnected, if_neg (by exact ne_true_of_eq_false running), if_neg (by exact ne_true_of_eq_false fresh)]

namespace BusyLink

variable {τ : Type} {x : BusyLink τ} {a : Act} {s t : SessionId}

def OneSession (x : BusyLink τ) : Prop :=
  x.link.state.active.keys = [] ∨
    ∃ p, x.link.state.primary = some p ∧ x.link.state.active.keys = [p]

/-- The act is about a session beside another one that is open: it connects, or the link keeps track
of it and it ends. -/
def Crowds (x : BusyLink τ) : Act → Prop
  | .event (.connected s _) => x.link.state.isShutDown = false ∧ x.link.state.isStale s = false ∧
      ∃ t, x.link.state.active.contains t = true ∧ t ≠ s
  | .event (.closed s _) => x.link.state.isCurrent s = true ∧
      ∃ t, x.link.state.active.contains t = true ∧ t ≠ s
  | _ => False

theorem Crowds.heeds (h : x.Crowds a) : x.link.Heeds a := by
  cases a with
  | event e =>
      cases e with
      | connected s peer => exact ⟨h.1, h.2.1⟩
      | incoming | message | closed => trivial
  | host | connect | resume | send | sample | disconnect => cases h

theorem Over.not_crowds (h : x.Over) : ¬ x.Crowds a := by
  intro crowds
  cases a with
  | event e =>
      cases e with
      | connected s peer =>
          obtain ⟨-, -, t, there, -⟩ := crowds
          cases (h.link.not_contains t).symm.trans there
      | closed s reason =>
          obtain ⟨-, t, there, -⟩ := crowds
          cases (h.link.not_contains t).symm.trans there
      | incoming | message => cases crowds
  | host | connect | resume | send | sample | disconnect => cases crowds

theorem OneSession.opened_iff (one : x.OneSession) {y : BusyLink τ} {peer : Identity}
    (active : y.link.state.active = x.link.state.active.insert s peer)
    (primary : y.link.state.primary = some s) :
    y.OneSession ↔ ¬ ∃ t, x.link.state.active.contains t = true ∧ t ≠ s := by
  rw [OneSession, active, primary]
  rcases one with none | ⟨p, -, only⟩
  · refine iff_of_true (.inr ⟨s, rfl, Table.keys_insert_of_empty none s peer⟩) ?_
    rintro ⟨t, there, -⟩
    exact Table.keys_eq_nil_iff.mp none ⟨t, there⟩
  · have there : x.link.state.active.contains p = true := by
      rw [Table.contains_iff_mem_keys, only]
      exact List.mem_singleton_self p
    by_cases same : p = s
    · subst same
      refine iff_of_true (.inr ⟨p, rfl, Table.keys_insert_of_singleton only peer⟩) ?_
      rintro ⟨t, mem, other⟩
      rw [Table.contains_iff_mem_keys, only] at mem
      exact other (List.mem_singleton.mp mem)
    · refine iff_of_false ?_ (not_not_intro ⟨p, there, same⟩)
      have stays : (x.link.state.active.insert s peer).contains p = true := by
        rw [Table.contains_insert, there, ite_self]
      rw [Table.contains_iff_mem_keys] at stays
      rintro (none | ⟨_, ⟨⟩, only⟩)
      · rw [none] at stays
        cases stays
      · rw [only] at stays
        exact same (List.mem_singleton.mp stays)

theorem OneSession.overlooked (one : x.OneSession) {y : BusyLink τ} (other : x.link.state.isCurrent s = false)
    (active : y.link.state.active = x.link.state.active.erase s)
    (primary : y.link.state.primary = x.link.state.primary) : y.OneSession := by
  rw [OneSession, active, primary]
  rcases one with none | ⟨p, carries, only⟩
  · left
    rw [Table.keys_erase, none]
    rfl
  · have apart : p ≠ s := by
      rintro rfl
      simp [LinkState.isCurrent, carries] at other
    right
    refine ⟨p, carries, ?_⟩
    rw [Table.keys_erase, only]
    simp [apart]

variable [Channel τ]

theorem Steady.one_session_step (h : x.Steady) (going : x.AllGoing) (lawful : Lawful x.link.record)
    (notHost : x.link.state.isHost = false) (one : x.OneSession) (a : Act)
    (lawful' : Lawful (x.step a).link.record) : (x.step a).OneSession ↔ ¬ x.Crowds a := by
  have roles := h.roled.roles
  rcases h.roled.shift a with ⟨early, same⟩ | shift
  · rw [same]
    refine iff_of_true one (fun crowds => ?_)
    cases a with
    | resume w => cases crowds
    | host | connect | event | send | sample | disconnect => cases early
  · have active : (x.step a).link.state.active = (x.step a).link.state.standing.active := rfl
    have primary : (x.step a).link.state.primary = (x.step a).link.state.standing.primary := rfl
    cases shift with
    | quiet unheeded same =>
        refine iff_of_true ?_ (fun crowds => unheeded crowds.heeds)
        rwa [OneSession, active, primary, same]
    | waits going same =>
        refine iff_of_true ?_ id
        rwa [OneSession, active, primary, same]
    | claimed c admits standing =>
        refine iff_of_true ?_ (by cases c <;> exact id)
        rwa [OneSession, active, primary, standing]
    | resumed gaveUp standing =>
        refine iff_of_true ?_ id
        rwa [OneSession, active, primary, standing]
    | @opened s peer _ running fresh standing =>
        have begun := (Link.allowed_perform lawful').1
        have accepts : .asked (.accept s) ∉ x.link.record := by
          intro accepted
          cases notHost.symm.trans (roles.accepts s accepted)
        have guest := roles.given s (begun.resolve_right accepts)
        rw [standing] at active primary
        rw [one.opened_iff active (primary.trans (if_pos guest)), Crowds, and_iff_right running, and_iff_right fresh]
    | @overlooked s reason _ guest other standing =>
        rw [standing] at active primary
        exact iff_of_true (one.overlooked other active primary) fun crowds => by cases other.symm.trans crowds.1
    | released phase guest current lost standing =>
        rw [standing] at active primary
        rw [Crowds, and_iff_right current, ← Table.keys_erase_eq_nil_iff, OneSession, primary, active]
        simp
    | @settled s reason _ host standing =>
        have none : ¬ ∃ t, x.link.state.active.contains t = true := by
          rintro ⟨t, there⟩
          cases host.symm.trans (going.given roles lawful notHost there).1
        refine iff_of_true (.inl ?_) ?_
        · rw [active, standing]
          exact Table.keys_erase_eq_nil_iff.mpr fun ⟨t, there, _⟩ => none ⟨t, there⟩
        · rintro ⟨-, t, there, -⟩
          exact none ⟨t, there⟩
    | disconnected standing =>
        refine iff_of_true (.inl ?_) id
        rw [active, standing]
        rfl

theorem Lone.not_crowds (h : x.Lone) (going : x.AllGoing) (roles : x.link.Roles)
    (notHost : x.link.state.isHost = false) (faithful : Faithful (x.step a).link.record) :
    ¬ x.Crowds a := by
  have lawful : Lawful x.link.record := (faithful.of_prefix (record_step x a)).lawful
  have only {s t : SessionId} (held : x.link.state.held = some s) (there : x.link.state.active.contains t = true) :
      t = s :=
    Option.some.inj ((h.held_of_open going roles lawful notHost there).symm.trans held)
  intro crowds
  cases a with
  | event e =>
      cases e with
      | connected s peer =>
          obtain ⟨-, -, t, there, other⟩ := crowds
          have guest := (going.given roles lawful notHost there).1
          have allowed := Link.allowed_perform faithful.lawful
          exact other (only (h.held_of_connected roles guest allowed) there)
      | closed s reason =>
          obtain ⟨-, t, there, other⟩ := crowds
          exact other (only (h.held_of_given (faithful.closed (record_event x _))) there)
      | incoming | message => cases crowds
  | host | connect | resume | send | sample | disconnect => cases crowds

theorem shut_step (shut : x.link.state.isShutDown = true) (a : Act) :
    (x.step a).link.state.isShutDown = true := by
  rcases step_cases x a with ⟨-, same⟩ | ⟨-, r, effect, stepped⟩
  · rwa [same]
  · by_cases last : a = .disconnect
    · subst last
      exact (over_disconnect x).link.shut
    · rw [stepped]
      exact (effect.keeps.2 last).trans shut

/-- A session that was open is open, is over, or was closed for good. -/
def Remains (t : SessionId) (x : BusyLink τ) : Prop :=
  x.link.state.active.contains t = true ∨ HasClosed t x.link.record ∨ x.link.state.isShutDown = true

theorem Remains.step (h : x.Remains t) (roled : x.Roled) (a : Act) : (x.step a).Remains t := by
  have active : (x.step a).link.state.active = (x.step a).link.state.standing.active := rfl
  rcases h with there | gone | shut
  · have ended {s : SessionId} {reason : CloseReason} (ends : a = .event (.closed s reason))
        (active : (x.step a).link.state.active = x.link.state.active.erase s) :
        (x.step a).Remains t := by
      by_cases same : t = s
      · subst ends same
        exact .inr (.inl ⟨reason, (record_event x _).subset (by simp)⟩)
      · left
        rw [active, Table.contains_erase, if_neg same, there]
    rcases roled.shift a with ⟨-, same⟩ | shift
    · rw [same]
      exact .inl there
    · cases shift with
      | quiet _ same | waits _ same =>
          left
          rwa [active, same]
      | claimed _ _ standing | resumed _ standing =>
          left
          rwa [active, standing]
      | opened _ _ standing =>
          left
          rw [active, standing, Table.contains_insert, there, ite_self]
      | overlooked _ _ standing | settled _ standing => exact ended rfl (by rw [active, standing])
      | released _ _ _ _ standing => exact ended rfl (by rw [active, standing])
      | disconnected => exact .inr (.inr (over_disconnect x).link.shut)
  · obtain ⟨more, grown⟩ := record_step x a
    exact .inr (.inl (grown ▸ gone.append more))
  · exact .inr (.inr (shut_step shut a))

theorem Remains.run (h : x.Remains t) (roled : x.Roled) (acts : List Act) : (x.run acts).Remains t :=
  (run_induction (P := fun x => x.Roled ∧ x.Remains t) ⟨roled, h⟩
    (fun _ a h => ⟨h.1.step a, h.2.step h.1 a⟩) acts).2

/-- A guest has one session at every moment if and only if no act crowds it, and none does if each
connect finds it without a session and without a handler that waits. If it connects again while a
session is open, and the new one connects, then nothing is asked of the channel, and the old one
stays open until the channel ends it or the link is shut down. -/
theorem one_session (settings : LinkSettings) (channel : τ) (acts : List Act) :
    let x := (start settings channel).run acts
    Lawful x.link.record → x.link.state.isHost = false →
      ((∀ before, before <+: acts → ((start settings channel).run before).OneSession) ↔
        ∀ before a after, acts = before ++ a :: after →
          ¬ ((start settings channel).run before).Crowds a) ∧
      (Faithful x.link.record → (start settings channel).ConnectsFree acts → x.OneSession) ∧
      ∀ s t peer, x.link.state.active.contains t = true → x.link.state.pending = some s →
        let y := x.step (.event (.connected s peer))
        Lawful (x.link.record ++ [.told (.connected s peer)]) →
        t ≠ s ∧ y.link.state.active.contains s = true ∧
          y.link.record = x.link.record ++ [.told (.connected s peer)] ∧
          ∀ later, (y.run later).link.state.active.contains t = true ∨
            HasClosed t (y.run later).link.record ∨ (y.run later).link.state.isShutDown = true := by
  intro x lawful notHost
  have notHost' {before : List Act} (here : before <+: acts) :
      ((start settings channel).run before).link.state.isHost = false := by
    obtain ⟨more, rfl⟩ := here
    apply Bool.eq_false_iff.mpr
    intro hosts
    have still := role_run (of_decide_eq_true hosts) more
    rw [← run_append] at still
    cases notHost.symm.trans (decide_eq_true still)
  have always : (∀ before, before <+: acts → ((start settings channel).run before).OneSession) ↔ _ :=
    always_iff (.inl rfl) fun before a next one => by
      have here := (List.prefix_append before [a]).trans next
      have stepped := lawful.of_prefix (record_of_earlier next)
      rw [run_append] at stepped
      have earlier := lawful.of_prefix (record_of_earlier here)
      exact (steady_run settings channel before).one_session_step (open_run earlier) earlier
        (notHost' here) one a stepped
  refine ⟨always, fun faithful connects => ?_, ?_⟩
  · refine always.mpr (fun before a after cut => ?_) acts List.prefix_rfl
    obtain ⟨here, next⟩ := prefix_of_cut cut
    have earlier := faithful.of_prefix (record_of_earlier here)
    have stepped := faithful.of_prefix (record_of_earlier next)
    rw [run_append] at stepped
    rcases lone_run (cut ▸ connects).of_append earlier with isOver | lone
    · exact isOver.not_crowds
    · exact lone.not_crowds (open_run earlier.lawful) (roled_run settings channel before).roles
        (notHost' here) stepped
  · intro s t peer there waits y told
    have tracked : x.Tracked := tracked_run lawful
    obtain ⟨⟨guest, running⟩, awaited⟩ := tracked.link.awaited s waits
    have carrying := open_run lawful t there
    have other : t ≠ s := by
      rintro rfl
      exact awaited.new carrying.connected
    have opens := x.link.onConnected_awaited running waits peer
    have link : y.link = _ := opens
    have roled : y.Roled := (roled_run settings channel acts).step _
    have opened : y.link.state.active = x.link.state.active.insert s peer := by
      rw [link, Link.state_opened_of_guest guest]
    refine ⟨other, ?_, by rw [link]; rfl, fun later => ?_⟩
    · rw [opened, Table.contains_insert, if_pos rfl]
    · have remains : y.Remains t := by
        left
        rw [opened, Table.contains_insert, there, ite_self]
      exact remains.run roled later

theorem one_session_two_connects :
    let acts : List Act := [.connect "host", .event (.connected ⟨1⟩ "host"), .connect "host"]
    let x := (start {} ({} : Script)).run (acts.take 2)
    let y := (start {} ({} : Script)).run acts
    x.OneSession ∧ Lawful y.link.record ∧ y.link.state.isHost = false ∧
      (y.step (.event (.connected ⟨2⟩ "host"))).link.state.active.contains ⟨2⟩ = true := by
  intro acts x y
  have faithful : Faithful x.link.record := by decide +kernel
  have connects : (start {} ({} : Script)).ConnectsFree (acts.take 2) := by decide +kernel
  have one := (one_session {} ({} : Script) (acts.take 2) faithful.lawful rfl).2.1 faithful connects
  have lawful : Lawful y.link.record := by decide +kernel
  have notHost : y.link.state.isHost = false := rfl
  have told : Lawful (y.link.record ++ [.told (.connected ⟨2⟩ "host")]) := by decide +kernel
  have there : y.link.state.active.contains ⟨1⟩ = true := rfl
  have superseded := (one_session {} ({} : Script) acts lawful notHost).2.2
  exact ⟨one, lawful, notHost, (superseded ⟨2⟩ ⟨1⟩ "host" there rfl told).2.1⟩

/-- The session of an earlier connect stays open beside the new one. -/
theorem superseded_session_stays :
    let x := (start {} ({} : Script)).run [.connect "host", .event (.connected ⟨1⟩ "host"),
      .connect "host", .event (.connected ⟨2⟩ "host")]
    Faithful x.link.record ∧ x.link.state.isGuest = true ∧ x.link.state.primary = some ⟨2⟩ ∧
      x.link.state.active.keys = [⟨1⟩, ⟨2⟩] ∧ ¬ x.OneSession := by
  refine ⟨by decide +kernel, rfl, rfl, rfl, ?_⟩
  rintro (none | ⟨p, -, only⟩)
  · cases none
  · cases only

end BusyLink
end StreamTunnel
