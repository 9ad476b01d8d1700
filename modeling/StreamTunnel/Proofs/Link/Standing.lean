import StreamTunnel.Proofs.Link.GivingUp
import StreamTunnel.Proofs.Link.Starting

namespace StreamTunnel

structure Standing where
  role : Option Role
  phase : Phase
  active : Table SessionId Identity
  primary : Option SessionId

def LinkState.standing (st : LinkState) : Standing :=
  ⟨st.role, st.phase, st.active, st.primary⟩

structure Standing.Sound (st : Standing) : Prop where
  carried : ∀ p, st.primary = some p → st.role = some .guest ∧ st.active.contains p = true
  guest : st.role = some .guest → st.phase = .connected → ∃ p, st.primary = some p
  inhabited : st.phase = .connected → ∃ s, st.active.contains s = true

namespace Link

variable {τ : Type} {l l' l'' : Link (Recorded τ)}

/-! ## Retries -/

def Persists (l l' : Link (Recorded τ)) : Prop :=
  (l.Quits l' ∧ l'.state.phase = .closed) ∨ (¬ l.Quits l' ∧ l'.state.phase = l.state.phase)

theorem Retrying.persists (first : l.Retrying l') (second : l'.Persists l'') : l.Persists l'' := by
  have same : l'.events.filter LinkEvent.isDisconnected = l.events.filter LinkEvent.isDisconnected :=
    not_not.mp first.not_quits
  obtain ⟨retries, state⟩ := first.state_eq
  rcases second with ⟨quits, closed⟩ | ⟨going, phase⟩
  · exact .inl ⟨by rwa [Quits, ← same], closed⟩
  · exact .inr ⟨by rwa [Quits, ← same], phase.trans (by rw [state])⟩

theorem Retrying.stays (h : l.Retrying l') : l.Persists l' :=
  h.persists (.inr ⟨not_not_intro rfl, rfl⟩)

theorem standing_of_tried {r : Handling × Link (Recorded τ)} (h : l.Tried r) :
    r.2.state.standing = { l.state.standing with phase := r.2.state.phase } := by
  obtain ⟨phase, retries, pending, state⟩ := h.state_eq
  rw [state]
  rfl

variable [Channel τ]

theorem reconnectWith_persists (fuel : Nat) (reason : CloseReason) (l : Link (Recorded τ))
    (known : l.state.peer.isSome = true) : l.Persists (l.reconnectWith fuel reason).2 := by
  induction fuel generalizing reason l with
  | zero => exact (Retrying.refl l).stays
  | succ fuel ih =>
      obtain ⟨peer, peer_eq⟩ := Option.isSome_iff_exists.mp known
      rw [reconnectWith]
      simp only [peer_eq]
      split
      · left
        refine ⟨?_, rfl⟩
        simp [Quits, emit, update, LinkEvent.isDisconnected]
      · exact .inr ⟨not_not_intro rfl, rfl⟩
      · next a retries _ =>
        have granted := retrying_granted retries a.number a.virtualPort l
        split
        · apply granted.persists
          rcases dial_cases peer a.virtualPort ((l.update (fun st => { st with retries })).emit
            (.reconnecting a.number a.virtualPort)) with ⟨s, c, dialed, -⟩ | ⟨e, c, dialed, -⟩
          · rw [dialed]
            exact .inr ⟨not_not_intro rfl, rfl⟩
          · rw [dialed]
            exact ih e.toReason _ known
        · exact granted.stays

theorem resume_persists (w : Waiting) (l : Link (Recorded τ)) (known : l.state.peer.isSome = true) :
    l.Persists (l.resume w).2 := by
  rw [resume]
  rcases dial_cases w.peer w.attempt.virtualPort l with ⟨s, c, dialed, -⟩ | ⟨e, c, dialed, -⟩
  · rw [dialed]
    exact .inr ⟨not_not_intro rfl, rfl⟩
  · rw [dialed]
    exact reconnectWith_persists _ e.toReason { l with channel := c } known

theorem standing_reconnect (reason : CloseReason) (l : Link (Recorded τ))
    (known : l.state.peer.isSome = true) (lost : l.state.phase ≠ .connected) :
    ∃ phase, phase ≠ .connected ∧
      (l.reconnect reason).2.state.standing = { l.state.standing with phase } := by
  refine ⟨_, ?_, standing_of_tried (reconnectWith_tried _ reason l)⟩
  rw [reconnect]
  rcases reconnectWith_persists (l.state.retries.remaining + 1) reason l known with
    ⟨-, closed⟩ | ⟨-, same⟩
  · rw [closed]
    simp
  · rwa [same]

/-! ## What an act does -/

def Heeds (l : Link (Recorded τ)) : BusyLink.Act → Prop
  | .host => l.state.Admits .host
  | .connect _ => l.state.Admits .guest
  | .event (.connected s _) => l.state.isShutDown = false ∧ l.state.isStale s = false
  | .event (.closed ..) | .resume _ | .disconnect => True
  | .event (.incoming ..) | .event (.message ..) | .send .. | .sample => False

omit [Channel τ] in
theorem heeds_start (c : Start) : l.Heeds c.act ↔ l.state.Admits c.role := by
  cases c <;> exact Iff.rfl

inductive Shift (l : Link (Recorded τ)) : BusyLink.Act → Link (Recorded τ) → Prop
  | quiet {a} {after : Link (Recorded τ)} (unheeded : ¬ l.Heeds a) (same : after.state.standing = l.state.standing) : Shift l a after
  | claimed (c : Start) {after : Link (Recorded τ)} (admits : l.state.Admits c.role)
      (standing : after.state.standing =
        { l.state.standing with role := some c.role, phase := .connecting }) : Shift l c.act after
  | resumed {w} {after : Link (Recorded τ)} (gaveUp : l.Quits after)
      (standing : after.state.standing = { l.state.standing with phase := .closed }) :
      Shift l (.resume w) after
  | waits {w} {after : Link (Recorded τ)} (going : ¬ l.Quits after) (same : after.state.standing = l.state.standing) :
      Shift l (.resume w) after
  | opened {s peer} {after : Link (Recorded τ)} (running : l.state.isShutDown = false) (fresh : l.state.isStale s = false)
      (standing : after.state.standing =
        { l.state.standing with
          phase := .connected
          active := l.state.active.insert s peer
          primary := if l.state.isGuest then some s else l.state.primary }) :
      Shift l (.event (.connected s peer)) after
  | overlooked {s reason} {after : Link (Recorded τ)} (guest : l.state.isGuest = true) (other : l.state.isCurrent s = false)
      (standing : after.state.standing =
        { l.state.standing with active := l.state.active.erase s }) :
      Shift l (.event (.closed s reason)) after
  | released {s reason} {after : Link (Recorded τ)} (phase : Phase) (guest : l.state.isGuest = true)
      (current : l.state.isCurrent s = true) (lost : phase ≠ .connected)
      (standing : after.state.standing =
        { l.state.standing with phase, active := l.state.active.erase s, primary := none }) :
      Shift l (.event (.closed s reason)) after
  | settled {s reason} {after : Link (Recorded τ)} (host : l.state.isGuest = false)
      (standing : after.state.standing =
        { l.state.standing with
          phase := if (l.state.active.erase s).isEmpty then
              if l.state.phase = .connected then .connecting else l.state.phase
            else l.state.phase
          active := l.state.active.erase s }) :
      Shift l (.event (.closed s reason)) after
  | disconnected {after : Link (Recorded τ)} (standing : after.state.standing =
        { l.state.standing with phase := .closed, active := ∅, primary := none }) :
      Shift l .disconnect after

theorem shift_start (c : Start) (l : Link (Recorded τ)) : l.Shift c.act (l.perform c.act).2 := by
  cases claimed : l.state.claim c.role with
  | error e =>
      refine .quiet (fun heeds => ?_) (by rw [(Start.refused claimed).2])
      cases claimed.symm.trans (LinkState.claim_of_admits ((heeds_start c).mp heeds))
  | ok st =>
      obtain ⟨running, free, -⟩ := claim_ok claimed
      obtain ⟨listening, pending, peer, state⟩ := Start.state_of_admits ⟨running, free⟩
      refine .claimed c ⟨running, free⟩ ?_
      rw [state]
      rfl

theorem shift_connected (s : SessionId) (peer : Identity) (l : Link (Recorded τ)) :
    l.Shift (.event (.connected s peer)) ((l.hear (.connected s peer)).onConnected s peer) := by
  rw [onConnected]
  split
  · next shut =>
    refine .quiet ?_ rfl
    rintro ⟨running, -⟩
    cases running.symm.trans shut
  · next running =>
    split
    · next stale =>
      refine .quiet ?_ rfl
      rintro ⟨-, fresh⟩
      cases fresh.symm.trans stale
    · next fresh =>
      refine .opened (Bool.eq_false_iff.mpr running) (Bool.eq_false_iff.mpr fresh) ?_
      cases guest : l.state.isGuest with
      | true =>
          rw [state_opened_of_guest guest]
          rfl
      | false =>
          rw [state_opened_of_not_guest guest]
          rfl

theorem shift_closed (s : SessionId) (reason : CloseReason) (l : Link (Recorded τ))
    (known : l.state.isGuest = true → l.state.peer.isSome = true) :
    l.Shift (.event (.closed s reason)) ((l.hear (.closed s reason)).onClosed s reason).2 := by
  cases guest : l.state.isGuest with
  | false =>
      rw [onClosed_of_not_guest (by exact guest)]
      refine .settled guest ?_
      dsimp only
      rw [state_report]
      change (LinkState.settleHost { l.state with active := l.state.active.erase s }).standing = _
      rw [LinkState.settleHost]
      split <;> rfl
  | true =>
      simp only [onClosed]
      rw [if_pos (by exact guest)]
      split
      · next current =>
        split
        · next own =>
          refine .released .closed guest current (by simp) ?_
          dsimp only
          rw [own, ← release, state_release]
          rfl
        · next other =>
          rw [Bool.not_eq_true] at other
          rw [other, ← release]
          have state := state_release s reason false (l.hear (.closed s reason))
          obtain ⟨phase, lost, standing⟩ := standing_reconnect reason
            ((l.hear (.closed s reason)).release s reason false) (by rw [state]; exact known guest)
            (by rw [state]; simp)
          refine .released phase guest current lost (standing.trans ?_)
          rw [state]
          rfl
      · next other => exact .overlooked guest (Bool.eq_false_iff.mpr other) rfl

theorem shift_perform (a : BusyLink.Act) (l : Link (Recorded τ)) (roles : l.Roles)
    (due : ∀ w, a = .resume w → l.state.isGuest = true) : l.Shift a (l.perform a).2 := by
  cases a with
  | host => exact shift_start .host l
  | connect peer => exact shift_start (.connect peer) l
  | event e =>
      cases e with
      | incoming s peer port =>
          refine .quiet id ?_
          rw [perform, handle, onIncoming]
          split <;> rfl
      | connected s peer => exact shift_connected s peer l
      | message s data =>
          refine .quiet id ?_
          rw [perform, handle, onMessage]
          split <;> rfl
      | closed s reason => exact shift_closed s reason l roles.peer
  | resume w =>
      have standing := standing_of_tried (resume_tried w l)
      rcases resume_persists w l (roles.peer (due w rfl)) with ⟨quits, closed⟩ | ⟨going, same⟩
      · exact .resumed quits (by rw [perform, standing, closed])
      · exact .waits going (by rw [perform, standing, same]; rfl)
  | send s data =>
      obtain ⟨quality, c, extra, same, -⟩ := idles_send s data l
      exact .quiet id (by rw [perform, same]; rfl)
  | sample =>
      obtain ⟨quality, c, extra, same, -⟩ := idles_samplePing l
      exact .quiet id (by rw [perform, same]; rfl)
  | disconnect =>
      refine .disconnected ?_
      rw [perform, (disconnect_eq l).2]
      rfl

variable {a : BusyLink.Act}

omit [Channel τ] in
theorem Shift.sound (shift : l.Shift a l') (h : l.state.standing.Sound) : l'.state.standing.Sound := by
  obtain ⟨carried, guest, inhabited⟩ := h
  cases shift with
  | quiet unheeded same | waits going same => exact same ▸ ⟨carried, guest, inhabited⟩
  | claimed c admits standing =>
      rw [standing]
      refine ⟨fun p primary => ?_, by simp, by simp⟩
      obtain ⟨role, there⟩ := carried p primary
      rcases admits.2 with free | same
      · cases free.symm.trans role
      · exact ⟨same.symm.trans role, there⟩
  | resumed gaveUp standing =>
      rw [standing]
      exact ⟨carried, by simp, by simp⟩
  | @opened s peer _ running fresh standing =>
      rw [standing]
      have stays (p : SessionId) (there : l.state.active.contains p = true) :
          (l.state.active.insert s peer).contains p = true := by
        rw [Table.contains_insert, there, ite_self]
      have new : (l.state.active.insert s peer).contains s = true := by
        rw [Table.contains_insert, if_pos rfl]
      cases role : l.state.isGuest with
      | true =>
          refine ⟨?_, fun _ _ => ⟨s, rfl⟩, fun _ => ⟨s, new⟩⟩
          rintro _ ⟨⟩
          exact ⟨of_decide_eq_true role, new⟩
      | false =>
          refine ⟨fun p primary => ?_, ?_, fun _ => ⟨s, new⟩⟩
          · obtain ⟨taken, there⟩ := carried p primary
            exact ⟨taken, stays p there⟩
          · exact fun taken => absurd taken (of_decide_eq_false role)
  | @overlooked s reason _ role other standing =>
      rw [standing]
      have apart (p : SessionId) (primary : l.state.primary = some p) : p ≠ s := by
        rintro rfl
        simp [LinkState.isCurrent, primary] at other
      have stays (p : SessionId) (primary : l.state.primary = some p) :
          (l.state.active.erase s).contains p = true := by
        rw [Table.contains_erase, if_neg (apart p primary)]
        exact (carried p primary).2
      refine ⟨fun p primary => ⟨of_decide_eq_true role, stays p primary⟩, guest, fun phase => ?_⟩
      obtain ⟨p, primary⟩ := guest (of_decide_eq_true role) phase
      exact ⟨p, stays p primary⟩
  | released phase role current lost standing =>
      rw [standing]
      exact ⟨by simp, fun _ connected => absurd connected lost, fun connected => absurd connected lost⟩
  | @settled s reason _ host standing =>
      rw [standing]
      have notGuest : l.state.role ≠ some .guest := of_decide_eq_false host
      refine ⟨fun p primary => absurd (carried p primary).1 notGuest,
        fun taken => absurd taken notGuest, fun connected => ?_⟩
      apply Table.isEmpty_eq_false_iff.mp
      apply Bool.eq_false_iff.mpr
      intro empty
      replace connected : (if (l.state.active.erase s).isEmpty then _ else _) = Phase.connected := connected
      rw [if_pos empty] at connected
      split at connected
      · cases connected
      · contradiction
  | disconnected standing =>
      rw [standing]
      exact ⟨by simp, by simp, by simp⟩

/-! ## Sessions in the record -/

omit [Channel τ] in
theorem Tried.no_turns {r : Handling × Link (Recorded τ)} (h : l.Tried r) :
    ∃ extra, r.2.record = l.record ++ extra ∧ ∀ s, ∀ x ∈ extra, x.turns s = false := by
  obtain ⟨extra, noted, dials⟩ := h.record_eq
  refine ⟨extra, noted, fun s x mem => ?_⟩
  rcases dials x mem with dial | ⟨s', rfl⟩
  · cases x <;> first | rfl | cases dial
  · rfl

theorem Effect.told_of_turns {r : Handling × Link (Recorded τ)} (h : l.Effect a r) :
    ∃ extra, r.2.record = l.record ++ extra ∧ ∀ s, ∀ x ∈ extra, x.turns s = true → x ∈ a.told := by
  cases h with
  | idle same =>
      obtain ⟨quality, c, extra, rfl, noted, idle⟩ := same
      refine ⟨extra, noted, fun s x mem turns => ?_⟩
      have idle := idle x mem
      cases x with
      | asked | gave => cases turns
      | told e => cases e <;> first | cases turns | cases idle
  | message there => exact ⟨_, rfl, by simp [Signal.turns]⟩
  | accept c hosts noted => exact ⟨_, noted, by simp [Signal.turns]⟩
  | host listening c running role noted => exact ⟨_, noted, by simp [Signal.turns]⟩
  | refuse detail why => exact ⟨_, List.append_assoc .., by simp [Signal.turns, BusyLink.Act.told]⟩
  | opened running fresh => exact ⟨_, rfl, by simp [BusyLink.Act.told]⟩
  | overlook guest other => exact ⟨_, rfl, by simp [BusyLink.Act.told]⟩
  | stop guest current own => exact ⟨_, record_report .., by simp [BusyLink.Act.told]⟩
  | settle host => exact ⟨_, record_report .., by simp [BusyLink.Act.told]⟩
  | connect running role tried | resume tried =>
      obtain ⟨extra, noted, quiet⟩ := tried.no_turns
      exact ⟨extra, noted, fun s x mem turns => by rw [quiet s x mem] at turns; cases turns⟩
  | @lose s reason _ guest current other running tried =>
      obtain ⟨extra, noted, quiet⟩ := tried.no_turns
      rw [release, record_report, record_update, record_update, record_hear, List.append_assoc] at noted
      refine ⟨_, noted, fun s' x mem turns => ?_⟩
      rcases List.mem_append.mp mem with told | dialed
      · exact told
      · rw [quiet s' x dialed] at turns
        cases turns
  | disconnect =>
      refine ⟨_, by rw [record_disconnect, List.append_assoc], fun s x mem turns => ?_⟩
      rcases List.mem_append.mp mem with closes | listener
      · obtain ⟨s', -, rfl⟩ := List.mem_map.mp closes
        cases turns
      · split at listener <;> simp at listener
        subst listener
        cases turns

end Link

namespace BusyLink

variable {τ : Type} [Channel τ] {x : BusyLink τ} {a : Act}

theorem Roled.shift (h : x.Roled) (a : Act) :
    (a.isDue x.waiting = false ∧ x.step a = x) ∨ x.link.Shift a (x.step a).link := by
  rw [BusyLink.step]
  split
  · next due => exact .inr (Link.shift_perform a x.link h.roles fun w same => (h.due due w same).1)
  · next early => exact .inl ⟨Bool.eq_false_iff.mpr early, rfl⟩

/-- The role and the sessions of a link are in order, whatever the channel does. -/
structure Steady (x : BusyLink τ) : Prop where
  roled : x.Roled
  sound : x.link.state.standing.Sound

omit [Channel τ] in
theorem steady_start (settings : LinkSettings) (channel : τ) : (start settings channel).Steady :=
  ⟨roled_start settings channel, nofun, nofun, nofun⟩

theorem Steady.step (h : x.Steady) (a : Act) : (x.step a).Steady := by
  refine ⟨h.roled.step a, ?_⟩
  rcases h.roled.shift a with ⟨-, same⟩ | shift
  · rw [same]
    exact h.sound
  · exact shift.sound h.sound

theorem steady_run (settings : LinkSettings) (channel : τ) (acts : List Act) :
    ((start settings channel).run acts).Steady :=
  run_induction (steady_start settings channel) (fun _ a h => h.step a) acts

theorem going_step {s : SessionId} (going : ¬ HasClosed s x.link.record)
    (other : ∀ reason, a ≠ .event (.closed s reason)) : ¬ HasClosed s (x.step a).link.record := by
  rcases step_cases x a with ⟨-, same⟩ | ⟨-, r, effect, stepped⟩
  · rwa [same]
  · obtain ⟨extra, noted, told⟩ := effect.told_of_turns
    rw [stepped, noted]
    rintro ⟨reason, mem⟩
    rcases List.mem_append.mp mem with old | new
    · exact going ⟨reason, old⟩
    · have mem := told s _ new (by simp [Signal.turns])
      cases a with
      | event e =>
          obtain rfl : .closed s reason = e := by simpa [Act.told] using mem
          exact other reason rfl
      | host | connect | resume | send | sample | disconnect => cases mem

def AllGoing (x : BusyLink τ) : Prop :=
  ∀ s, x.link.state.active.contains s = true → Carrying s x.link.record

omit [Channel τ] in
theorem AllGoing.given (going : x.AllGoing) (roles : x.link.Roles) (lawful : Lawful x.link.record)
    (notHost : x.link.state.isHost = false) {s : SessionId}
    (there : x.link.state.active.contains s = true) :
    x.link.state.isGuest = true ∧ .gave s ∈ x.link.record := by
  rcases lawful.begun (going s there).connected with given | accepted
  · exact ⟨roles.given s given, given⟩
  · cases notHost.symm.trans (roles.accepts s accepted)

omit [Channel τ] in
theorem Lone.held_of_open (h : x.Lone) (going : x.AllGoing) (roles : x.link.Roles)
    (lawful : Lawful x.link.record) (notHost : x.link.state.isHost = false) {s : SessionId}
    (there : x.link.state.active.contains s = true) : x.link.state.held = some s :=
  h.held_of_given ⟨(going.given roles lawful notHost there).2, (going s there).going⟩

theorem AllGoing.step (h : x.AllGoing) (roled : x.Roled) (a : Act)
    (lawful : Lawful (x.step a).link.record) : (x.step a).AllGoing := by
  intro s there
  change (x.step a).link.state.standing.active.contains s = true at there
  have stays (before : x.link.state.active.contains s = true)
      (other : ∀ reason, a ≠ .event (.closed s reason)) : Carrying s (x.step a).link.record := by
    obtain ⟨more, grown⟩ := record_step x a
    exact ⟨grown ▸ (h s before).connected.append more, going_step (h s before).going other⟩
  have erased {s' : SessionId} {reason : CloseReason} (ends : a = .event (.closed s' reason))
      (there : (x.link.state.active.erase s').contains s = true) : Carrying s (x.step a).link.record := by
    rw [Table.contains_erase] at there
    split at there
    · cases there
    · next other =>
      refine stays there ?_
      rintro reason' rfl
      cases ends
      exact other rfl
  rcases roled.shift a with ⟨-, same⟩ | shift
  · rw [same] at there ⊢
    exact h s there
  · cases shift with
    | quiet unheeded same =>
        rw [same] at there
        refine stays there ?_
        rintro reason rfl
        exact unheeded trivial
    | waits going same =>
        rw [same] at there
        exact stays there (by simp)
    | resumed gaveUp standing =>
        rw [standing] at there
        exact stays there (by simp)
    | claimed c admits standing =>
        rw [standing] at there
        exact stays there (by cases c <;> simp [Start.act])
    | @opened s' peer _ running fresh standing =>
        rw [standing, Table.contains_insert] at there
        split at there
        · next same =>
          subst same
          have told := record_event x (.connected s peer)
          exact ⟨⟨peer, told.subset (by simp)⟩,
            going_step (Link.allowed_perform lawful).2.2 (by simp)⟩
        · exact stays there (by simp)
    | overlooked guest other standing | settled host standing =>
        rw [standing] at there
        exact erased rfl there
    | released phase guest current lost standing =>
        rw [standing] at there
        exact erased rfl there
    | disconnected standing =>
        rw [standing] at there
        cases there

theorem open_run {settings : LinkSettings} {channel : τ} {acts : List Act}
    (lawful : Lawful ((start settings channel).run acts).link.record) :
    ((start settings channel).run acts).AllGoing := by
  refine (run_lawful (P := fun x => x.Steady ∧ x.AllGoing) ⟨steady_start settings channel, nofun⟩ ?_
    lawful).2
  exact fun _ a h lawful => ⟨h.1.step a, h.2.step h.1.roled a lawful⟩

/-! ## All moments of a run -/

theorem prefix_of_cut {acts before after : List Act} {a : Act} (cut : acts = before ++ a :: after) :
    before <+: acts ∧ before ++ [a] <+: acts :=
  ⟨⟨a :: after, cut.symm⟩, ⟨after, by rw [cut, List.append_assoc]; rfl⟩⟩

theorem record_of_earlier {acts before : List Act} (earlier : before <+: acts) :
    (x.run before).link.record <+: (x.run acts).link.record := by
  obtain ⟨more, rfl⟩ := earlier
  rw [run_append]
  exact record_run _ more

/-- What is lost by certain acts only holds at every moment if and only if there is no such act. -/
theorem always_iff {P : BusyLink τ → Prop} {loses : BusyLink τ → Act → Prop} {acts : List Act}
    (first : P x) (step : ∀ before a, before ++ [a] <+: acts → P (x.run before) →
      (P ((x.run before).step a) ↔ ¬ loses (x.run before) a)) :
    (∀ before, before <+: acts → P (x.run before)) ↔
      ∀ before a after, acts = before ++ a :: after → ¬ loses (x.run before) a := by
  constructor
  · intro always before a after cut
    obtain ⟨here, next⟩ := prefix_of_cut cut
    have after := always _ next
    rw [run_append] at after
    exact (step before a next (always before here)).mp after
  · intro never before here
    induction before using List.reverseRecOn with
    | nil => exact first
    | append_singleton before a ih =>
        obtain ⟨after, cut⟩ := here
        have holds := ih ⟨[a] ++ after, by rw [← cut, List.append_assoc]⟩
        rw [run_append]
        apply (step before a ⟨after, cut⟩ holds).mpr
        exact never before a after (by rw [← cut, List.append_assoc]; rfl)

end BusyLink
end StreamTunnel
