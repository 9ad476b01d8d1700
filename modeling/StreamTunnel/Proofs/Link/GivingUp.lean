import StreamTunnel.Proofs.Link.Host
import StreamTunnel.Proofs.Link.OneSession
import StreamTunnel.Proofs.Link.Rounds

namespace StreamTunnel
open LinkEvent

namespace Link

variable {τ : Type} {l l' : Link (Recorded τ)} {r : Handling × Link (Recorded τ)} {a : BusyLink.Act}

/-- A guest takes up its link again: it calls, reports that it tries again or gives up, or counts a
try. -/
def Stirs (l l' : Link (Recorded τ)) : Prop :=
  l'.record.filter Signal.isDial ≠ l.record.filter Signal.isDial ∨
    l'.events.filter (!·.isOfHost) ≠ l.events.filter (!·.isOfHost) ∨
    l.state.retries.attempt < l'.state.retries.attempt

def Quits (l l' : Link (Recorded τ)) : Prop :=
  l'.events.filter isDisconnected ≠ l.events.filter isDisconnected

def GivesUp (a : BusyLink.Act) (l l' : Link (Recorded τ)) : Prop :=
  l.Quits l' ∨
    ∃ s reason, a = .event (.closed s reason) ∧ reason.isSelfInitiated = true ∧
      l.state.isGuest = true ∧ l.state.isCurrent s = true

theorem not_stirs {calls : List Signal} {reports : List LinkEvent}
    (noted : l'.record = l.record ++ calls) (quiet : ∀ x ∈ calls, x.isDial = false)
    (events : l'.events = l.events ++ reports) (host : ∀ e ∈ reports, e.isOfHost = true)
    (retries : l'.state.retries = l.state.retries) : ¬ l.Stirs l' := by
  rintro (dialed | reported | tried)
  · have none : calls.filter Signal.isDial = [] := by simpa using quiet
    exact dialed (by rw [noted, List.filter_append, none, List.append_nil])
  · have none : reports.filter (!·.isOfHost) = [] := by simpa using host
    exact reported (by rw [events, List.filter_append, none, List.append_nil])
  · rw [retries] at tried
    exact Nat.lt_irrefl _ tried

theorem Idles.not_stirs (h : l.Idles l') : ¬ l.Stirs l' := by
  obtain ⟨quality, c, extra, rfl, noted, idle⟩ := h
  refine Link.not_stirs noted ?_ (List.append_nil _).symm (by simp) rfl
  intro x mem
  exact Signal.isDial_of_isPlain (Signal.isPlain_of_isIdle (idle x mem))

theorem Answers.not_stirs (h : l.Answers a r) : ¬ l.Stirs r.2 := by
  obtain ⟨quality, c, rfl, noted⟩ := h
  refine Link.not_stirs noted ?_ (List.append_nil _).symm (by simp) rfl
  cases a with
  | event e => cases e <;> simp [BusyLink.Act.answers, Signal.isDial]
  | host | connect | resume | send | sample | disconnect => simp [BusyLink.Act.answers]

theorem disconnect_not_stirs [Channel τ] (l : Link (Recorded τ)) : ¬ l.Stirs l.disconnect := by
  obtain ⟨events, state⟩ := disconnect_eq l
  obtain ⟨extra, noted, plain⟩ := plain_disconnect l
  refine not_stirs noted ?_ events (List.forall_mem_map.mpr fun _ _ => rfl) (by rw [state])
  exact fun x mem => Signal.isDial_of_isPlain (plain x mem)

theorem not_quits {reports : List LinkEvent} (events : l'.events = l.events ++ reports)
    (going : ∀ e ∈ reports, e.isDisconnected = false) : ¬ l.Quits l' := by
  have none : reports.filter isDisconnected = [] := by simpa using going
  rw [Quits, events, List.filter_append, none, List.append_nil]
  exact not_not_intro rfl

theorem not_quits_report (same : l'.events = l.events) (was : Bool) (s : SessionId)
    (reason : CloseReason) : ¬ l.Quits (l'.report was s reason) := by
  apply not_quits (same ▸ events_report was s reason l')
  intro e mem
  split at mem
  · cases List.mem_singleton.mp mem
    rfl
  · cases mem

theorem Quits.of_not {l'' : Link (Recorded τ)} (h : l.Quits l'') (going : ¬ l.Quits l') :
    l'.Quits l'' := by
  intro same
  exact h (same.trans (not_not.mp going))

theorem Retrying.not_quits (h : l.Retrying l') : ¬ l.Quits l' := by
  obtain ⟨retries, c, reports, calls, rfl, -, tries, -⟩ := h
  apply Link.not_quits rfl
  intro e mem
  have retry := tries e mem
  cases e <;> first | rfl | cases retry

theorem Tried.of_quits (h : l.Tried r) (free : l.state.held = none) (quits : l.Quits r.2) :
    r.2.state.held = none ∧ r.1 = .done := by
  cases h with
  | given s c h | stopped handling phase h => exact absurd quits h.not_quits
  | gaveUp reason h =>
      obtain ⟨retries, state⟩ := h.state_eq
      refine ⟨?_, rfl⟩
      dsimp only
      rw [emit, update, state]
      exact free

theorem filter_ne_of_grows {α : Type} {p : α → Bool} {x : α} {l l' : List α} (holds : p x = true)
    (grows : l ++ [x] <+: l') : l'.filter p ≠ l.filter p := by
  intro same
  have length := (grows.filter p).length_le
  simp only [same, List.filter_append, List.length_append, List.filter_cons_of_pos holds,
    List.filter_nil, List.length_singleton] at length
  exact absurd length (Nat.not_succ_le_self _)

theorem Stirs.dialed {x : Signal} (dial : x.isDial = true) (noted : l.record ++ [x] <+: l'.record) :
    l.Stirs l' :=
  .inl (filter_ne_of_grows dial noted)

theorem Stirs.reported {e : LinkEvent} (report : e.isOfHost = false)
    (events : l.events ++ [e] <+: l'.events) : l.Stirs l' :=
  .inr (.inl (filter_ne_of_grows (by simp [report]) events))

theorem Stirs.of_same {l'' : Link (Recorded τ)} (h : l'.Stirs l'')
    (record : l'.record.filter Signal.isDial = l.record.filter Signal.isDial)
    (events : l'.events.filter (!·.isOfHost) = l.events.filter (!·.isOfHost))
    (retries : l'.state.retries = l.state.retries) : l.Stirs l'' := by
  rwa [Stirs, record, events, retries] at h

variable [Channel τ]

theorem stirs_resume (w : Waiting) (l : Link (Recorded τ)) : l.Stirs (l.resume w).2 := by
  apply Stirs.dialed
    (x := .asked (.connect w.peer w.attempt.virtualPort l.state.settings.connectTimeout)) rfl
  rw [resume]
  rcases dial_cases w.peer w.attempt.virtualPort l with ⟨s, c, dialed, noted⟩ | ⟨e, c, dialed, noted⟩
  · rw [dialed]
    exact ⟨[.gave s], by rw [List.append_assoc]; exact noted.symm⟩
  · rw [dialed]
    exact noted ▸ record_reconnectWith _ _ { l with channel := c }

theorem reconnectWith_stirs (fuel : Nat) (reason : CloseReason) (l : Link (Recorded τ))
    (known : l.state.peer.isSome = true) : l.Stirs (l.reconnectWith (fuel + 1) reason).2 := by
  obtain ⟨peer, known⟩ := Option.isSome_iff_exists.mp known
  rw [reconnectWith]
  simp only [known]
  split
  · exact .reported (e := .disconnected reason) rfl List.prefix_rfl
  · next e retries failed =>
    refine .inr (.inr ?_)
    change l.state.retries.attempt < retries.attempt
    rw [Retries.attempt_next_of_fault failed]
    exact Nat.lt_succ_self _
  · next a retries _ =>
    apply Stirs.reported (e := .reconnecting a.number a.virtualPort) rfl
    split
    · rcases dial_tried peer a.virtualPort ((l.update (fun st => { st with retries })).emit
        (.reconnecting a.number a.virtualPort)) with ⟨s, l', dialed, given⟩ | ⟨e, l', dialed, failed⟩
      · rw [dialed]
        exact given.events_grow
      · rw [dialed]
        exact failed.events_grow.trans (reconnectWith_tried _ _ _).events_grow
    · exact List.prefix_rfl

theorem stirs_closed {s : SessionId} (guest : l.state.isGuest = true)
    (current : l.state.isCurrent s = true) (running : l.state.isShutDown = false)
    (known : l.state.peer.isSome = true) :
    l.Stirs ((l.hear (.closed s .byPeer)).onClosed s .byPeer).2 := by
  rw [onClosed_lost (by exact guest) (by exact current) rfl (by exact running), reconnect]
  have released : ((l.hear (.closed s .byPeer)).release s .byPeer false).state.retries =
      l.state.retries := by
    rw [state_release]
    rfl
  refine (reconnectWith_stirs _ .byPeer _ (by rw [state_release]; exact known)).of_same ?_ ?_ released
  · rw [release, record_report, record_update, record_update, record_hear, List.filter_append]
    exact List.append_nil _
  · rw [events_release, List.filter_append]
    split <;> exact List.append_nil _

end Link

namespace BusyLink

variable {τ : Type} {x : BusyLink τ} {a : Act}

/-- Nothing is left that could take the link up again. -/
structure Spent (x : BusyLink τ) : Prop where
  guest : x.link.state.isGuest = true
  waiting : x.waiting = []
  accepts : ∀ s, .asked (.accept s) ∉ x.link.record
  ended : ∀ s, .gave s ∈ x.link.record → HasClosed s x.link.record

theorem Spent.idles (h : x.Spent) {l : Link (Recorded τ)} (same : x.link.Idles l) :
    Spent ⟨l, []⟩ := by
  obtain ⟨quality, c, extra, rfl, noted, idle⟩ := same
  refine ⟨h.guest, rfl, fun s mem => ?_, fun s mem => ?_⟩ <;> rw [Link.record, noted] at *
  · rcases List.mem_append.mp mem with old | new
    · exact h.accepts s old
    · cases idle _ new
  · rcases List.mem_append.mp mem with old | new
    · exact (h.ended s old).append extra
    · cases idle _ new

theorem Tracked.exists_current (h : x.Tracked) (lawful : Lawful x.link.record)
    (guest : x.link.state.isGuest = true) {s : SessionId} (given : .gave s ∈ x.link.record)
    (going : ¬ HasClosed s x.link.record) : ∃ t, x.link.state.isCurrent t = true ∧
      .gave t ∈ x.link.record ∧ ¬ HasClosed t x.link.record := by
  cases waits : x.link.state.pending with
  | some t =>
      have awaited := (h.link.awaited t waits).2
      exact ⟨t, by simp [LinkState.isCurrent, waits], awaited.given, awaited.going⟩
  | none =>
      cases carries : x.link.state.primary with
      | some t =>
          have carrying := (h.link.carrying t carries).2
          refine ⟨t, by simp [LinkState.isCurrent, carries], ?_, carrying.going⟩
          apply (lawful.begun carrying.connected).resolve_right
          intro accepted
          exact LinkState.not_host_of_guest guest (h.roles.accepts t accepted)
      | none => exact ⟨s, by simp [LinkState.isCurrent, waits, carries], given, going⟩

variable [Channel τ]

/-- Whatever happens from here, the link is not taken up again before the next connect. -/
def Terminal (x : BusyLink τ) : Prop :=
  ∀ later a, (∀ b ∈ later ++ [a], b.isConnect = false) →
    Faithful ((x.run later).link.record ++ a.told) →
    ¬ (x.run later).link.Stirs ((x.run later).step a).link

theorem Spent.step (h : x.Spent) (a : Act) (other : a.isConnect = false)
    (faithful : Faithful (x.link.record ++ a.told)) :
    ¬ x.link.Stirs (x.step a).link ∧ ((x.step a).Over ∨ (x.step a).Spent) := by
  have closed {s : SessionId} (connected : HasConnected s x.link.record) :
      HasClosed s x.link.record := by
    have lawful := faithful.lawful.of_prefix (List.prefix_append ..)
    exact h.ended s ((lawful.begun connected).resolve_right (h.accepts s))
  rcases step_cases x a with ⟨-, same⟩ | ⟨due, r, effect, stepped⟩
  · rw [same]
    exact ⟨Link.Idles.not_stirs (.refl _), .inr h⟩
  · rw [h.waiting] at due stepped
    rw [stepped]
    cases effect with
    | idle same =>
        rw [Act.leaves_nil]
        exact ⟨same.not_stirs, .inr (h.idles same)⟩
    | disconnect => exact ⟨Link.disconnect_not_stirs _, .inl ⟨Link.over_disconnect _, rfl⟩⟩
    | message there =>
        have allowed := faithful.lawful.allowed List.prefix_rfl
        exact absurd (closed allowed.1) allowed.2
    | refuse | opened =>
        have allowed := faithful.lawful.allowed List.prefix_rfl
        exact absurd (h.ended _ (allowed.1.resolve_right (h.accepts _))) allowed.2.2
    | overlook | stop | lose | settle =>
        obtain ⟨given, going⟩ := faithful.closed List.prefix_rfl
        exact absurd (h.ended _ given) going
    | accept c hosts => exact absurd hosts (LinkState.not_host_of_guest h.guest)
    | host listening c running role =>
        have guest := h.guest
        rcases role with role | role <;> simp [LinkState.isGuest, role] at guest
    | connect => cases other
    | resume tried => cases due

theorem terminal_of_over_or_spent (h : x.Over ∨ x.Spent) : x.Terminal := by
  intro later
  induction later generalizing x with
  | nil =>
      intro a quiet faithful
      rcases h with isOver | spent
      · exact (isOver.step a).2.not_stirs
      · exact (spent.step a (by simpa using quiet) faithful).1
  | cons b rest ih =>
      intro a quiet faithful
      rw [List.cons_append, List.forall_mem_cons] at quiet
      refine ih ?_ a quiet.2 faithful
      rcases h with isOver | spent
      · exact .inl (isOver.step b).1
      · refine (spent.step b quiet.1 (faithful.of_prefix ?_)).2
        exact (told_step x b).trans ((record_run _ rest).trans (List.prefix_append ..))

theorem Tracked.spent (h : x.Tracked) (faithful : Faithful x.link.record)
    (guest : x.link.state.isGuest = true) (running : x.link.state.isShutDown = false)
    (terminal : x.Terminal) : x.Spent where
  guest := guest
  accepts s accepted := LinkState.not_host_of_guest guest (h.roles.accepts s accepted)
  waiting := by
    apply List.eq_nil_iff_forall_not_mem.mpr
    intro w waits
    have resumed : x.step (.resume w) = _ := if_pos (decide_eq_true waits)
    have still := terminal [] (.resume w) (by simp [Act.isConnect]) (by simpa [Act.told, run] using faithful)
    rw [run, List.foldl_nil, resumed] at still
    exact still (Link.stirs_resume w x.link)
  ended := by
    intro s given
    apply by_contra
    intro going
    obtain ⟨t, current, given, going⟩ := h.exists_current faithful.lawful guest given going
    have still := terminal [] (.event (.closed t .byPeer)) (by simp [Act.isConnect])
      (faithful.append_closed given going .byPeer)
    exact still (Link.stirs_closed guest current running (h.roles.peer guest))

theorem Lone.given_up (h : x.Lone) (free : x.FreeFor a) (faithful : Faithful (x.step a).link.record)
    (gives : x.link.GivesUp a (x.step a).link) :
    (x.step a).link.state.held = none ∧ (x.step a).waiting = [] := by
  have told := told_step x a
  rcases step_cases x a with ⟨early, same⟩ | ⟨due, r, effect, stepped⟩
  · rw [same] at gives
    rcases gives with quits | ⟨s, reason, rfl, -⟩
    · exact absurd rfl quits
    · cases early
  · rw [stepped] at faithful told gives ⊢
    rcases gives with quits | ⟨s, reason, rfl, own, guest, current⟩
    · cases effect with
      | connect running role tried =>
          obtain ⟨none, vacant⟩ := free rfl
          obtain ⟨held, -⟩ := tried.of_quits vacant quits
          exact ⟨held, by simp [none, Handling.waiter?]⟩
      | @resume w r tried =>
          obtain ⟨vacant, none⟩ := h.resumes due
          obtain ⟨held, through⟩ := tried.of_quits vacant quits
          exact ⟨held, by simp [Act.leaves, none, through, Handling.waiter?]⟩
      | @lose s reason r guest current foreign running tried =>
          have held := h.held_of_given (faithful.closed told)
          obtain ⟨vacant, -⟩ := Link.release_only_holds (held ▸ h.given) reason false
          obtain ⟨held', through⟩ := tried.of_quits vacant
            (quits.of_not (Link.not_quits_report rfl _ _ _))
          exact ⟨held', by simp [h.waiting_of_held held, through, Handling.waiter?]⟩
      | disconnect =>
          refine ⟨?_, rfl⟩
          change x.link.disconnect.state.held = none
          rw [(Link.disconnect_eq x.link).2]
          rfl
      | idle same =>
          obtain ⟨quality, c, extra, rfl, -⟩ := same
          exact absurd rfl quits
      | message => exact absurd quits (Link.not_quits rfl (by simp [isDisconnected]))
      | opened => exact absurd quits (Link.not_quits rfl (by simp [isDisconnected]))
      | accept | host | refuse | overlook => exact absurd rfl quits
      | stop | settle => exact absurd quits (Link.not_quits_report rfl _ _ _)
    · cases effect with
      | idle same =>
          obtain ⟨quality, c, extra, rfl, noted, idle⟩ := same
          have mem : .told (.closed s reason) ∈ extra := by
            have grows : x.link.record ++ _ <+: c.record := told
            rw [noted, List.prefix_append_right_inj] at grows
            exact grows.subset (List.mem_singleton_self _)
          cases idle _ mem
      | overlook _ other =>
          rw [current] at other
          cases other
      | stop =>
          have held := h.held_of_given (faithful.closed told)
          obtain ⟨vacant, -⟩ := Link.release_only_holds (held ▸ h.given) reason true
          exact ⟨vacant, by simp [h.waiting_of_held held, Handling.waiter?]⟩
      | lose _ _ other =>
          rw [own] at other
          cases other
      | settle host =>
          rw [guest] at host
          cases host

/-- A guest has given up for good if and only if it is shut down, or no handler waits and every
session that it was given is over. In particular it has if each connect found it without a session
and without such a handler. -/
theorem giving_up_for_good (settings : LinkSettings) (channel : τ) (acts : List Act) (a : Act) :
    let x := (start settings channel).run acts
    let y := x.step a
    x.link.GivesUp a y.link → y.link.state.isGuest = true → Faithful y.link.record →
      (y.Terminal ↔ y.link.state.isShutDown = true ∨
        y.waiting = [] ∧ ∀ s, .gave s ∈ y.link.record → HasClosed s y.link.record) ∧
      ((start settings channel).ConnectsFree (acts ++ [a]) → y.Terminal) := by
  intro x y gives guest faithful
  have stepped : (start settings channel).run (acts ++ [a]) = y := run_append ..
  have before := faithful.of_prefix (record_step x a)
  have tracked : y.Tracked := (tracked_run before.lawful).step a faithful.lawful
  have spent (waiting : y.waiting = [])
      (ended : ∀ s, .gave s ∈ y.link.record → HasClosed s y.link.record) : y.Spent :=
    ⟨guest, waiting, fun s accepted =>
      LinkState.not_host_of_guest guest (tracked.roles.accepts s accepted), ended⟩
  refine ⟨⟨fun terminal => ?_, ?_⟩, fun free => ?_⟩
  · cases shut : y.link.state.isShutDown with
    | true => exact .inl rfl
    | false =>
        have spent := tracked.spent faithful guest shut terminal
        exact .inr ⟨spent.waiting, spent.ended⟩
  · rintro (shut | ⟨waiting, ended⟩)
    · rw [← stepped] at shut
      exact terminal_of_over_or_spent (.inl (stepped ▸ over_run shut))
    · exact terminal_of_over_or_spent (.inr (spent waiting ended))
  · rcases lone_run free (stepped.symm ▸ faithful) with isOver | lone
    · exact terminal_of_over_or_spent (.inl (stepped ▸ isOver))
    · rw [stepped] at lone
      rcases lone_run free.of_append before with isOver | earlier
      · exact terminal_of_over_or_spent (.inl (isOver.step a).1)
      · obtain ⟨vacant, waiting⟩ := earlier.given_up (free acts a [] rfl) faithful gives
        refine terminal_of_over_or_spent (.inr (spent waiting fun s given => ?_))
        apply (lone.given s given).resolve_right
        intro held
        cases vacant.symm.trans held

/-- With no retries left, a guest that had two connects under way reports for each of them that its
link is gone. -/
theorem giving_up_for_good_two_connects :
    let settings : LinkSettings := { retry := { maxAttempts := 0 } }
    let x := (start settings ({} : Script)).run [.connect "host", .connect "host"]
    let y := x.step (.event (.closed ⟨2⟩ .byPeer))
    x.link.GivesUp (.event (.closed ⟨2⟩ .byPeer)) y.link ∧ y.link.state.isGuest = true ∧
      Faithful y.link.record ∧ ¬ y.Terminal := by
  intro settings x y
  have gives : x.link.GivesUp (.event (.closed ⟨2⟩ .byPeer)) y.link := by
    left
    unfold Link.Quits
    decide +kernel
  have guest : y.link.state.isGuest = true := by decide +kernel
  have faithful : Faithful y.link.record := by decide +kernel
  refine ⟨gives, guest, faithful, fun terminal => ?_⟩
  rcases (giving_up_for_good settings ({} : Script) _ _ gives guest faithful).1.mp terminal with
    shut | ⟨-, ended⟩
  · revert shut
    decide +kernel
  · have closed : HasClosed ⟨1⟩ y.link.record := ended ⟨1⟩ (by decide +kernel)
    revert closed
    decide +kernel

theorem link_gone_twice :
    let settings : LinkSettings := { retry := { maxAttempts := 0 } }
    let x := (start settings ({} : Script)).run [.connect "host", .connect "host",
      .event (.closed ⟨2⟩ .byPeer)]
    let y := x.step (.event (.closed ⟨1⟩ .byPeer))
    Faithful y.link.record ∧ x.link.state.phase = .closed ∧ y.link.state.phase = .closed ∧
      x.link.events = [.disconnected .byPeer] ∧
      y.link.events = [.disconnected .byPeer, .disconnected .byPeer] := by
  decide +kernel

end BusyLink
end StreamTunnel
