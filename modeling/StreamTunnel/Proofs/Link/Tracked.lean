import StreamTunnel.Proofs.Link.Busy

namespace StreamTunnel

variable {s : SessionId} {record extra : List Signal}

def Signal.turns (s : SessionId) : Signal → Bool
  | .told (.connected s' _) | .told (.closed s' _) => s' = s
  | _ => false

/-- A session that was given and of which nothing was heard. -/
structure Awaited (s : SessionId) (record : List Signal) : Prop where
  given : .gave s ∈ record
  new : ¬ HasConnected s record
  going : ¬ HasClosed s record

structure Carrying (s : SessionId) (record : List Signal) : Prop where
  connected : HasConnected s record
  going : ¬ HasClosed s record

theorem not_connected_append (quiet : ∀ x ∈ extra, x.turns s = false) (new : ¬ HasConnected s record) :
    ¬ HasConnected s (record ++ extra) := by
  rintro ⟨peer, mem⟩
  rcases List.mem_append.mp mem with old | mem
  · exact new ⟨peer, old⟩
  · simpa [Signal.turns] using quiet _ mem

theorem not_closed_append (quiet : ∀ x ∈ extra, x.turns s = false) (going : ¬ HasClosed s record) :
    ¬ HasClosed s (record ++ extra) := by
  rintro ⟨reason, mem⟩
  rcases List.mem_append.mp mem with old | mem
  · exact going ⟨reason, old⟩
  · simpa [Signal.turns] using quiet _ mem

theorem Awaited.append (h : Awaited s record) (quiet : ∀ x ∈ extra, x.turns s = false) :
    Awaited s (record ++ extra) where
  given := List.mem_append_left extra h.given
  new := not_connected_append quiet h.new
  going := not_closed_append quiet h.going

theorem Carrying.append (h : Carrying s record) (quiet : ∀ x ∈ extra, x.turns s = false) :
    Carrying s (record ++ extra) where
  connected := h.connected.append extra
  going := not_closed_append quiet h.going

theorem Awaited.of_given (lawful : Lawful (record ++ [.gave s])) : Awaited s (record ++ [.gave s]) := by
  have allowed : Allowed record (.gave s) := lawful.allowed List.prefix_rfl
  have unheard (e : ChannelEvent) (mem : .told e ∈ record) : e.session ≠ s := allowed.2 e mem
  have quiet : ∀ x ∈ [Signal.gave s], x.turns s = false := by simp [Signal.turns]
  refine ⟨by simp, not_connected_append quiet ?_, not_closed_append quiet ?_⟩
  · rintro ⟨peer, mem⟩
    exact unheard _ mem rfl
  · rintro ⟨reason, mem⟩
    exact unheard _ mem rfl

namespace Link

variable {τ : Type} {l l' : Link (Recorded τ)} {r : Handling × Link (Recorded τ)} {a : BusyLink.Act}

def Seeks (l : Link (Recorded τ)) : Prop :=
  l.state.isGuest = true ∧ l.state.isShutDown = false

structure Roles (l : Link (Recorded τ)) : Prop where
  accepts : ∀ s, .asked (.accept s) ∈ l.record → l.state.isHost = true
  given : ∀ s, .gave s ∈ l.record → l.state.isGuest = true
  peer : l.state.isGuest = true → l.state.peer.isSome = true

theorem Roles.keep (h : l.Roles) (role : l'.state.role = l.state.role)
    (peer : l'.state.peer = l.state.peer) (noted : l'.record = l.record ++ extra)
    (accepts : ∀ s, .asked (.accept s) ∈ extra → l.state.isHost = true)
    (given : ∀ s, .gave s ∈ extra → l.state.isGuest = true) : l'.Roles := by
  have host : l'.state.isHost = l.state.isHost := by rw [LinkState.isHost, LinkState.isHost, role]
  have guest : l'.state.isGuest = l.state.isGuest := by rw [LinkState.isGuest, LinkState.isGuest, role]
  refine ⟨?_, ?_, ?_⟩
  · intro s mem
    rw [noted] at mem
    rw [host]
    exact (List.mem_append.mp mem).elim (h.accepts s) (accepts s)
  · intro s mem
    rw [noted] at mem
    rw [guest]
    exact (List.mem_append.mp mem).elim (h.given s) (given s)
  · rw [guest, peer]
    exact h.peer

theorem Tried.roles (h : l.Roles) (guest : l.state.isGuest = true) (tried : l.Tried r) :
    r.2.Roles := by
  obtain ⟨phase, retries, pending, state⟩ := tried.state_eq
  obtain ⟨extra, noted, dials⟩ := tried.record_eq
  refine h.keep (by rw [state]) (by rw [state]) noted ?_ (fun _ _ => guest)
  intro s mem
  rcases dials _ mem with dial | ⟨s', given⟩
  · cases dial
  · cases given

theorem Effect.roles [Channel τ] (h : l.Roles) (effect : l.Effect a r)
    (due : ∀ w, a = .resume w → l.state.isGuest = true) : r.2.Roles := by
  cases effect with
  | idle same =>
      obtain ⟨quality, c, extra, rfl, noted, idle⟩ := same
      refine h.keep rfl rfl noted ?_ ?_ <;>
      · intro s mem
        cases idle _ mem
  | message there => exact h.keep rfl rfl rfl (by simp) (by simp)
  | accept c hosts noted => exact h.keep rfl rfl noted (fun _ _ => hosts) (by simp)
  | host listening c running role noted =>
      refine ⟨fun _ _ => rfl, ?_, by simp [LinkState.isGuest]⟩
      intro s mem
      have old : .gave s ∈ l.record := by
        rw [record, noted] at mem
        simpa using mem
      have guest := h.given s old
      rcases role with role | role <;> simp [LinkState.isGuest, role] at guest
  | @connect peer after running role tried =>
      refine Tried.roles ⟨?_, fun _ _ => rfl, fun _ => rfl⟩ rfl tried
      intro s mem
      have host := h.accepts s mem
      rcases role with role | role <;> simp [LinkState.isHost, role] at host
  | refuse detail why => exact h.keep rfl rfl (List.append_assoc ..) (by simp) (by simp)
  | opened running fresh =>
      cases guest : l.state.isGuest with
      | true =>
          refine h.keep ?_ ?_ rfl (by simp) (by simp) <;> rw [state_opened_of_guest guest]
      | false =>
          refine h.keep ?_ ?_ rfl (by simp) (by simp) <;> rw [state_opened_of_not_guest guest]
  | @overlook s reason guest other => exact h.keep rfl rfl rfl (by simp) (by simp)
  | @stop s reason guest current own =>
      refine h.keep ?_ ?_ (record_report ..) (by simp) (by simp) <;>
      · rw [state_release]
        rfl
  | @lose s reason _ guest current foreign running tried =>
      refine Tried.roles ?_ (by rw [state_release]; exact guest) tried
      refine h.keep ?_ ?_ (record_report ..) (by simp) (by simp) <;>
      · rw [state_release]
        rfl
  | settle host =>
      refine h.keep ?_ ?_ (record_report ..) (by simp) (by simp) <;>
      · rw [state_report, update, LinkState.settleHost]
        split <;> rfl
  | resume tried => exact tried.roles h (due _ rfl)
  | disconnect =>
      obtain ⟨extra, noted, plain⟩ := plain_disconnect l
      refine h.keep ?_ ?_ noted ?_ ?_
      · rw [(disconnect_eq l).2]
      · rw [(disconnect_eq l).2]
      · intro s mem
        cases plain _ mem
      · intro s mem
        cases plain _ mem

structure Tracked (l : Link (Recorded τ)) : Prop where
  awaited : ∀ s, l.state.pending = some s → l.Seeks ∧ Awaited s l.record
  carrying : ∀ s, l.state.primary = some s → l.Seeks ∧ Carrying s l.record

theorem Tracked.of_none (pending : l.state.pending = none) (primary : l.state.primary = none) :
    l.Tracked :=
  ⟨by simp [pending], by simp [primary]⟩

theorem Tracked.none_of_not (h : l.Tracked) (not : ¬ l.Seeks) :
    l.state.pending = none ∧ l.state.primary = none := by
  constructor
  · exact Option.eq_none_iff_forall_ne_some.mpr fun s same => not (h.awaited s same).1
  · exact Option.eq_none_iff_forall_ne_some.mpr fun s same => not (h.carrying s same).1

theorem Tracked.keep (h : l.Tracked) (seeks : l.Seeks → l'.Seeks)
    (pending : l'.state.pending = l.state.pending) (primary : l'.state.primary = l.state.primary)
    (noted : l'.record = l.record ++ extra)
    (quiet : ∀ s, l.state.pending = some s ∨ l.state.primary = some s → ∀ x ∈ extra, x.turns s = false) :
    l'.Tracked := by
  constructor
  · intro s same
    rw [pending] at same
    obtain ⟨seeking, awaited⟩ := h.awaited s same
    rw [noted]
    exact ⟨seeks seeking, awaited.append (quiet s (.inl same))⟩
  · intro s same
    rw [primary] at same
    obtain ⟨seeking, carrying⟩ := h.carrying s same
    rw [noted]
    exact ⟨seeks seeking, carrying.append (quiet s (.inr same))⟩

theorem Retrying.tracked (h : l.Tracked) (retrying : l.Retrying l') : l'.Tracked := by
  obtain ⟨retries, c, reports, calls, rfl, noted, -, dials⟩ := retrying
  refine h.keep id rfl rfl noted ?_
  intro s _ x mem
  have dial := dials x mem
  cases x <;> first | rfl | cases dial

theorem Tried.tracked (h : l.Tracked) (seeks : l.Seeks) (tried : l.Tried r)
    (lawful : Lawful r.2.record) : r.2.Tracked := by
  cases tried with
  | gaveUp reason retrying | stopped handling phase retrying =>
      exact (retrying.tracked h).keep id rfl rfl (List.append_nil _).symm (by simp)
  | @given l' s c retrying noted =>
      have before := retrying.tracked h
      obtain ⟨retries, state⟩ := retrying.state_eq
      have still : ({ l' with channel := c }.await s).Seeks := by
        rw [Seeks, await, update, state]
        exact seeks
      have given : ({ l' with channel := c }.await s).record = l'.record ++ [.gave s] := noted
      rw [given] at lawful
      constructor
      · rintro _ ⟨⟩
        rw [given]
        exact ⟨still, .of_given lawful⟩
      · intro s' same
        rw [given]
        exact ⟨still, (before.carrying s' same).2.append (by simp [Signal.turns])⟩

theorem Tracked.opened {peer : Identity} (h : l.Tracked) (running : l.state.isShutDown = false)
    (allowed : Allowed l.record (.told (.connected s peer))) :
    (((l.hear (.connected s peer)).update (·.opened s peer)).emit (.opened s peer)).Tracked := by
  cases guest : l.state.isGuest with
  | true =>
      constructor
      · simp [state_opened_of_guest guest]
      · intro s' same
        obtain rfl : s = s' := by simpa [state_opened_of_guest guest] using same
        refine ⟨?_, ⟨peer, by simp⟩, ?_⟩
        · rw [Seeks, state_opened_of_guest guest]
          exact ⟨guest, running⟩
        · rintro ⟨reason, mem⟩
          exact allowed.2.2 ⟨reason, by simpa using mem⟩
  | false =>
      obtain ⟨pending, primary⟩ := h.none_of_not (fun seeks => by simp [seeks.1] at guest)
      apply Tracked.of_none <;> rwa [state_opened_of_not_guest guest]

variable [Channel τ]

theorem Tracked.refuse {peer : Identity} (h : l.Tracked) (detail : String)
    (why : l.state.isShutDown = true ∨ l.state.isStale s = true)
    (allowed : Allowed l.record (.told (.connected s peer))) :
    ((l.hear (.connected s peer)).closeSession s detail).Tracked := by
  refine h.keep id rfl rfl (List.append_assoc ..) ?_
  intro s' which
  have other : s' ≠ s := by
    rcases which with waits | carries
    · have seeks := (h.awaited s' waits).1
      rcases why with shut | stale
      · simp [seeks.2] at shut
      · simpa [LinkState.isStale, seeks.1, waits] using stale
    · rintro rfl
      exact allowed.2.1 (h.carrying s' carries).2.connected
  simp [Signal.turns, other.symm]

theorem Effect.seeks (h : l.Effect a r) (other : a ≠ .disconnect) (seeks : l.Seeks) : r.2.Seeks := by
  obtain ⟨role, shut⟩ := h.keeps
  refine ⟨?_, (shut other).trans seeks.2⟩
  have guest : l.state.role = some .guest := by simpa [LinkState.isGuest] using seeks.1
  simp [LinkState.isGuest, role .guest guest]

theorem Effect.tracked (h : l.Tracked) (effect : l.Effect a r)
    (due : ∀ w, a = .resume w → l.Seeks) (lawful : Lawful r.2.record) : r.2.Tracked := by
  cases effect with
  | idle same =>
      obtain ⟨quality, c, extra, rfl, noted, idle⟩ := same
      refine h.keep id rfl rfl noted ?_
      intro s _ x mem
      have idle := idle x mem
      cases x with
      | asked call => rfl
      | gave s => rfl
      | told e => cases e <;> first | rfl | cases idle
  | message there => exact h.keep id rfl rfl rfl (by simp [Signal.turns])
  | accept c hosts noted => exact h.keep id rfl rfl noted (by simp [Signal.turns])
  | host listening c running role noted =>
      have not : ¬ l.Seeks := by
        rintro ⟨guest, -⟩
        rcases role with role | role <;> simp [LinkState.isGuest, role] at guest
      obtain ⟨pending, primary⟩ := h.none_of_not not
      exact .of_none pending primary
  | @connect peer after running role tried =>
      let claimed : Link (Recorded τ) := { l with state := { l.state with
        role := some .guest, phase := .connecting, peer := some peer } }
      have seeks : claimed.Seeks := ⟨rfl, running⟩
      have tracked : claimed.Tracked :=
        h.keep (fun _ => seeks) rfl rfl (List.append_nil _).symm (by simp)
      exact tried.tracked tracked seeks lawful
  | refuse detail why => exact h.refuse detail why (lawful.allowed (List.prefix_append ..))
  | opened running fresh => exact h.opened running (lawful.allowed List.prefix_rfl)
  | @overlook s reason guest other =>
      have others : l.state.primary ≠ some s ∧ l.state.pending ≠ some s := by
        simp only [LinkState.isCurrent, Bool.or_eq_false_iff, decide_eq_false_iff_not] at other
        exact other.1
      refine h.keep id rfl rfl rfl ?_
      rintro s' (waits | carries)
      · have : s ≠ s' := fun same => others.2 (same ▸ waits)
        simp [Signal.turns, this]
      · have : s ≠ s' := fun same => others.1 (same ▸ carries)
        simp [Signal.turns, this]
  | @stop s reason guest current own =>
      exact .of_none (by rw [state_release]) (by rw [state_release])
  | @lose s reason _ guest current foreign running tried =>
      have none : ((l.hear (.closed s reason)).release s reason false).Tracked :=
        .of_none (by rw [state_release]) (by rw [state_release])
      refine tried.tracked none ?_ lawful
      rw [Seeks, state_release]
      exact ⟨guest, running⟩
  | @settle s reason host =>
      have not : ¬ l.Seeks := fun seeks => by simp [seeks.1] at host
      obtain ⟨pending, primary⟩ := h.none_of_not not
      refine .of_none ?_ ?_
      all_goals
        dsimp only
        rw [state_report, update, LinkState.settleHost]
        split <;> assumption
  | resume tried => exact tried.tracked h (due _ rfl) lawful
  | disconnect =>
      refine .of_none ?_ ?_
      all_goals
        dsimp only
        rw [(disconnect_eq l).2]

theorem Effect.seeks_of_waiter (effect : l.Effect a r) (due : ∀ w, a = .resume w → l.Seeks)
    (waits : r.1.waiter? ≠ none) : r.2.Seeks := by
  have seeks := effect.seeks
  cases effect with
  | lose guest current foreign running tried => exact seeks (by simp) ⟨guest, running⟩
  | resume tried => exact seeks (by simp) (due _ rfl)
  | _ => exact absurd rfl waits

end Link

namespace BusyLink

variable {τ : Type} {x : BusyLink τ} {a : Act}

structure Roled (x : BusyLink τ) : Prop where
  roles : x.link.Roles
  waits : x.waiting ≠ [] → x.link.Seeks

theorem roled_start (settings : LinkSettings) (channel : τ) : (start settings channel).Roled where
  roles :=
    { accepts := fun _ mem => absurd mem List.not_mem_nil
      given := fun _ mem => absurd mem List.not_mem_nil
      peer := fun guest => Bool.noConfusion guest }
  waits := fun waits => absurd rfl waits

theorem Roled.due (h : x.Roled) (due : a.isDue x.waiting = true) :
    ∀ w, a = .resume w → x.link.Seeks := by
  rintro w rfl
  exact h.waits (List.ne_nil_of_mem (by simpa [Act.isDue] using due))

structure Tracked (x : BusyLink τ) : Prop where
  link : x.link.Tracked
  roles : x.link.Roles
  waits : x.waiting ≠ [] → x.link.Seeks

theorem Tracked.roled (h : x.Tracked) : x.Roled :=
  ⟨h.roles, h.waits⟩

theorem tracked_start (settings : LinkSettings) (channel : τ) : (start settings channel).Tracked where
  link := .of_none rfl rfl
  roles := (roled_start settings channel).roles
  waits := (roled_start settings channel).waits

variable [Channel τ]

theorem Roled.step (h : x.Roled) (a : Act) : (x.step a).Roled := by
  rcases step_cases x a with ⟨-, same⟩ | ⟨due, r, effect, stepped⟩
  · rw [same]
    exact h
  · rw [stepped]
    refine ⟨effect.roles h.roles (fun w same => (h.due due w same).1), fun waits => ?_⟩
    obtain ⟨w, mem⟩ := List.exists_mem_of_ne_nil _ waits
    rcases List.mem_append.mp mem with before | now
    · obtain ⟨waited, other⟩ := Act.mem_of_mem_leaves before
      exact effect.seeks other (h.waits (List.ne_nil_of_mem waited))
    · apply effect.seeks_of_waiter (h.due due)
      simpa [Option.eq_none_iff_forall_ne_some] using ⟨w, by simpa using now⟩

theorem roled_run (settings : LinkSettings) (channel : τ) (acts : List Act) :
    ((start settings channel).run acts).Roled :=
  run_induction (roled_start settings channel) (fun _ a h => h.step a) acts

theorem Tracked.step (h : x.Tracked) (a : Act) (lawful : Lawful (x.step a).link.record) :
    (x.step a).Tracked := by
  refine ⟨?_, (h.roled.step a).roles, (h.roled.step a).waits⟩
  rcases step_cases x a with ⟨-, same⟩ | ⟨due, r, effect, stepped⟩
  · rw [same]
    exact h.link
  · rw [stepped] at lawful ⊢
    exact effect.tracked h.link (h.roled.due due) lawful

theorem tracked_run {settings : LinkSettings} {channel : τ} {acts : List Act}
    (lawful : Lawful ((start settings channel).run acts).link.record) :
    ((start settings channel).run acts).Tracked :=
  run_lawful (tracked_start settings channel) (fun _ a h => h.step a) lawful

end BusyLink
end StreamTunnel
