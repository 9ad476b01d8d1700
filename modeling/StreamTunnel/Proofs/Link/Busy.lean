import StreamTunnel.Proofs.Link.Run

/-!
# A link with many handlers

A link on any channel, with the handlers that wait for a backoff: any number of them, since an event
is handled whatever became of those before, also when one of them faulted. Whoever uses the link may
come in between. What an act can do is said once, by `Link.Effect`; a row of retries is one step
there (`Link.Tried`).
-/

namespace StreamTunnel

structure BusyLink (τ : Type) where
  link : Link (Recorded τ)
  waiting : List Waiting := []

inductive BusyLink.Act where
  | host
  | connect (peer : Identity)
  | event (e : ChannelEvent)
  | resume (w : Waiting)
  | send (s : SessionId) (data : Bytes)
  | sample
  | disconnect
deriving DecidableEq

def BusyLink.Act.isConnect : BusyLink.Act → Bool
  | .connect _ => true
  | _ => false

def Handling.waiter? : Handling → Option Waiting
  | .waiting w => some w
  | _ => none

def Signal.isDial : Signal → Bool
  | .asked (.connect ..) => true
  | _ => false

theorem Signal.isDial_of_isPlain {x : Signal} (plain : x.isPlain = true) : x.isDial = false := by
  cases x with
  | asked call => cases call <;> first | rfl | cases plain
  | gave s => rfl
  | told e => rfl

def LinkEvent.isRetry : LinkEvent → Bool
  | .reconnecting .. => true
  | _ => false

namespace Link

variable {τ : Type}

/-! ## Retries -/

def Retrying (l l' : Link (Recorded τ)) : Prop :=
  ∃ retries c reports calls,
    l' = ⟨{ l.state with retries }, c, l.events ++ reports⟩ ∧ c.record = l.record ++ calls ∧
    (∀ e ∈ reports, e.isRetry = true) ∧ ∀ x ∈ calls, x.isDial = true

inductive Tried (l : Link (Recorded τ)) : Handling × Link (Recorded τ) → Prop
  | given {l' : Link (Recorded τ)} (s : SessionId) (c : Recorded τ) (h : l.Retrying l')
      (noted : c.record = l'.record ++ [.gave s]) : Tried l (.done, { l' with channel := c }.await s)
  | gaveUp {l' : Link (Recorded τ)} (reason : CloseReason) (h : l.Retrying l') :
      Tried l (.done, (l'.update (fun st => { st with phase := .closed })).emit (.disconnected reason))
  | stopped {l' : Link (Recorded τ)} (handling : Handling) (phase : Phase) (h : l.Retrying l') :
      Tried l (handling, l'.update (fun st => { st with phase }))

variable {l l' l'' : Link (Recorded τ)} {r : Handling × Link (Recorded τ)}

theorem Retrying.refl (l : Link (Recorded τ)) : l.Retrying l :=
  ⟨l.state.retries, l.channel, [], [], by simp, by simp [record], by simp, by simp⟩

theorem Retrying.trans (first : l.Retrying l') (second : l'.Retrying l'') : l.Retrying l'' := by
  obtain ⟨retries, c, reports, calls, rfl, noted, tries, dials⟩ := first
  obtain ⟨retries', c', reports', calls', rfl, noted', tries', dials'⟩ := second
  refine ⟨retries', c', reports ++ reports', calls ++ calls', ?_, ?_, ?_, ?_⟩
  · simp
  · rw [noted', record, noted, List.append_assoc]
  · exact List.forall_mem_append.mpr ⟨tries, tries'⟩
  · exact List.forall_mem_append.mpr ⟨dials, dials'⟩

theorem retrying_granted (retries : Retries) (n : Nat) (port : UInt32) (l : Link (Recorded τ)) :
    l.Retrying ((l.update (fun st => { st with retries })).emit (.reconnecting n port)) :=
  ⟨retries, l.channel, [.reconnecting n port], [], rfl, by simp [record], by simp [LinkEvent.isRetry],
    by simp⟩

theorem Retrying.state_eq (h : l.Retrying l') : ∃ retries, l'.state = { l.state with retries } := by
  obtain ⟨retries, c, reports, calls, rfl, -⟩ := h
  exact ⟨retries, rfl⟩

theorem Tried.state_eq (h : l.Tried r) :
    ∃ phase retries pending, r.2.state = { l.state with phase, retries, pending } := by
  cases h with
  | given s c h =>
      obtain ⟨retries, state⟩ := h.state_eq
      exact ⟨_, retries, some s, by rw [await, update, state]⟩
  | gaveUp reason h =>
      obtain ⟨retries, state⟩ := h.state_eq
      exact ⟨.closed, retries, _, by rw [emit, update, state]⟩
  | stopped handling phase h =>
      obtain ⟨retries, state⟩ := h.state_eq
      exact ⟨phase, retries, _, by rw [update, state]⟩

theorem Tried.record_eq (h : l.Tried r) :
    ∃ extra, r.2.record = l.record ++ extra ∧ ∀ x ∈ extra, x.isDial = true ∨ ∃ s, x = .gave s := by
  cases h with
  | given s c h noted =>
      obtain ⟨retries, c', reports, calls, rfl, before, -, dials⟩ := h
      refine ⟨calls ++ [.gave s], ?_, ?_⟩
      · rw [await, record_update, record, noted, record, before, List.append_assoc]
      · rw [List.forall_mem_append, List.forall_mem_singleton]
        exact ⟨fun x mem => .inl (dials x mem), .inr ⟨s, rfl⟩⟩
  | gaveUp reason h | stopped handling phase h =>
      obtain ⟨retries, c, reports, calls, rfl, before, -, dials⟩ := h
      exact ⟨calls, before, fun x mem => .inl (dials x mem)⟩

theorem Retrying.events_grow (h : l.Retrying l') : l.events <+: l'.events := by
  obtain ⟨retries, c, reports, calls, rfl, -⟩ := h
  exact List.prefix_append ..

theorem Tried.events_grow (h : l.Tried r) : l.events <+: r.2.events := by
  cases h with
  | given s c h | stopped handling phase h => exact h.events_grow
  | gaveUp reason h => exact h.events_grow.trans (List.prefix_append ..)

theorem Retrying.tried (first : l.Retrying l') (second : l'.Tried r) : l.Tried r := by
  cases second with
  | given s c h noted => exact .given s c (first.trans h) noted
  | gaveUp reason h => exact .gaveUp reason (first.trans h)
  | stopped handling phase h => exact .stopped handling phase (first.trans h)

theorem Retrying.stops (h : l.Retrying l') (handling : Handling) : l.Tried (handling, l') :=
  .stopped handling l'.state.phase h

/-! ## The beginning and the end of a session -/

def release (s : SessionId) (reason : CloseReason) (selfInitiated : Bool) (l : Link (Recorded τ)) :
    Link (Recorded τ) :=
  ((l.update (fun st => { st with active := st.active.erase s })).update
    (·.dropCurrent selfInitiated)).report (l.state.active.contains s) s reason

theorem state_report (was : Bool) (s : SessionId) (reason : CloseReason) (l : Link (Recorded τ)) :
    (l.report was s reason).state = l.state := by
  cases was <;> rfl

theorem events_report (was : Bool) (s : SessionId) (reason : CloseReason) (l : Link (Recorded τ)) :
    (l.report was s reason).events = l.events ++ if was then [.closed s reason] else [] := by
  cases was <;> simp [report, emit]

theorem state_release (s : SessionId) (reason : CloseReason) (selfInitiated : Bool)
    (l : Link (Recorded τ)) : (l.release s reason selfInitiated).state =
      { l.state with
        active := l.state.active.erase s, primary := none, pending := none, quality := none,
        phase := if selfInitiated then .closed else .connecting } :=
  state_report ..

theorem events_release (s : SessionId) (reason : CloseReason) (selfInitiated : Bool)
    (l : Link (Recorded τ)) : (l.release s reason selfInitiated).events =
      l.events ++ if l.state.active.contains s then [.closed s reason] else [] :=
  events_report ..

theorem state_opened_of_guest {s : SessionId} {peer : Identity} (guest : l.state.isGuest = true) :
    (((l.hear (.connected s peer)).update (·.opened s peer)).emit (.opened s peer)).state =
      { l.state with
        pending := none, primary := some s, retries := l.state.retries.reset,
        active := l.state.active.insert s peer, phase := .connected } := by
  change l.state.opened s peer = _
  simp [LinkState.opened, guest]

theorem state_opened_of_not_guest {s : SessionId} {peer : Identity} (host : l.state.isGuest = false) :
    (((l.hear (.connected s peer)).update (·.opened s peer)).emit (.opened s peer)).state =
      { l.state with active := l.state.active.insert s peer, phase := .connected } := by
  change l.state.opened s peer = _
  simp [LinkState.opened, host]

variable [Channel τ]

theorem onClosed_lost {s : SessionId} {reason : CloseReason} (guest : l.state.isGuest = true)
    (current : l.state.isCurrent s = true) (other : reason.isSelfInitiated = false)
    (running : l.state.isShutDown = false) :
    l.onClosed s reason = (l.release s reason false).reconnect reason := by
  have foreign : (reason.isSelfInitiated || l.state.isShutDown) = false := by
    rw [other, running]
    rfl
  simp only [onClosed]
  refine (if_pos guest).trans ((if_pos current).trans ((if_neg (Bool.eq_false_iff.mp foreign)).trans ?_))
  rw [release, ← foreign]
  rfl

/-! ## Dials -/

theorem dial_tried (peer : Identity) (port : UInt32) (l : Link (Recorded τ)) :
    (∃ s l', l.dial peer port = (.ok s, l') ∧ l.Tried (.done, l'.await s)) ∨
      ∃ e l', l.dial peer port = (.error e, l') ∧ l.Retrying l' := by
  rcases dial_cases peer port l with ⟨s, c, dialed, noted⟩ | ⟨e, c, dialed, noted⟩
  · left
    let asked : Recorded τ := ⟨c.channel, l.record ++
      [.asked (.connect peer port l.state.settings.connectTimeout)]⟩
    have dials : l.Retrying { l with channel := asked } :=
      ⟨l.state.retries, asked, [], _, by simp, rfl, by simp, by simp [Signal.isDial]⟩
    have given : c.record = asked.record ++ [.gave s] := by
      rw [noted]
      simp [asked]
    exact ⟨s, _, dialed, @Tried.given _ _ { l with channel := asked } s c dials given⟩
  · right
    exact ⟨e, _, dialed, l.state.retries, c, [], _, by simp, noted, by simp, by simp [Signal.isDial]⟩

theorem reconnectWith_tried (fuel : Nat) (reason : CloseReason) (l : Link (Recorded τ)) :
    l.Tried (l.reconnectWith fuel reason) := by
  induction fuel generalizing reason l with
  | zero => exact (Retrying.refl l).stops .done
  | succ fuel ih =>
      rw [reconnectWith]
      split
      · exact .stopped .done .closed (.refl l)
      · next peer _ =>
        split
        · exact .gaveUp reason (.refl l)
        · next e retries _ =>
          have counted : l.Retrying (l.update (fun st => { st with retries })) :=
            ⟨retries, l.channel, [], [], by simp [update], by simp [record], by simp, by simp⟩
          exact counted.stops (.fault e)
        · next a retries _ =>
          have granted := retrying_granted retries a.number a.virtualPort l
          dsimp only
          split
          · apply granted.tried
            rcases dial_tried peer a.virtualPort ((l.update (fun st => { st with retries })).emit
              (.reconnecting a.number a.virtualPort)) with ⟨s, l', dialed, given⟩ | ⟨e, l', dialed, failed⟩
            · rw [dialed]
              exact given
            · rw [dialed]
              exact failed.tried (ih _ _)
          · exact granted.stops (.waiting ⟨peer, a⟩)

theorem resume_tried (w : Waiting) (l : Link (Recorded τ)) : l.Tried (l.resume w) := by
  rw [resume]
  rcases dial_tried w.peer w.attempt.virtualPort l with ⟨s, l', dialed, given⟩ | ⟨e, l', dialed, failed⟩
  · rw [dialed]
    exact given
  · rw [dialed]
    exact failed.tried (reconnectWith_tried _ _ _)

/-! ## Acts -/

/-- All that an act can do to a link, and whether the handler of an event is through. -/
inductive Effect (l : Link (Recorded τ)) : BusyLink.Act → Handling × Link (Recorded τ) → Prop
  | idle {a} {after : Link (Recorded τ)} (h : l.Idles after) : Effect l a (.done, after)
  | message {s data} (there : l.state.active.contains s = true) :
      Effect l (.event (.message s data)) (.done, (l.hear (.message s data)).emit (.message s data))
  | accept {s peer port} (c : Recorded τ) (hosts : l.state.isHost = true)
      (noted : c.record = l.record ++ [.told (.incoming s peer port), .asked (.accept s)]) :
      Effect l (.event (.incoming s peer port)) (.done, { l with channel := c })
  | host (listening : Bool) (c : Recorded τ) (running : l.state.isShutDown = false)
      (role : l.state.role = none ∨ l.state.role = some .host)
      (noted : c.record = l.record ++ [.asked .listen]) :
      Effect l .host (.done, { l with
        state := { l.state with role := some .host, phase := .connecting, listening }, channel := c })
  | connect {peer} {after : Link (Recorded τ)} (running : l.state.isShutDown = false)
      (role : l.state.role = none ∨ l.state.role = some .guest)
      (tried : Tried { l with
        state := { l.state with role := some .guest, phase := .connecting, peer := some peer } }
          (.done, after)) :
      Effect l (.connect peer) (.done, after)
  | refuse {s peer} (detail : String) (why : l.state.isShutDown = true ∨ l.state.isStale s = true) :
      Effect l (.event (.connected s peer)) (.done, (l.hear (.connected s peer)).closeSession s detail)
  | opened {s peer} (running : l.state.isShutDown = false) (fresh : l.state.isStale s = false) :
      Effect l (.event (.connected s peer)) (.done,
        ((l.hear (.connected s peer)).update (·.opened s peer)).emit (.opened s peer))
  | overlook {s reason} (guest : l.state.isGuest = true) (other : l.state.isCurrent s = false) :
      Effect l (.event (.closed s reason)) (.done, (l.hear (.closed s reason)).update
        (fun st => { st with active := st.active.erase s }))
  | stop {s reason} (guest : l.state.isGuest = true) (current : l.state.isCurrent s = true)
      (own : (reason.isSelfInitiated || l.state.isShutDown) = true) :
      Effect l (.event (.closed s reason)) (.done, (l.hear (.closed s reason)).release s reason true)
  | lose {s reason} {result : Handling × Link (Recorded τ)} (guest : l.state.isGuest = true)
      (current : l.state.isCurrent s = true) (other : reason.isSelfInitiated = false)
      (running : l.state.isShutDown = false)
      (tried : ((l.hear (.closed s reason)).release s reason false).Tried result) :
      Effect l (.event (.closed s reason)) result
  | settle {s reason} (host : l.state.isGuest = false) :
      Effect l (.event (.closed s reason)) (.done,
        (((l.hear (.closed s reason)).update (fun st => { st with active := st.active.erase s })).update
          (·.settleHost)).report (l.state.active.contains s) s reason)
  | resume {w} {result : Handling × Link (Recorded τ)} (tried : l.Tried result) :
      Effect l (.resume w) result
  | disconnect : Effect l .disconnect (.done, l.disconnect)

theorem Effect.keeps {a : BusyLink.Act} (h : l.Effect a r) :
    (∀ role, l.state.role = some role → r.2.state.role = some role) ∧
      (a ≠ .disconnect → r.2.state.isShutDown = l.state.isShutDown) := by
  cases h with
  | idle same =>
      obtain ⟨quality, c, extra, rfl, -⟩ := same
      exact ⟨fun _ taken => taken, fun _ => rfl⟩
  | message | accept | refuse | overlook => exact ⟨fun _ taken => taken, fun _ => rfl⟩
  | host listening c running free =>
      refine ⟨fun role taken => ?_, fun _ => rfl⟩
      rw [taken] at free
      exact (by simpa using free : role = .host) ▸ rfl
  | connect running free tried =>
      obtain ⟨phase, retries, pending, state⟩ := tried.state_eq
      rw [state]
      refine ⟨fun role taken => ?_, fun _ => rfl⟩
      rw [taken] at free
      exact (by simpa using free : role = .guest) ▸ rfl
  | opened running fresh =>
      cases guest : l.state.isGuest with
      | true =>
          rw [state_opened_of_guest guest]
          exact ⟨fun _ taken => taken, fun _ => rfl⟩
      | false =>
          rw [state_opened_of_not_guest guest]
          exact ⟨fun _ taken => taken, fun _ => rfl⟩
  | stop guest current own =>
      rw [state_release]
      exact ⟨fun _ taken => taken, fun _ => rfl⟩
  | lose guest current other running tried =>
      obtain ⟨phase, retries, pending, state⟩ := tried.state_eq
      rw [state, state_release]
      exact ⟨fun _ taken => taken, fun _ => rfl⟩
  | settle host =>
      dsimp only
      rw [state_report, update, LinkState.settleHost]
      split <;> exact ⟨fun _ taken => taken, fun _ => rfl⟩
  | resume tried =>
      obtain ⟨phase, retries, pending, state⟩ := tried.state_eq
      rw [state]
      exact ⟨fun _ taken => taken, fun _ => rfl⟩
  | disconnect =>
      dsimp only
      rw [(disconnect_eq l).2]
      exact ⟨fun _ taken => taken, fun other => absurd rfl other⟩

def perform (a : BusyLink.Act) (l : Link (Recorded τ)) : Handling × Link (Recorded τ) :=
  match a with
  | .host => (.done, l.host.2)
  | .connect peer => (.done, (l.connect peer).2)
  | .event e => (l.hear e).handle e
  | .resume w => l.resume w
  | .send s data => (.done, (l.send s data).2)
  | .sample => (.done, l.samplePing.2)
  | .disconnect => (.done, l.disconnect)

theorem effect_host (l : Link (Recorded τ)) : l.Effect .host (.done, l.host.2) := by
  rcases host_cases l with ⟨e, refused, -⟩ | ⟨st, r, listening, c, done, claimed, -, noted⟩
  · rw [refused]
    exact .idle (.refl l)
  · obtain ⟨running, role, rfl⟩ := claim_ok claimed
    rw [done]
    exact .host listening c running role noted

theorem effect_connect (peer : Identity) (l : Link (Recorded τ)) :
    l.Effect (.connect peer) (.done, (l.connect peer).2) := by
  cases claimed : l.state.claim .guest with
  | error e =>
      rw [Link.connect, beginConnect, claimed]
      exact .idle (.refl l)
  | ok st =>
      rw [Link.connect, beginConnect, claimed]
      obtain ⟨running, role, rfl⟩ := claim_ok claimed
      apply Effect.connect running role
      dsimp only
      rcases dial_tried peer l.state.retries.virtualPort { l with
          state := { l.state with role := some .guest, phase := .connecting, peer := some peer } } with
        ⟨s, l', dialed, given⟩ | ⟨e, l', dialed, failed⟩
      · rw [dialed]
        exact given
      · rw [dialed]
        exact failed.stops .done

theorem effect_event (e : ChannelEvent) (l : Link (Recorded τ)) :
    l.Effect (.event e) ((l.hear e).handle e) := by
  cases e with
  | incoming s peer port =>
      rw [handle, onIncoming]
      split
      · next hosting =>
        simp only [Bool.and_eq_true] at hosting
        exact .accept _ hosting.1.1 (by rw [List.append_cons]; rfl)
      · exact .idle ⟨l.state.quality, _, [.told (.incoming s peer port), .asked (.close s _)], rfl,
          by rw [List.append_cons]; rfl, by simp [Signal.isIdle]⟩
  | connected s peer =>
      rw [handle, onConnected]
      split
      · next shut => exact .refuse _ (.inl shut)
      · next running =>
        split
        · next stale => exact .refuse _ (.inr stale)
        · next fresh => exact .opened (Bool.eq_false_iff.mpr running) (Bool.eq_false_iff.mpr fresh)
  | message s data =>
      rw [handle, onMessage]
      split
      · next there => exact .message there
      · exact .idle ⟨l.state.quality, _, [.told (.message s data)], rfl, rfl, by simp [Signal.isIdle]⟩
  | closed s reason =>
      simp only [handle, onClosed]
      split
      · next guest =>
        split
        · next current =>
          split
          · next own =>
            rw [own]
            exact .stop guest current own
          · next other =>
            rw [Bool.not_eq_true] at other
            obtain ⟨foreign, running⟩ := Bool.or_eq_false_iff.mp other
            rw [other]
            exact .lose guest current foreign running (reconnectWith_tried _ _ _)
        · next other => exact .overlook guest (Bool.eq_false_iff.mpr other)
      · next host => exact .settle (Bool.eq_false_iff.mpr host)

theorem effect_perform (a : BusyLink.Act) (l : Link (Recorded τ)) : l.Effect a (l.perform a) := by
  cases a with
  | host => exact effect_host l
  | connect peer => exact effect_connect peer l
  | event e => exact effect_event e l
  | resume w => exact .resume (resume_tried w l)
  | send s data => exact .idle (idles_send s data l)
  | sample => exact .idle (idles_samplePing l)
  | disconnect => exact .disconnect

theorem record_perform (a : BusyLink.Act) (l : Link (Recorded τ)) :
    l.record <+: (l.perform a).2.record := by
  cases a with
  | host =>
      rcases host_cases l with ⟨e, refused, -⟩ | ⟨st, r, listening, c, done, -, -, noted⟩
      · simp [perform, refused]
      · rw [perform, done]
        exact ⟨_, noted.symm⟩
  | connect peer => exact record_connect peer l
  | event e => exact (List.prefix_append ..).trans (record_handle e (l.hear e))
  | resume w => exact record_resume w l
  | send s data => exact (consults_send s data l).record_grows
  | sample => exact (consults_samplePing l).record_grows
  | disconnect =>
      obtain ⟨extra, noted, -⟩ := plain_disconnect l
      exact ⟨extra, noted.symm⟩

theorem allowed_perform {e : ChannelEvent} (lawful : Lawful (l.perform (.event e)).2.record) :
    Allowed l.record (.told e) :=
  lawful.allowed (record_handle e (l.hear e))

end Link

namespace BusyLink

variable {τ : Type} [Channel τ]

def start (settings : LinkSettings) (channel : τ) : BusyLink τ :=
  { link := .start settings { channel } }

def Act.leaves (waiting : List Waiting) : Act → List Waiting
  | .resume w => waiting.erase w
  | .disconnect => []
  | _ => waiting

theorem Act.mem_of_mem_leaves {waiting : List Waiting} {w : Waiting} {a : Act}
    (mem : w ∈ a.leaves waiting) : w ∈ waiting ∧ a ≠ .disconnect := by
  cases a with
  | resume w' => exact ⟨List.mem_of_mem_erase mem, by simp⟩
  | disconnect => cases mem
  | host | connect | event | send | sample => exact ⟨mem, by simp⟩

theorem Act.leaves_sublist (waiting : List Waiting) (a : Act) : (a.leaves waiting).Sublist waiting := by
  cases a with
  | resume w => exact List.erase_sublist
  | disconnect => exact List.nil_sublist waiting
  | host | connect | event | send | sample => exact List.Sublist.refl waiting

@[simp] theorem Act.leaves_nil (a : Act) : a.leaves [] = [] :=
  List.sublist_nil.mp (a.leaves_sublist [])

def Act.isDue (waiting : List Waiting) : Act → Bool
  | .resume w => w ∈ waiting
  | _ => true

def step (x : BusyLink τ) (a : Act) : BusyLink τ :=
  if a.isDue x.waiting then
    let r := x.link.perform a
    ⟨r.2, a.leaves x.waiting ++ r.1.waiter?.toList⟩
  else x

def run (acts : List Act) (x : BusyLink τ) : BusyLink τ :=
  acts.foldl step x

theorem run_append (x : BusyLink τ) (acts later : List Act) :
    x.run (acts ++ later) = (x.run acts).run later :=
  List.foldl_append ..

theorem step_cases (x : BusyLink τ) (a : Act) :
    a.isDue x.waiting = false ∧ x.step a = x ∨
      a.isDue x.waiting = true ∧ ∃ r, x.link.Effect a r ∧
        x.step a = ⟨r.2, a.leaves x.waiting ++ r.1.waiter?.toList⟩ := by
  rw [step]
  split
  · next due => exact .inr ⟨due, _, Link.effect_perform a x.link, rfl⟩
  · next early => exact .inl ⟨Bool.eq_false_iff.mpr early, rfl⟩

theorem record_step (x : BusyLink τ) (a : Act) : x.link.record <+: (x.step a).link.record := by
  rw [step]
  split
  · exact Link.record_perform a x.link
  · exact List.prefix_rfl

theorem record_event (x : BusyLink τ) (e : ChannelEvent) :
    x.link.record ++ [.told e] <+: (x.step (.event e)).link.record :=
  Link.record_handle e (x.link.hear e)

theorem record_run (x : BusyLink τ) (acts : List Act) :
    x.link.record <+: (x.run acts).link.record := by
  induction acts generalizing x with
  | nil => exact List.prefix_rfl
  | cons a rest ih => exact (record_step x a).trans (ih (x.step a))

theorem run_induction {P : BusyLink τ → Prop} {x : BusyLink τ} (h : P x)
    (keep : ∀ x a, P x → P (x.step a)) (acts : List Act) : P (x.run acts) := by
  induction acts generalizing x with
  | nil => exact h
  | cons a rest ih => exact ih (keep x a h)

theorem run_lawful {P : BusyLink τ → Prop} {x : BusyLink τ} {acts : List Act} (h : P x)
    (keep : ∀ x a, P x → Lawful (x.step a).link.record → P (x.step a))
    (lawful : Lawful (x.run acts).link.record) : P (x.run acts) := by
  refine run_induction (P := fun x => Lawful x.link.record → P x) (fun _ => h) ?_ acts lawful
  intro x a before after
  exact keep x a (before (after.of_prefix (record_step x a))) after

end BusyLink
end StreamTunnel
