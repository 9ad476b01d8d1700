import StreamTunnel.Proofs.Link.Run
import StreamTunnel.Proofs.Tunnel.Mirrors

namespace StreamTunnel

section

variable {τ : Type} {s k : SessionId} {x : Watch τ} {y : Solo} {m : Multiplexer}
  {e e' : TunnelEnd (Answered τ)}

/-! ## What is so at all times -/

/-- What is so of a host at all times. -/
structure Hosting (settings : Settings) (takes : SessionId → Nat → Bool)
    (e : TunnelEnd (Answered τ)) : Prop where
  settings_eq : e.settings = settings
  takes_eq : e.link.channel.takes = takes
  events_eq : e.link.events = []
  unbound : e.isBound = false
  notStarted : e.acceptor.isStarted = false
  serving : e.acceptor.serving = none
  waiting : e.acceptor.waiting = []

/-- The host goes on, and the session alone hears the same news. -/
structure Tracks (settings : Settings) (takes : SessionId → Nat → Bool) (target : Target)
    (s : SessionId) (x : Watch τ) : Prop where
  hosting : Hosting settings takes x.host
  role : x.host.status.isRunning = true → x.host.link.state.role = some .host
  live : Live s x.host
  mirrors : Mirrors s x ((Solo.start target).run (.start settings.mux true) (takes s) x.news)

variable {settings : Settings} {allTakes : SessionId → Nat → Bool} {target : Target}

theorem Hosting.steady (h : Hosting settings allTakes e) (steady : Steady e e') :
    Hosting settings allTakes e' :=
  ⟨steady.settings_eq.trans h.settings_eq, steady.takes_eq.trans h.takes_eq,
    steady.events_eq.trans h.events_eq, steady.isBound_eq.trans h.unbound,
    steady.acceptor_eq ▸ h.notStarted, steady.acceptor_eq ▸ h.serving, steady.acceptor_eq ▸ h.waiting⟩

theorem Hosting.fresh_eq (h : Hosting settings allTakes e) (host : e.link.state.role = some .host) :
    e.fresh = .start settings.mux true := by
  rw [TunnelEnd.fresh, h.settings_eq, LinkState.isHost, host]
  rfl

theorem Hosting.relink (h : Hosting settings allTakes e) {l : Link (Answered τ)}
    (takes : l.channel.takes = e.link.channel.takes) (none : l.events = []) :
    Hosting settings allTakes { e with link := l } :=
  ⟨h.settings_eq, takes.trans h.takes_eq, none, h.unbound, h.notStarted, h.serving, h.waiting⟩

structure Spared (s : SessionId) (l l' : Link (Answered τ)) : Prop where
  active_eq : l'.state.active = l.state.active
  events_eq : l'.events = l.events
  takes_eq : l'.channel.takes = l.channel.takes
  on_eq : l'.channel.on s = l.channel.on s

theorem Spared.refl (s : SessionId) (l : Link (Answered τ)) : Spared s l l :=
  ⟨rfl, rfl, rfl, rfl⟩

theorem Spared.trans {l l' l'' : Link (Answered τ)} (first : Spared s l l') (second : Spared s l' l'') :
    Spared s l l'' :=
  ⟨second.active_eq.trans first.active_eq, second.events_eq.trans first.events_eq,
    second.takes_eq.trans first.takes_eq, second.on_eq.trans first.on_eq⟩

theorem Tracks.rehost (h : Tracks settings allTakes target s x) {e : TunnelEnd (Answered τ)}
    (same : (e.settings, e.routes, e.sockets, e.acceptor, e.isBound) =
      (x.host.settings, x.host.routes, x.host.sockets, x.host.acceptor, x.host.isBound))
    (spared : Spared s x.host.link e.link)
    (role : e.status.isRunning = true → e.link.state.role = some .host) :
    Tracks settings allTakes target s { x with host := e } := by
  simp only [Prod.mk.injEq] at same
  obtain ⟨settings, routes, sockets, acceptor, isBound⟩ := same
  refine ⟨⟨settings.trans h.hosting.settings_eq, spared.takes_eq.trans h.hosting.takes_eq,
    spared.events_eq.trans h.hosting.events_eq, isBound.trans h.hosting.unbound,
    acceptor ▸ h.hosting.notStarted, acceptor ▸ h.hosting.serving, acceptor ▸ h.hosting.waiting⟩, role,
    fun routed => ?_, h.mirrors.of_eq routes sockets spared.on_eq _⟩
  rw [spared.active_eq]
  exact h.live (routes ▸ routed)

theorem settleHost_keeps (st : LinkState) :
    st.settleHost.active = st.active ∧ st.settleHost.role = st.role := by
  unfold LinkState.settleHost
  split <;> exact ⟨rfl, rfl⟩

variable [Channel τ]

theorem Hosting.handOn_eq (h : Hosting settings allTakes e) : e.handOn = e :=
  TunnelEnd.handOn_of_idle h.notStarted h.serving

/-! ## Link events -/

structure Driven (s : SessionId) (ev : LinkEvent) (x : Watch τ) (y : Solo) : Prop where
  mirrors : Mirrors s (x.drive s ev)
    (y.run x.host.fresh (x.host.link.channel.takes s) (x.host.newsOf s ev))
  steady : Steady x.host (x.drive s ev).host

theorem Mirrors.drive_opened (h : Mirrors s x y) (running : x.host.status.isRunning = true)
    (k : SessionId) (peer : Identity) : Driven s (.opened k peer) x y := by
  have said : x.host.newsOf s (.opened k peer) = if k = s then [.opened] else [] := if_pos running
  have quiet : x.host.dialedFor s (.opened k peer) = [] := rfl
  obtain ⟨mirrors, steady⟩ := h.openSession _ k (x.news ++ x.host.newsOf s (.opened k peer))
  rw [← TunnelEnd.drive_opened running peer] at mirrors steady
  refine ⟨?_, steady⟩
  rw [said, Watch.drive, quiet, List.append_nil]
  exact mirrors

theorem Mirrors.drive_closed (h : Mirrors s x y) (running : x.host.status.isRunning = true)
    (k : SessionId) (reason : CloseReason) : Driven s (.closed k reason) x y := by
  have said : x.host.newsOf s (.closed k reason) = if k = s then [.closed] else [] := if_pos running
  have quiet : x.host.dialedFor s (.closed k reason) = [] := rfl
  obtain ⟨mirrors, steady⟩ := h.closeSession _ _ k (x.news ++ x.host.newsOf s (.closed k reason))
  rw [← TunnelEnd.drive_closed running reason] at mirrors steady
  refine ⟨?_, steady⟩
  rw [said, Watch.drive, quiet, List.append_nil]
  exact mirrors

theorem Mirrors.drive_message (h : Mirrors s x y) (running : x.host.status.isRunning = true)
    (live : Live s x.host) (k : SessionId) (data : Bytes) : Driven s (.message k data) x y := by
  have said : x.host.newsOf s (.message k data) = if k = s then [.message data] else [] := if_pos running
  by_cases same : k = s
  · subst same
    rw [if_pos rfl] at said
    have dialed : x.host.dialedFor k (.message k data) =
        (x.host.sockets.dialIf (x.host.board.wantsDial k data)).1.toList := by
      simp only [TunnelEnd.dialedFor, Sockets.dialIf, running, true_and]
      split <;> rfl
    obtain ⟨mirrors, steady⟩ := h.packet_own live data (x.news ++ x.host.newsOf k (.message k data))
    rw [← TunnelEnd.drive_message running data] at mirrors steady
    refine ⟨?_, steady⟩
    rw [said, Watch.drive, dialed]
    exact mirrors
  · rw [if_neg same] at said
    have quiet : x.host.dialedFor s (.message k data) = [] := if_neg (fun both => same both.1)
    obtain ⟨mirrors, steady⟩ := h.packet_other same data (x.news ++ x.host.newsOf s (.message k data))
    rw [← TunnelEnd.drive_message running data] at mirrors steady
    refine ⟨?_, steady⟩
    rw [said, Watch.drive, quiet, List.append_nil]
    exact mirrors

theorem Driven.tracks {ev : LinkEvent} (hosting : Hosting settings allTakes x.host)
    (host : x.host.link.state.role = some .host)
    (driven : Driven s ev x ((Solo.start target).run (.start settings.mux true) (allTakes s) x.news))
    (live : Live s (x.drive s ev).host) :
    Tracks settings allTakes target s { x.drive s ev with host := (x.drive s ev).host.handOn } := by
  have next := hosting.steady driven.steady
  have mirrors := driven.mirrors
  rw [hosting.fresh_eq host, hosting.takes_eq, Solo.run, Solo.run, ← List.foldl_append] at mirrors
  rw [next.handOn_eq]
  exact ⟨next, fun _ => driven.steady.state_eq ▸ host, live, mirrors⟩

/-! ## Channel events -/

/-- What the link of a host makes of a channel event: at most one event, in step with the open
sessions. -/
inductive Relayed (l l' : Link (Answered τ)) : Prop
  | quiet (events : l'.events = [])
      (active : ∀ s, l'.state.active.contains s = l.state.active.contains s)
  | message (k : SessionId) (data : Bytes) (events : l'.events = [.message k data])
      (active : l'.state.active = l.state.active)
  | opened (k : SessionId) (peer : Identity) (events : l'.events = [.opened k peer])
      (active : ∀ s, l'.state.active.contains s = if s = k then true else l.state.active.contains s)
  | closed (k : SessionId) (reason : CloseReason) (events : l'.events = [.closed k reason])
      (active : ∀ s, l'.state.active.contains s = if s = k then false else l.state.active.contains s)

structure Hosted (s : SessionId) (l l' : Link (Answered τ)) : Prop where
  role_eq : l'.state.role = l.state.role
  takes_eq : l'.channel.takes = l.channel.takes
  on_eq : l'.channel.on s = l.channel.on s

theorem relayed_handle {l : Link (Answered τ)} (host : l.state.role = some .host)
    (none : l.events = []) (ev : ChannelEvent) (s : SessionId) :
    Relayed l (l.handle ev).2 ∧ Hosted s l (l.handle ev).2 := by
  have guest : l.state.isGuest = false := by simp [LinkState.isGuest, host]
  cases ev with
  | incoming k peer port =>
      rw [Link.handle, Link.onIncoming]
      split <;> exact ⟨.quiet none (fun _ => rfl), rfl, rfl, rfl⟩
  | connected k peer =>
      have fresh : l.state.isStale k = false := by rw [LinkState.isStale, guest, Bool.false_and]
      rw [Link.handle, Link.onConnected, fresh]
      split
      · exact ⟨.quiet none (fun _ => rfl), rfl, rfl, rfl⟩
      · simp only [Bool.false_eq_true, if_false, Link.emit, Link.update, LinkState.opened, guest, none]
        exact ⟨.opened k peer rfl (fun s => Table.contains_insert ..), rfl, rfl, rfl⟩
  | message k data =>
      rw [Link.handle, Link.onMessage]
      split
      · exact ⟨.message k data (by simp [Link.emit, none]) rfl, rfl, rfl, rfl⟩
      · exact ⟨.quiet none (fun _ => rfl), rfl, rfl, rfl⟩
  | closed k reason =>
      obtain ⟨active, role⟩ := settleHost_keeps { l.state with active := l.state.active.erase k }
      rw [Link.handle, Link.onClosed_of_not_guest guest]
      cases was : l.state.active.contains k with
      | false =>
          refine ⟨.quiet none (fun s => ?_), role, rfl, rfl⟩
          refine (congrArg (Table.contains · s) active).trans ?_
          rw [Table.contains_erase]
          split
          · next same => rw [same, was]
          · rfl
      | true =>
          refine ⟨.closed k reason (by simp [Link.report, Link.emit, Link.update, none]) (fun s => ?_),
            role, rfl, rfl⟩
          exact (congrArg (Table.contains · s) active).trans (Table.contains_erase ..)

theorem Tracks.hear (h : Tracks settings allTakes target s x) (ev : ChannelEvent) :
    Tracks settings allTakes target s (x.hear s ev) := by
  rw [Watch.hear]
  split
  · next running =>
    obtain ⟨relayed, hosted⟩ := relayed_handle (h.role running) h.hosting.events_eq ev s
    generalize (x.host.link.handle ev).2 = l at relayed hosted
    let x' : Watch τ := { x with host := { x.host with link := { l with events := [] } } }
    have hosting : Hosting settings allTakes x'.host :=
      h.hosting.relink hosted.takes_eq rfl
    have host : x'.host.link.state.role = some .host := hosted.role_eq.trans (h.role running)
    have running : x'.host.status.isRunning = true := running
    have mirrors : Mirrors s x' _ := h.mirrors.of_eq (e := x'.host) rfl rfl hosted.on_eq x.news
    dsimp only [Link.takeEvents]
    cases relayed with
    | quiet events active =>
        rw [events, List.foldl_nil]
        change Tracks settings allTakes target s { x' with host := x'.host.handOn }
        rw [hosting.handOn_eq]
        exact ⟨hosting, fun _ => host, fun routed => (active s).trans (h.live routed), mirrors⟩
    | message k data events active =>
        have live : Live s x'.host :=
          fun routed => (congrArg (Table.contains · s) active).trans (h.live routed)
        have driven := mirrors.drive_message running live k data
        rw [events, List.foldl_cons, List.foldl_nil]
        refine driven.tracks hosting host ?_
        intro routed
        rw [driven.steady.state_eq]
        exact live ((TunnelEnd.contains_drive_message running k s data).symm.trans routed)
    | opened k peer events active =>
        have driven := mirrors.drive_opened running k peer
        rw [events, List.foldl_cons, List.foldl_nil]
        refine driven.tracks hosting host ?_
        intro routed
        replace routed := (TunnelEnd.contains_drive_opened running k s peer).symm.trans routed
        rw [driven.steady.state_eq]
        refine (active s).trans ?_
        split
        · rfl
        · next other => exact h.live ((if_neg other).symm.trans routed)
    | closed k reason events active =>
        have driven := mirrors.drive_closed running k reason
        rw [events, List.foldl_cons, List.foldl_nil]
        refine driven.tracks hosting host ?_
        intro routed
        replace routed := (TunnelEnd.contains_drive_closed running k s reason).symm.trans routed
        rw [driven.steady.state_eq]
        refine (active s).trans ?_
        split
        · next same => exact (if_pos same).symm.trans routed
        · next other => exact h.live ((if_neg other).symm.trans routed)
  · exact h

theorem Tracks.hears (h : Tracks settings allTakes target s x) (events : List ChannelEvent) :
    Tracks settings allTakes target s (events.foldl (Watch.hear s) x) := by
  induction events generalizing x with
  | nil => exact h
  | cons ev rest ih => exact ih (h.hear ev)

/-! ## Runs -/

theorem on_disconnect (s : SessionId) (l : Link (Answered τ)) :
    l.disconnect.channel.on s = l.channel.on s ∧ l.disconnect.channel.takes = l.channel.takes := by
  have drops (sessions : List SessionId) (l : Link (Answered τ)) :
      (sessions.foldl Link.dropSession l).channel.on s = l.channel.on s ∧
        (sessions.foldl Link.dropSession l).channel.takes = l.channel.takes := by
    induction sessions generalizing l with
    | nil => exact ⟨rfl, rfl⟩
    | cons k rest ih => exact ih (l.dropSession k)
  rw [Link.disconnect]
  split <;> exact drops _ _

theorem tracks_finish (hosting : Hosting settings allTakes x.host)
    (mirrors : Mirrors s x ((Solo.start target).run (.start settings.mux true) (allTakes s) x.news))
    {status : RunStatus} (stops : status.isRunning = false) :
    Tracks settings allTakes target s (x.finish status) := by
  obtain ⟨closed, steady⟩ :=
    mirrors.closeAll (.start settings.mux true) (allTakes s) (x.news ++ [.over])
  have after := hosting.steady steady
  obtain ⟨on, takes⟩ := on_disconnect s (x.host.switch (·.closeAll)).link
  refine ⟨⟨after.settings_eq, takes.trans after.takes_eq, rfl, after.unbound, after.notStarted,
    after.serving, rfl⟩, fun running => ?_, fun routed => ?_, ?_⟩
  · exact absurd running (Bool.eq_false_iff.mp stops)
  · have gone : (x.host.switch (·.closeAll)).routes.get? s = none := TunnelEnd.get?_closeAll s x.host
    have contains : (x.host.switch (·.closeAll)).routes.contains s = true := routed
    rw [Table.contains, gone] at contains
    cases contains
  · have heard : (Solo.start target).run (.start settings.mux true) (allTakes s) (x.news ++ [.over]) =
        ((Solo.start target).run (.start settings.mux true) (allTakes s) x.news).hear
          (.start settings.mux true) (allTakes s) .closed := by
      rw [Solo.run, List.foldl_append]
      rfl
    change Mirrors s (x.finish status) (Solo.run _ _ _ (x.news ++ [.over]))
    rw [heard]
    refine closed.of_eq (e := x.host.finish status) rfl ?_ on _
    change (x.host.switch (·.closeAll)).acceptor.waiting.foldl _ (x.host.switch (·.closeAll)).sockets = _
    rw [after.waiting]
    rfl

theorem spared_samplePing (s : SessionId) (l : Link (Answered τ)) :
    Spared s l l.samplePing.2 ∧ l.samplePing.2.state.role = l.state.role := by
  rw [Link.samplePing]
  cases l.state.primary.or l.state.active.keys.head? with
  | none => exact ⟨⟨rfl, rfl, rfl, rfl⟩, rfl⟩
  | some k =>
      have asked : (Channel.quality k l.channel).2.takes = l.channel.takes ∧
          (Channel.quality k l.channel).2.on s = l.channel.on s := ⟨rfl, rfl⟩
      simp only [Link.sampleSession]
      generalize Channel.quality k l.channel = r at asked
      obtain ⟨quality, c⟩ := r
      cases quality <;> exact ⟨⟨rfl, rfl, asked.1, asked.2⟩, rfl⟩

theorem spared_host (s : SessionId) (l : Link (Answered τ)) :
    Spared s l l.host.2 ∧ (l.host.1 = .ok () → l.host.2.state.role = some .host) := by
  rw [Link.host]
  cases claimed : l.state.claim .host with
  | error err => exact ⟨⟨rfl, rfl, rfl, rfl⟩, by simp⟩
  | ok st =>
      obtain ⟨-, -, rfl⟩ := Link.claim_ok claimed
      have asked : (Channel.listen l.channel).2.takes = l.channel.takes ∧
          (Channel.listen l.channel).2.on s = l.channel.on s := ⟨rfl, rfl⟩
      dsimp only
      generalize Channel.listen l.channel = r at asked
      obtain ⟨result, c⟩ := r
      cases result <;> exact ⟨⟨rfl, rfl, asked.1, asked.2⟩, fun _ => rfl⟩

theorem Tracks.begin (hosts : settings.role = .host) (h : Tracks settings allTakes target s x) :
    Tracks settings allTakes target s (x.begin s) := by
  let l := x.host.link.samplePing.2
  let e : TunnelEnd (Answered τ) := { x.host with status := .running, link := l.host.2 }
  obtain ⟨called, started⟩ := spared_host s l
  have spared : Spared s x.host.link e.link := (spared_samplePing s x.host.link).1.trans called
  -- the link may be without a role when hosting fails
  have failed : Tracks settings allTakes target s { x with host := { e with status := .finished } } :=
    h.rehost rfl spared (fun running => by cases running)
  have setUp : ({ x.host with status := .running } : TunnelEnd (Answered τ)).sample.setUp =
      (l.host.1.mapError .link, e) :=
    TunnelEnd.setUp_of_host (h.hosting.settings_eq ▸ hosts)
  rw [Watch.begin, setUp]
  generalize l.host.1 = result at started
  cases result with
  | error err => exact tracks_finish failed.hosting failed.mirrors rfl
  | ok done =>
      dsimp only [Except.mapError]
      split
      · exact tracks_finish failed.hosting failed.mirrors rfl
      · apply Tracks.hears
        exact h.rehost rfl spared (fun _ => started rfl)

theorem Tracks.step (hosts : settings.role = .host) (h : Tracks settings allTakes target s x)
    (a : EndAct) : Tracks settings allTakes target s (x.step s a) := by
  cases a with
  | start =>
      rw [Watch.step]
      split
      · exact h.begin hosts
      · exact h
  | event ev =>
      rw [Watch.step]
      split
      · exact h
      · split
        · exact h.rehost rfl (.refl s _) h.role
        · exact h.hear ev
  | endEvents => exact h.rehost rfl (.refl s _) h.role
  | knock =>
      rw [Watch.step, TunnelEnd.step, TunnelEnd.knock, h.hosting.unbound]
      exact h
  | far socket a =>
      obtain ⟨mirrors, steady⟩ := h.mirrors.far (.start settings.mux true) h.live socket a
        (x.news ++ if socket ∈ x.own then [.far (x.own.idxOf socket) a] else [])
      rw [h.hosting.takes_eq, Solo.run, Solo.run, ← List.foldl_append] at mirrors
      have hosting := h.hosting.steady steady
      obtain ⟨n, same⟩ := TunnelEnd.step_eq x.host (.far socket a)
      rw [Function.iterate_fixed (TunnelEnd.handOnce_of_idle hosting.notStarted hosting.serving)] at same
      rw [Watch.step, same]
      refine ⟨hosting, fun running => ?_, fun routed => ?_, mirrors⟩
      · rw [steady.state_eq]
        exact h.role (steady.status_eq ▸ running)
      · rw [steady.state_eq]
        exact h.live ((TunnelEnd.contains_take_far ..).symm.trans routed)
  | pass elapsed =>
      rw [Watch.step, TunnelEnd.pass, TunnelEnd.sample]
      split
      · split
        · obtain ⟨spared, role⟩ := spared_samplePing s x.host.link
          exact h.rehost rfl spared (fun running => role.trans (h.role running))
        · exact h
      · exact h
  | stop =>
      rw [Watch.step, TunnelEnd.stop]
      dsimp only
      split
      · have stopped : Tracks settings allTakes target s
            { x with host := { x.host with stopRequested := true } } :=
          h.rehost rfl (.refl s _) h.role
        exact tracks_finish stopped.hosting stopped.mirrors rfl
      · rw [List.append_nil]
        exact h.rehost rfl (.refl s _) h.role

theorem Tracks.run (hosts : settings.role = .host) (h : Tracks settings allTakes target s x)
    (acts : List EndAct) : Tracks settings allTakes target s (x.run s acts) := by
  induction acts generalizing x with
  | nil => exact h
  | cons a rest ih => exact ih (h.step hosts a)

end

/-! ## What there is of a session -/

/-- All that a host has of one session, with the sockets by number. -/
structure SessionView where
  route : Option Multiplexer
  pipes : List (Option Pipe)
  sent : List Bytes

namespace Watch

variable {τ τ' : Type}

def view (s : SessionId) (x : Watch τ) : SessionView where
  route := (x.host.routes.get? s).map (Multiplexer.rename (number x.own))
  pipes := x.own.map x.host.sockets.pipes.get?
  sent := x.host.link.channel.on s

def start (settings : Settings) (channel : τ) (takes : SessionId → Nat → Bool) (target : Target) :
    Watch τ where
  host := .ready settings { channel, takes } target none

end Watch

def Solo.view (y : Solo) : SessionView where
  route := y.route
  pipes := (List.range y.sockets.services).map (fun n => y.sockets.pipes.get? (.service (n + 1)))
  sent := y.sent

section

variable {τ τ' : Type} {s : SessionId} {x : Watch τ} {y : Solo}

theorem Mirrors.view_eq (h : Mirrors s x y) : x.view s = y.view := by
  have pipes : x.own.map x.host.sockets.pipes.get? =
      (List.range y.sockets.services).map (fun n => y.sockets.pipes.get? (.service (n + 1))) := by
    rw [h.pictured.count_eq]
    apply List.ext_getElem (by simp)
    intro n small _
    rw [List.length_map] at small
    have pipe := h.pictured.pipes_eq x.own[n] (List.getElem_mem small)
    rw [number, h.pictured.nodup.idxOf_getElem n small] at pipe
    simpa using pipe.symm
  rw [Watch.view, Solo.view, pipes, h.route_eq, h.sent_eq]

theorem tracks_start (settings : Settings) (channel : τ) (takes : SessionId → Nat → Bool)
    (target : Target) (s : SessionId) :
    Tracks settings takes target s (Watch.start settings channel takes target) := by
  refine ⟨⟨rfl, rfl, rfl, rfl, rfl, rfl, rfl⟩, ?_, ?_, ⟨⟨List.nodup_nil, ?_, ?_, rfl, rfl⟩, rfl, ?_, ?_, rfl⟩⟩
  · intro running
    cases running
  · intro routed
    cases routed
  · intro c mem
    cases mem
  · intro c mem
    cases mem
  · intro m there
    cases there
  · intro k m mem
    cases mem

variable [Channel τ] [Channel τ']

/-- Two hosts that hear the same of a session, with the same answers to what they send there, have the
same of it: its streams, what is missing, the bytes for its sockets and what was sent. Whatever else
they hear makes no difference. A host under watch runs as any host does (`Watch.host_run`). -/
theorem sessions_isolated (settings : Settings) (hosts : settings.role = .host) (target : Target)
    (s : SessionId) (channel : τ) (channel' : τ') (takes takes' : SessionId → Nat → Bool)
    (answers : takes s = takes' s) (acts acts' : List EndAct)
    (news : ((Watch.start settings channel takes target).run s acts).news =
      ((Watch.start settings channel' takes' target).run s acts').news) :
    ((Watch.start settings channel takes target).run s acts).view s =
      ((Watch.start settings channel' takes' target).run s acts').view s := by
  have first := (tracks_start settings channel takes target s).run hosts acts
  have second := (tracks_start settings channel' takes' target s).run hosts acts'
  rw [first.mirrors.view_eq, second.mirrors.view_eq, news, answers]

theorem sessions_isolated_same_id :
    let settings : Settings := { role := .host, identity := "host", targetPort := some 80 }
    let id := StreamId.ofNat 5
    let s : SessionId := ⟨2⟩
    let first : Watch Script := .start settings {} (fun _ _ => true) .serving
    let x := first.run s [.start, .event (.connected ⟨1⟩ "one"), .event (.connected s "two"),
      .event (.message ⟨1⟩ (Packet.data id [1]).encode), .event (.message s (Packet.data id [2, 3]).encode),
      .far (.service 1) (.write [7]), .far (.service 2) (.write [8, 9]), .event (.closed ⟨1⟩ .byPeer)]
    let y := first.run s [.start, .event (.connected s "two"),
      .event (.message s (Packet.data id [2, 3]).encode), .far (.service 1) (.write [8, 9])]
    settings.role = .host ∧
    x.news = [.opened, .message (Packet.data id [2, 3]).encode, .far 0 (.write [8, 9])] ∧
    x.view s = y.view s ∧
    (y.view s).pipes = [some { toFar := [2, 3] }] ∧
    (y.view s).sent = [(Packet.data id [8, 9]).encode] := by
  intro settings id s first x y
  have heard : x.news = [.opened, .message (Packet.data id [2, 3]).encode, .far 0 (.write [8, 9])] := by
    decide +kernel
  have heard' : y.news = [.opened, .message (Packet.data id [2, 3]).encode, .far 0 (.write [8, 9])] := by
    decide +kernel
  have same : x.view s = y.view s :=
    sessions_isolated settings rfl .serving s ({} : Script) ({} : Script) _ _ rfl _ _
      (heard.trans heard'.symm)
  exact ⟨rfl, heard, same, by decide +kernel, by decide +kernel⟩

end

end StreamTunnel
