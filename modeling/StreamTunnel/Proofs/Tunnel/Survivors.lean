import StreamTunnel.Proofs.Link.Accounts
import StreamTunnel.Proofs.Tunnel.Leaving
import StreamTunnel.Proofs.Tunnel.Stages

namespace StreamTunnel

namespace TunnelEnd

variable {τ : Type} {e e' : TunnelEnd (Recorded τ)} {s : SessionId}

structure Working (e : TunnelEnd (Recorded τ)) : Prop where
  status_eq : e.status = .running
  engaged : e.link.Engaged
  idle : e.link.events = []

theorem Working.isRunning (h : e.Working) : e.status.isRunning = true := by
  rw [RunStatus.isRunning, decide_eq_true_iff]
  exact h.status_eq

theorem Working.on (h : e.Working) (status : e'.status = e.status) (uses : e.link.Uses e'.link) :
    e'.Working := by
  refine ⟨status.trans h.status_eq, h.engaged.uses uses, ?_⟩
  obtain ⟨quality, c, extra, same, -⟩ := uses
  rw [same]
  exact h.idle

theorem Working.work (h : e.Working) {f : Desk (Link (Recorded τ)) → Desk (Link (Recorded τ))}
    (uses : ∀ d : Desk (Link (Recorded τ)), d.outlet.Uses (f d).outlet) (s : SessionId) :
    (e.work s f).Working :=
  h.on (status_work s f e) (uses_work uses s e)

variable [Channel τ]

structure Done (e : TunnelEnd (Recorded τ)) : Prop where
  through : e.Through
  shut : ∃ l : Link (Recorded τ), l.Accounted ∧ e.link = { l.disconnect with events := [] }

theorem done_finish (accounted : e.link.Accounted) {status : RunStatus} (isOver : status.isOver = true) :
    (e.finish status).Done :=
  ⟨through_finish isOver e, e.link, accounted, link_finish status e⟩

theorem Done.over (h : e.Done) : e.link.Over := by
  obtain ⟨l, -, same⟩ := h.shut
  rw [same]
  have isOver := Link.over_disconnect l
  exact ⟨isOver.shut, isOver.phase, isOver.active, isOver.pending, isOver.primary, isOver.listening⟩

theorem Done.closes (h : e.Done) (begun : HasBegun s e.link.record) :
    e.link.record.countP (·.closes s) = if HasClosed s e.link.record then 0 else 1 := by
  obtain ⟨l, accounted, same⟩ := h.shut
  rw [same] at begun ⊢
  exact accounted.closes_disconnect begun

theorem Done.rests (h : e.Done) (rests : Rests e e') : e'.Done :=
  ⟨rests.through, rests.link_eq ▸ h.shut⟩

theorem Working.finish (h : e.Working) {status : RunStatus} (isOver : status.isOver = true)
    (orderly : Orderly (e.finish status).link.record) : (e.finish status).Done :=
  done_finish (h.engaged.accounted (orderly.of_prefix (record_finish status e))) isOver

theorem Working.handOnces (h : e.Working) (n : Nat) : (TunnelEnd.handOnce^[n] e).Working := by
  induction n generalizing e with
  | zero => exact h
  | succ n ih => exact ih (h.on (status_handOnce e) (uses_handOnce e))

theorem Working.drives (h : e.Working) (events : List LinkEvent)
    (orderly : Orderly (events.foldl drive e).link.record) :
    (events.foldl drive e).Working ∨ (events.foldl drive e).Done := by
  induction events generalizing e with
  | nil => exact .inl h
  | cons ev rest ih =>
      rw [List.foldl_cons] at orderly ⊢
      cases ev with
      | opened s peer =>
          rw [drive_opened h.isRunning] at orderly ⊢
          refine ih (h.on (status_openSession s e) ?_) orderly
          rw [link_openSession]
          exact .refl e.link
      | closed s reason =>
          rw [drive_closed h.isRunning] at orderly ⊢
          refine ih (h.on (status_closeSession s e) ?_) orderly
          rw [link_closeSession]
          exact .refl e.link
      | message s data =>
          rw [drive_message h.isRunning] at orderly ⊢
          exact ih (h.work (Desk.uses_packet s data) s) orderly
      | reconnecting n port =>
          rw [drive_reconnecting] at orderly ⊢
          exact ih h orderly
      | disconnected reason =>
          -- the run of the end is over, so what else was reported is not looked at
          rw [drive_disconnected h.isRunning, drives_of_not_running rfl] at orderly ⊢
          exact .inr (h.finish rfl orderly)

theorem Working.take_event (h : e.Working) (ev : ChannelEvent)
    (orderly : Orderly ((e.told (.event ev)).take (.event ev)).link.record) :
    ((e.told (.event ev)).take (.event ev)).Working ∨ ((e.told (.event ev)).take (.event ev)).Done := by
  cases deaf : e.isDeaf with
  | true =>
      rw [told, if_pos deaf, TunnelEnd.take, if_pos deaf]
      exact .inl h
  | false =>
      have listens : ¬ e.isDeaf = true := by simp [deaf]
      have begun : ¬ e.status = .notStarted := by simp [h.status_eq]
      rw [told, if_neg listens, TunnelEnd.take, if_neg listens, if_neg begun, if_pos h.isRunning] at orderly ⊢
      have grows := record_driveAll { e with link := ((e.link.hear ev).handle ev).2 }
      have engaged := h.engaged.hear h.idle ev (orderly.lawful.of_prefix grows)
      have heard : Working { e with link := { ((e.link.hear ev).handle ev).2 with events := [] } } :=
        ⟨h.status_eq, engaged.taken, rfl⟩
      exact heard.drives _ orderly

theorem Working.take (h : e.Working) (a : EndAct) (orderly : Orderly ((e.told a).take a).link.record) :
    ((e.told a).take a).Working ∨ ((e.told a).take a).Done := by
  cases a with
  | start =>
      have begun : ¬ e.status = .notStarted := by simp [h.status_eq]
      left
      change e.run.2.Working
      rw [run, if_neg begun]
      exact h
  | event ev => exact h.take_event ev orderly
  | endEvents => exact .inl ⟨h.status_eq, h.engaged, h.idle⟩
  | knock =>
      left
      change (e.take .knock).Working
      rw [TunnelEnd.take]
      split
      · exact h
      · exact ⟨h.status_eq, h.engaged, h.idle⟩
  | far socket a =>
      left
      let e₁ : TunnelEnd (Recorded τ) := { e with sockets := (e.sockets.act socket a).2 }
      have working : e₁.Working := ⟨h.status_eq, h.engaged, h.idle⟩
      change (e.take (.far socket a)).Working
      rw [take_far]
      change ((e₁.board.owner? socket).elim e₁ _).Working
      cases e₁.board.owner? socket with
      | none => exact working
      | some s => exact working.work (Desk.uses_readSocket s socket) s
  | pass elapsed =>
      left
      change (e.pass elapsed).Working
      rw [pass]
      split
      · refine h.on ?_ (uses_sample e)
        rw [sample]
        split <;> rfl
      · exact h
  | stop =>
      right
      have asked : Working { e with stopRequested := true } := ⟨h.status_eq, h.engaged, h.idle⟩
      change Orderly e.stop.link.record at orderly
      change e.stop.Done
      rw [stop] at orderly ⊢
      dsimp only at orderly ⊢
      rw [if_pos h.isRunning] at orderly ⊢
      exact asked.finish rfl orderly

theorem Working.hear (h : e.Working) {ev : ChannelEvent} (kept : e.link.Kept ev) :
    (e.hear ev).Working ∧ ∀ ev', e.link.Kept ev' → (e.hear ev).link.Kept ev' := by
  obtain ⟨engaged, events, keeps⟩ := h.engaged.early kept
  rw [h.idle] at events
  rw [TunnelEnd.hear, if_pos h.isRunning]
  generalize (e.link.handle ev).2 = l at engaged events keeps
  have working : Working { e with link := l } := ⟨h.status_eq, engaged, events⟩
  rw [driveAll_of_nil (by exact events), handOn_eq]
  exact ⟨working.handOnces _, fun ev' kept' => (keeps ev' kept').uses (uses_handOnces _ { e with link := l })⟩

theorem Working.hears (h : e.Working) {events : List ChannelEvent} (kept : ∀ ev ∈ events, e.link.Kept ev) :
    (events.foldl TunnelEnd.hear e).Working := by
  induction events generalizing e with
  | nil => exact h
  | cons ev rest ih =>
      rw [List.forall_mem_cons] at kept
      obtain ⟨next, keeps⟩ := h.hear kept.1
      exact ih next fun ev' mem => keeps ev' (kept.2 ev' mem)

omit [Channel τ] in
theorem Unstarted.unasked (h : e.Unstarted) : ∀ x ∈ e.link.record, ∃ ev, x = .told ev := by
  rw [h.noted]
  intro x mem
  obtain ⟨ev, -, rfl⟩ := List.mem_map.mp mem
  exact ⟨ev, rfl⟩

omit [Channel τ] in
theorem Unstarted.unbegun (h : e.Unstarted) {record extra : List Signal} (noted : record = e.link.record ++ extra)
    (neutral : ∀ x ∈ extra, x.isNeutral = true) (lawful : Lawful record) (s : SessionId) :
    ¬ HasBegun s record := by
  subst noted
  have before := lawful.of_prefix (List.prefix_append ..)
  have never (x : Signal) (mem : x ∈ e.link.record) (other : ∀ ev, x ≠ .told ev) : False := by
    obtain ⟨ev, same⟩ := h.unasked x mem
    exact other ev same
  rintro (given | connected)
  · rcases List.mem_append.mp given with old | new
    · exact never _ old (by simp)
    · cases neutral _ new
  · rw [hasConnected_append, or_iff_left (hasConnected_neutral neutral)] at connected
    rcases before.begun connected with given | accepted
    · exact never _ given (by simp)
    · exact never _ accepted (by simp)

inductive Begins (e : TunnelEnd (Recorded τ)) : Except TunnelError Unit × TunnelEnd (Recorded τ) → Prop
  | fails {err : TunnelError} {e' : TunnelEnd (Recorded τ)} (accounted : e'.link.Accounted) :
      Begins e (.error err, e')
  | works {e' : TunnelEnd (Recorded τ)} (inbox : e'.inbox = e.inbox) (working : e'.Working)
      (kept : ∀ ev ∈ e.inbox, e'.link.Kept ev) : Begins e (.ok (), e')

theorem Unstarted.begins_host (h : e.Unstarted) (host : e.settings.role = .host)
    (lawful : Lawful (setUp { e with status := .running }).2.link.record) :
    Begins e (setUp { e with status := .running }) := by
  have setUp : setUp { e with status := .running } =
      (e.link.host.1.mapError .link, { e with status := .running, link := e.link.host.2 }) := setUp_of_host host
  rw [setUp] at lawful ⊢
  replace lawful : Lawful e.link.host.2.record := lawful
  have before := lawful.of_prefix (Link.record_perform .host e.link)
  obtain ⟨receives, none, events, noted⟩ :=
    Link.receiving_host h.state_eq h.unasked fun s connected =>
      h.unbegun (List.append_nil _).symm (by simp) before s (.inr connected)
  generalize e.link.host = r at lawful receives none events noted
  obtain ⟨result, l⟩ := r
  cases result with
  | error err =>
      refine .fails (Link.accounted_of_none none fun s => ?_)
      exact h.unbegun noted (by simp [Signal.isNeutral]) lawful s
  | ok done =>
      have receiving := receives rfl
      refine .works rfl ⟨rfl, .host receiving, events.trans h.idle⟩ fun ev mem => ⟨?_, .inl ⟨receiving.role, ?_⟩⟩
      · change .told ev ∈ l.record
        dsimp only at noted
        rw [noted, h.noted]
        exact List.mem_append_left _ (List.mem_map_of_mem mem)
      · exact isOuter_of_lawful (h.noted ▸ before) mem

theorem Unstarted.begins_guest (h : e.Unstarted) (guest : e.settings.role = .guest)
    (lawful : Lawful (setUp { e with status := .running }).2.link.record) :
    Begins e (setUp { e with status := .running }) := by
  have calls {s : SessionId} (given : (e.link.connect (e.settings.peer.getD "")).1 = .ok s) :=
    Link.calling_connect h.state_eq h.unasked given
  have gives {s : SessionId} (given : (e.link.connect (e.settings.peer.getD "")).1 = .ok s) :=
    Link.carried_connect h.state_eq h.ungiven given
  have fails {err : LinkError} (failed : (e.link.connect (e.settings.peer.getD "")).1 = .error err) :=
    Link.connect_fails h.state_eq failed
  rw [setUp] at lawful ⊢
  dsimp only at lawful ⊢
  rw [guest] at lawful ⊢
  dsimp only at lawful ⊢
  cases bound : e.bindFault with
  | some detail =>
      rw [bound] at lawful
      refine .fails (Link.accounted_of_none ?_ fun s => ?_)
      · change e.link.state.sessions = []
        rw [h.state_eq]
        rfl
      · exact h.unbegun (List.append_nil _).symm (by simp) lawful s
  | none =>
      rw [bound] at lawful
      dsimp only at lawful ⊢
      generalize e.link.connect (e.settings.peer.getD "") = r at lawful calls gives fails
      obtain ⟨result, l⟩ := r
      cases result with
      | error err =>
          obtain ⟨none, port, timeout, noted⟩ := fails rfl
          refine .fails (Link.accounted_of_none none fun s => ?_)
          exact h.unbegun noted (by simp [Signal.isNeutral]) lawful s
      | ok p =>
          replace lawful : Lawful l.record := lawful
          have calling := calls rfl lawful
          obtain ⟨-, pending, events, port, timeout, noted⟩ := gives rfl
          dsimp only at pending events noted
          rw [h.noted] at noted
          refine .works rfl ⟨rfl, .guest calling, events.trans h.idle⟩ fun ev mem => ⟨?_, .inr ⟨p, pending, ?_⟩⟩
          · change .told ev ∈ l.record
            rw [noted]
            exact List.mem_append_left _ (List.mem_map_of_mem mem)
          · exact early_of_lawful (noted ▸ lawful) mem

theorem Unstarted.begins (h : e.Unstarted)
    (lawful : Lawful (setUp { e with status := .running }).2.link.record) :
    Begins e (setUp { e with status := .running }) := by
  cases role : e.settings.role with
  | host => exact h.begins_host role lawful
  | guest => exact h.begins_guest role lawful

theorem Unstarted.started (h : e.Unstarted) (orderly : Orderly e.run.2.link.record) :
    e.run.2.Working ∨ e.run.2.Done := by
  have begins := h.begins
  rw [h.run_eq] at orderly ⊢
  generalize setUp { e with status := .running } = r at begins orderly
  obtain ⟨result, e₁⟩ := r
  cases result with
  | error err =>
      dsimp only at begins orderly ⊢
      cases begins (orderly.lawful.of_prefix (record_finish _ e₁)) with
      | fails accounted => exact .inr (done_finish accounted rfl)
  | ok done =>
      dsimp only at begins orderly ⊢
      by_cases stops : e₁.stopRequested = true
      · rw [if_pos stops] at orderly ⊢
        cases begins (orderly.lawful.of_prefix (record_finish _ e₁)) with
        | works inbox working kept => exact .inr (working.finish rfl orderly)
      · rw [if_neg stops] at orderly ⊢
        have grows := record_hears e₁.inbox { e₁ with inbox := [] }
        cases begins (orderly.lawful.of_prefix grows) with
        | works inbox working kept =>
            -- the events that were kept come from before the first session
            have emptied : Working { e₁ with inbox := [] } := ⟨working.status_eq, working.engaged, working.idle⟩
            exact .inl (emptied.hears fun ev mem => kept ev (inbox ▸ mem))

def Staged (e : TunnelEnd (Recorded τ)) : Prop :=
  e.Unstarted ∨ e.Working ∨ e.Done

theorem Staged.take (h : e.Staged) (a : EndAct) (orderly : Orderly ((e.told a).take a).link.record) :
    ((e.told a).take a).Staged := by
  rcases h with waits | working | done
  · by_cases starts : a = .start
    · subst starts
      exact .inr (waits.started orderly)
    · exact .inl (waits.take starts).1
  · exact .inr (working.take a orderly)
  · exact .inr (.inr (done.rests (done.through.take a)))

theorem Staged.handOnces (h : e.Staged) (n : Nat) : (TunnelEnd.handOnce^[n] e).Staged := by
  rcases h with waits | working | done
  · exact .inl (waits.handOnces n).1
  · exact .inr (.inl (working.handOnces n))
  · exact .inr (.inr (done.rests (done.through.handOnces n)))

theorem Staged.run {start : TunnelEnd (Recorded τ)} (h : start.Staged) {acts : List EndAct}
    (orderly : Orderly (start.notedRun acts).link.record) : (start.notedRun acts).Staged :=
  kept_notedRun Orderly.of_prefix (fun a staged orderly => staged.take a orderly)
    (fun n staged => staged.handOnces n) h orderly

theorem Staged.done (h : e.Staged) (isOver : e.status.isOver = true) : e.Done := by
  rcases h with waits | working | done
  · rw [waits.status_eq] at isOver
    cases isOver
  · rw [working.status_eq] at isOver
    cases isOver
  · exact done

theorem Staged.begun (h : e.Staged) (orderly : Orderly e.link.record) (mem : s ∈ e.link.state.sessions) :
    HasBegun s e.link.record := by
  have absent (none : e.link.state.sessions = []) : HasBegun s e.link.record := by
    rw [none] at mem
    cases mem
  rcases h with waits | working | done
  · apply absent
    rw [waits.state_eq]
    rfl
  · exact (((working.engaged.accounted orderly).mem_iff s).mp mem).1
  · apply absent
    rw [LinkState.sessions, done.over.active, done.over.pending]
    rfl

/-- Once the run of an end is over, on a channel that keeps its promises, there is no route. The streams
that were there in the course of any act are gone, with their sockets closed. The link is shut down. Each
session it had between two acts began, and one that began was closed once, unless it had ended. And that is
how it stays: the end hears nothing, and if the link were told more, it would only turn it away. -/
theorem nothing_survives (settings : Settings) (channel : τ) (target : Target) (bindFault : Option String)
    (acts : List EndAct) :
    let start : TunnelEnd (Recorded τ) := ready settings { channel } target bindFault
    let e := start.notedRun acts
    e.status.isOver = true → Orderly e.link.record →
      e.routes.keys = [] ∧
      (∀ earlier a later, acts = earlier ++ a :: later → ∀ r, (start.notedRun earlier).Registers a r →
        e.isOpen r = false ∧ e.sockets.HasShut r.socket) ∧
      e.link.Over ∧
      (∀ earlier, earlier <+: acts → ∀ s ∈ (start.notedRun earlier).link.state.sessions,
        HasBegun s e.link.record) ∧
      (∀ s, HasBegun s e.link.record →
        e.link.record.countP (·.closes s) = if HasClosed s e.link.record then 0 else 1) ∧
      (∀ later, Rests e (e.notedRun later)) ∧
      ∀ events : List ChannelEvent,
        let x := (BusyLink.mk e.link []).run (events.map .event)
        x.Over ∧ x.link.events = e.link.events ∧
          x.link.record = e.link.record ++ (events.map .event).flatMap BusyLink.Act.answers := by
  intro start e isOver orderly
  have waits : start.Staged := .inl (unstarted_ready settings channel target bindFault)
  have done : e.Done := (waits.run orderly).done isOver
  have gone := done.through.routes
  refine ⟨gone, ?_, done.over, ?_, fun s begun => done.closes begun, fun later => done.through.run later, ?_⟩
  · rintro earlier a later rfl r registers
    refine ⟨isOpen_of_keys_nil gone r, ?_⟩
    -- the stream is there after the act or has left a closed socket, and so it is to the end of the run
    have housed := (housed_ready settings { channel } target bindFault).notedRun earlier |>.housed
    have stepped := (housed.step a).housed
    have last : e = (((start.notedRun earlier).told a).step a).notedRun later :=
      notedRun_append start earlier (a :: later)
    rw [last] at gone ⊢
    rcases housed.registers registers with has | shut
    · exact ((stepped.notedRun later).stays r has).resolve_left (not_has_of_keys_nil gone r)
    · exact (stepped.notedRun later).sockets.shut _ shut
  · rintro earlier ⟨later, rfl⟩ s mem
    have grows : (start.notedRun earlier).link.record <+: e.link.record := by
      rw [show e = _ from notedRun_append start earlier later]
      exact record_notedRun _ later
    have orderly₁ := orderly.of_prefix grows
    have began := (waits.run orderly₁).begun orderly₁ mem
    exact began.of_prefix grows
  · intro events
    have idle : (BusyLink.mk e.link []).Over := ⟨done.over, rfl⟩
    exact idle.run _

theorem nothing_survives_stop :
    let settings : Settings := { identity := "guest", peer := some "host" }
    let start := ready settings { channel := ({} : Script) } .absent none
    let before := start.notedRun [.start, .event (.connected ⟨1⟩ "host")]
    let busy := start.notedRun [.start, .event (.connected ⟨1⟩ "host"), .knock]
    let e := start.notedRun [.start, .event (.connected ⟨1⟩ "host"), .knock, .stop]
    let r : StreamRef := ⟨⟨[89, 88, 73, 113, 51, 78], rfl, rfl⟩, .client 1⟩
    e.status.isOver = true ∧ Orderly e.link.record ∧
    before.Registers .knock r ∧ busy.isOpen r = true ∧ e.isOpen r = false ∧ e.sockets.HasShut r.socket ∧
    busy.link.state.sessions = [⟨1⟩] ∧ e.link.Over ∧ e.link.record.countP (·.closes ⟨1⟩) = 1 := by
  intro settings start before busy e r
  have isOver : e.status.isOver = true := by decide +kernel
  have orderly : Orderly e.link.record := by decide +kernel
  have there : (busy.routes.get? ⟨1⟩).map (·.isOpen r) = some true := by decide +kernel
  have sessions : busy.link.state.sessions = [⟨1⟩] := by decide +kernel
  have going : ¬ HasClosed ⟨1⟩ e.link.record := by decide +kernel
  have last : busy = (before.told .knock).step .knock :=
    notedRun_append start [.start, .event (.connected ⟨1⟩ "host")] [.knock]
  have registers : before.Registers .knock r := by
    obtain ⟨m, found, isOpen⟩ := Option.map_eq_some_iff.mp there
    have moment : before.Moment .knock 0 busy := by
      rw [last]
      exact moment_step before .knock
    exact .there moment ⟨⟨1⟩, m, found, isOpen⟩
  obtain ⟨-, streams, shut, begun, closes, -, -⟩ := nothing_survives settings ({} : Script) .absent none
    [.start, .event (.connected ⟨1⟩ "host"), .knock, .stop] isOver orderly
  obtain ⟨gone, closed⟩ := streams [.start, .event (.connected ⟨1⟩ "host")] .knock [.stop] rfl r registers
  have began : HasBegun ⟨1⟩ e.link.record :=
    begun [.start, .event (.connected ⟨1⟩ "host"), .knock] ⟨[.stop], rfl⟩ ⟨1⟩ (by rw [sessions]; simp)
  have once := closes ⟨1⟩ began
  rw [if_neg going] at once
  exact ⟨isOver, orderly, registers, by decide +kernel, gone, closed, sessions, shut, once⟩

end TunnelEnd
end StreamTunnel
