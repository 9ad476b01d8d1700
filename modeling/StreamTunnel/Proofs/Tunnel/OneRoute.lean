import StreamTunnel.Proofs.Mux.Drawing
import StreamTunnel.Proofs.Tunnel.Stages

namespace StreamTunnel

namespace TunnelEnd

variable {τ : Type} {e e' : TunnelEnd (Recorded τ)} {s : SessionId} {m : Multiplexer}

/-! ## What is so between acts -/

/-- A guest at work. -/
structure Going (e : TunnelEnd (Recorded τ)) : Prop where
  status_eq : e.status = .running
  carried : e.link.Carried
  idle : e.link.events = []
  routes : e.routes.keys = e.link.state.primary.toList

/-- What can become of the sessions from one moment to the next. One that begins finds no other and has no
streams yet, and as long as there is none nothing is sent. -/
structure Change (e e' : TunnelEnd (Recorded τ)) : Prop where
  ended : ∀ s m, e.routes.get? s = some m → e'.routes.get? s = none → Ended m e e'
  begun : ∀ s m, e.routes.get? s = none → e'.routes.get? s = some m →
    e.routes.keys = [] ∧ m.entries = ∅ ∧ m.missing = []
  silent : e.routes.keys = [] → e.link.Silent e'.link

theorem Change.of_contains (same : ∀ s, e'.routes.contains s = e.routes.contains s)
    (silent : e.routes.keys = [] → e.link.Silent e'.link) : Change e e' := by
  refine ⟨fun s m there gone => ?_, fun s m gone there => ?_, silent⟩ <;>
  · have contradiction := same s
    simp [Table.contains, there, gone] at contradiction

theorem Change.of_same (same : e'.routes = e.routes) (silent : e.link.Silent e'.link) : Change e e' :=
  .of_contains (fun _ => by rw [same]) (fun _ => silent)

theorem Change.of_keys_nil (before : e.routes.keys = []) (after : e'.routes.keys = [])
    (silent : e.link.Silent e'.link) : Change e e' := by
  refine .of_contains (fun s => ?_) (fun _ => silent)
  rw [Table.contains, Table.contains, get?_of_keys_nil before, get?_of_keys_nil after]

theorem Change.of_ended (only : e.routes.keys = [s]) (there : e.routes.get? s = some m)
    (ended : Ended m e e') : Change e e' := by
  refine ⟨fun k m' there' _ => ?_, fun k m' _ there' => ?_, fun _ => ended.silent⟩
  · have mem : k ∈ e.routes.keys := List.mem_map_of_mem (f := Prod.fst) (Table.mem_of_get? there')
    rw [only, List.mem_singleton] at mem
    rw [mem, there] at there'
    exact Option.some.inj there' ▸ ended
  · rw [get?_of_keys_nil ended.gone k] at there'
    cases there'

/-! ## A guest at work -/

theorem exists_route (routes : e.routes.keys = e.link.state.primary.toList)
    (carries : e.link.state.primary = some s) : ∃ m, e.routes.get? s = some m := by
  have mem : s ∈ e.routes.keys := by
    rw [routes, carries]
    exact List.mem_singleton_self s
  exact Option.isSome_iff_exists.mp (Table.contains_iff_mem_keys.mpr mem)

theorem Going.primary_of_route (h : e.Going) (there : e.routes.get? s = some m) :
    e.link.state.primary = some s := by
  have mem : s ∈ e.routes.keys := List.mem_map_of_mem (f := Prod.fst) (Table.mem_of_get? there)
  rwa [h.routes, Option.mem_toList] at mem

theorem Going.isRunning (h : e.Going) : e.status.isRunning = true := by
  rw [RunStatus.isRunning, decide_eq_true_iff]
  exact h.status_eq

theorem Going.relink (h : e.Going) {l : Link (Recorded τ)} (same : e.link.Idles l) :
    Going { e with link := l } := by
  have carried := h.carried.idles same
  obtain ⟨quality, c, extra, rfl, -⟩ := same
  exact ⟨h.status_eq, carried, h.idle, h.routes⟩

theorem Going.work (h : e.Going) {f : Desk (Link (Recorded τ)) → Desk (Link (Recorded τ))}
    (uses : ∀ d : Desk (Link (Recorded τ)), d.outlet.Uses (f d).outlet) (s : SessionId) :
    (e.work s f).Going := by
  cases there : e.routes.get? s with
  | none =>
      rw [work_of_none there]
      exact h
  | some m =>
      have carries := h.primary_of_route there
      have next := h.relink (uses (e.desk m)).idles
      have only : e.routes.keys = [s] := by rw [h.routes, carries, Option.toList_some]
      rw [work_of_some there]
      refine ⟨next.status_eq, next.carried, next.idle, ?_⟩
      exact (Table.keys_insert_of_singleton only _).trans (only.symm.trans next.routes)

theorem Going.closeSession (h : e.Going) (only : e.routes.keys = [s]) {l : Link (Recorded τ)}
    (carried : l.Carried) (vacant : l.state.primary = none) (idle : l.events = []) :
    (TunnelEnd.closeSession s { e with link := l }).Going := by
  have link := link_closeSession s { e with link := l }
  have gone : (TunnelEnd.closeSession s { e with link := l }).routes.keys = [] :=
    keys_closeSession_of_singleton only
  refine ⟨(status_closeSession s _).trans h.status_eq, link ▸ carried, link ▸ idle, ?_⟩
  rw [gone, link, vacant, Option.toList_none]

theorem Going.opens (h : e.Going) {l : Link (Recorded τ)} (carried : l.Carried) (idle : l.events = [])
    (silent : e.link.Silent l) (before : e.link.state.primary = none) (after : l.state.primary = some s) :
    let e' := ({ e with link := l } : TunnelEnd (Recorded τ)).openSession s
    e'.Going ∧ Change e e' := by
  let e₁ : TunnelEnd (Recorded τ) := { e with link := l }
  have empty : e.routes.keys = [] := by rw [h.routes, before, Option.toList_none]
  have nothing : e₁.routes.get? s = none := get?_of_keys_nil empty s
  have opened : e₁.openSession s = { e₁ with routes := e₁.routes.insert s e₁.fresh } := by
    rw [openSession, work_of_none nothing]
  refine ⟨?_, fun k m there => ?_, fun k m _ there => ⟨empty, ?_⟩, fun _ => ?_⟩
  · change (e₁.openSession s).Going
    rw [opened]
    refine ⟨h.status_eq, carried, idle, (Table.keys_insert_of_empty empty s _).trans ?_⟩
    change [s] = l.state.primary.toList
    rw [after, Option.toList_some]
  · rw [get?_of_keys_nil empty k] at there
    cases there
  · rw [get?_openSession] at there
    split at there
    · obtain rfl := Option.some.inj there
      exact ⟨rfl, rfl⟩
    · rw [get?_of_keys_nil (e := e₁) empty k] at there
      cases there
  · rw [link_openSession]
    exact silent

variable [Channel τ]

theorem Going.handOnce (h : e.Going) : e.handOnce.Going := by
  rw [TunnelEnd.handOnce]
  cases e.next? with
  | none => exact ⟨h.status_eq, h.carried, h.idle, h.routes⟩
  | some found =>
      have attached : (e.attach found.1).2.Going := by
        cases carries : e.link.state.primary with
        | none =>
            rw [attach_of_none carries]
            exact ⟨h.status_eq, h.carried, h.idle, h.routes⟩
        | some s =>
            obtain ⟨m, there⟩ := exists_route h.routes carries
            rw [attach_of_route carries there]
            exact h.work (Desk.uses_attach s found.1) s
      exact ⟨attached.status_eq, attached.carried, attached.idle, attached.routes⟩

theorem Going.handOnces (h : e.Going) (n : Nat) : (TunnelEnd.handOnce^[n] e).Going := by
  induction n generalizing e with
  | zero => exact h
  | succ n ih => exact ih h.handOnce

theorem drive_rest (running : e.status = .running) {rest : List LinkEvent}
    (link : ∀ ev ∈ rest, ev.isOfLink = true) :
    rest.foldl drive e = e ∨ ∃ status, status.isOver = true ∧ rest.foldl drive e = e.finish status := by
  induction rest with
  | nil => exact .inl rfl
  | cons ev rest ih =>
      rw [List.forall_mem_cons] at link
      rw [List.foldl_cons]
      cases ev with
      | reconnecting n port =>
          rw [drive_reconnecting]
          exact ih link.2
      | disconnected reason =>
          right
          have isRunning : e.status.isRunning = true := by rw [running]; rfl
          rw [drive_disconnected isRunning, drives_of_not_running rfl]
          exact ⟨_, rfl, rfl⟩
      | opened | closed | message => cases link.1

theorem Going.ends (h : e.Going) {l : Link (Recorded τ)} (carried : l.Carried) (idle : l.events = [])
    (silent : e.link.Silent l) (before : e.link.state.primary = some s) (after : l.state.primary = none)
    {rest : List LinkEvent} (link : ∀ ev ∈ rest, ev.isOfLink = true) :
    let e' := rest.foldl drive (({ e with link := l } : TunnelEnd (Recorded τ)).closeSession s)
    (e'.Going ∨ e'.Through) ∧ Change e e' := by
  let e₁ : TunnelEnd (Recorded τ) := { e with link := l }
  have only : e.routes.keys = [s] := by rw [h.routes, before, Option.toList_some]
  obtain ⟨m, there⟩ := exists_route h.routes before
  have closed : (e₁.closeSession s).Going := h.closeSession only carried after idle
  have ended : Ended m e (e₁.closeSession s) := (ended_closeSession (e := e₁) only there).after rfl silent
  dsimp only
  rcases drive_rest closed.status_eq link with same | ⟨status, isOver, finished⟩
  · rw [same]
    exact ⟨.inl closed, .of_ended only there ended⟩
  · rw [finished]
    exact ⟨.inr (through_finish isOver _), .of_ended only there (ended.finish status)⟩

theorem Going.hear (h : e.Going) {l : Link (Recorded τ)} (carried : l.Carried) (turn : e.link.Turn l)
    (silent : e.link.Silent l) :
    let e' := ({ e with link := l } : TunnelEnd (Recorded τ)).driveAll
    (e'.Going ∨ e'.Through) ∧ Change e e' := by
  let e₁ : TunnelEnd (Recorded τ) := { e with link := { l with events := [] } }
  have running : e₁.status.isRunning = true := h.isRunning
  have carried₁ : e₁.link.Carried := ⟨carried.role, carried.running, carried.active_keys, carried.apart,
    carried.only, carried.connected, carried.accepts⟩
  have going (same : l.state.primary = e.link.state.primary) : e₁.Going :=
    ⟨h.status_eq, carried₁, rfl, h.routes.trans (congrArg Option.toList same.symm)⟩
  change ((l.events.foldl drive e₁).Going ∨ (l.events.foldl drive e₁).Through) ∧
    Change e (l.events.foldl drive e₁)
  cases turn with
  | quiet primary events =>
      rw [events, List.foldl_nil]
      exact ⟨.inl (going primary), .of_same rfl silent⟩
  | message s data primary events =>
      rw [events, List.foldl_cons, List.foldl_nil, drive_message running]
      refine ⟨.inl ((going primary).work (Desk.uses_packet s data) s), ?_⟩
      refine .of_contains (fun k => contains_work s k _ e₁) (fun empty => ?_)
      rw [work_of_none (e := e₁) (get?_of_keys_nil empty s)]
      exact silent
  | opened s peer before after events =>
      rw [events, List.foldl_cons, List.foldl_nil, drive_opened running]
      obtain ⟨opened, changes⟩ := h.opens carried₁ rfl silent before after
      exact ⟨.inl opened, changes⟩
  | ended s reason rest before after events link =>
      rw [events, List.foldl_cons, drive_closed running]
      exact h.ends carried₁ rfl silent before after link
  | tried before after link =>
      have idle : e₁.Going := going (after.trans before.symm)
      have empty : e.routes.keys = [] := by rw [h.routes, before, Option.toList_none]
      rcases drive_rest idle.status_eq link with same | ⟨status, isOver, finished⟩
      · rw [same]
        exact ⟨.inl idle, .of_same rfl silent⟩
      · rw [finished]
        have last : e.link.Silent (e₁.finish status).link := silent.trans (silent_finish status e₁)
        exact ⟨.inr (through_finish isOver e₁), .of_keys_nil empty (keys_closeAll e₁) last⟩

theorem Going.change_finish (h : e.Going) (status : RunStatus) : Change e (e.finish status) := by
  cases carries : e.link.state.primary with
  | none =>
      have empty : e.routes.keys = [] := by rw [h.routes, carries, Option.toList_none]
      exact .of_keys_nil empty (keys_closeAll e) (silent_finish status e)
  | some s =>
      have only : e.routes.keys = [s] := by rw [h.routes, carries, Option.toList_some]
      obtain ⟨m, there⟩ := exists_route h.routes carries
      have ended := (ended_closeSession only there).finish status
      rw [← switch_closeAll_of_singleton only, finish_closeAll] at ended
      exact .of_ended only there ended

theorem Going.take_event (h : e.Going) (ev : ChannelEvent)
    (lawful : Lawful ((e.told (.event ev)).take (.event ev)).link.record) :
    let e' := (e.told (.event ev)).take (.event ev)
    (e'.Going ∨ e'.Through) ∧ Change e e' := by
  dsimp only
  cases deaf : e.isDeaf with
  | true =>
      have ignored : (e.told (.event ev)).take (.event ev) = e := by
        rw [told, if_pos deaf, TunnelEnd.take, if_pos deaf]
      rw [ignored]
      exact ⟨.inl h, .of_same rfl (.of_record_eq rfl)⟩
  | false =>
      have heard : (e.told (.event ev)).take (.event ev) =
          ({ e with link := ((e.link.hear ev).handle ev).2 } : TunnelEnd (Recorded τ)).driveAll := by
        have listens : ¬ e.isDeaf = true := by simp [deaf]
        have begun : ¬ e.status = .notStarted := by simp [h.status_eq]
        rw [told, if_neg listens, TunnelEnd.take, if_neg listens, if_neg begun, if_pos h.isRunning]
      rw [heard] at lawful ⊢
      have grows := record_driveAll { e with link := ((e.link.hear ev).handle ev).2 }
      obtain ⟨carried, turn⟩ := h.carried.hear h.idle ev (lawful.of_prefix grows)
      exact h.hear carried turn ((Link.silent_hear ev e.link).trans (Link.silent_handle ev _))

theorem Going.take_far (h : e.Going) (socket : SocketId) (a : FarAct) : (e.take (.far socket a)).Going := by
  let e₁ : TunnelEnd (Recorded τ) := { e with sockets := (e.sockets.act socket a).2 }
  have going : e₁.Going := ⟨h.status_eq, h.carried, h.idle, h.routes⟩
  rw [TunnelEnd.take_far]
  change ((e₁.board.owner? socket).elim e₁ _).Going
  cases e₁.board.owner? socket with
  | none => exact going
  | some s => exact going.work (Desk.uses_readSocket s socket) s

theorem Going.stop_eq (h : e.Going) :
    e.stop = ({ e with stopRequested := true } : TunnelEnd (Recorded τ)).finish .finished := by
  rw [stop]
  exact if_pos h.isRunning

theorem Going.through_stop (h : e.Going) : e.stop.Through := by
  rw [h.stop_eq]
  exact through_finish rfl _

theorem Going.change_stop (h : e.Going) : Change e e.stop := by
  have asked : Going { e with stopRequested := true } := ⟨h.status_eq, h.carried, h.idle, h.routes⟩
  have finishes := asked.change_finish .finished
  rw [h.stop_eq]
  refine ⟨fun s m there gone => ?_, finishes.begun, finishes.silent⟩
  have ended := finishes.ended s m there gone
  exact ⟨ended.gone, ended.closed, ended.silent⟩

theorem Going.take (h : e.Going) (a : EndAct) (lawful : Lawful ((e.told a).take a).link.record) :
    (((e.told a).take a).Going ∨ ((e.told a).take a).Through) ∧ Change e ((e.told a).take a) := by
  cases a with
  | start =>
      have begun : ¬ e.status = .notStarted := by simp [h.status_eq]
      have again : (e.told .start).take .start = e := by
        change e.run.2 = e
        rw [run, if_neg begun]
      rw [again]
      exact ⟨.inl h, .of_same rfl (.of_record_eq rfl)⟩
  | event ev => exact h.take_event ev lawful
  | endEvents =>
      exact ⟨.inl ⟨h.status_eq, h.carried, h.idle, h.routes⟩, .of_same rfl (.of_record_eq rfl)⟩
  | knock =>
      change (((e.take .knock).Going ∨ (e.take .knock).Through) ∧ Change e (e.take .knock))
      rw [TunnelEnd.take]
      split
      · exact ⟨.inl h, .of_same rfl (.of_record_eq rfl)⟩
      · exact ⟨.inl ⟨h.status_eq, h.carried, h.idle, h.routes⟩, .of_same rfl (.of_record_eq rfl)⟩
  | far socket a =>
      refine ⟨.inl (h.take_far socket a), .of_contains (contains_take_far e socket a) (fun empty => ?_)⟩
      change e.link.Silent (e.take (.far socket a)).link
      rw [take_far_of_keys_nil empty]
      exact .of_record_eq rfl
  | pass elapsed =>
      change ((e.pass elapsed).Going ∨ (e.pass elapsed).Through) ∧ Change e (e.pass elapsed)
      rw [pass, sample, if_pos h.isRunning]
      split
      · exact ⟨.inl (h.relink (Link.idles_samplePing e.link)), .of_same rfl (Link.silent_samplePing e.link)⟩
      · exact ⟨.inl h, .of_same rfl (.of_record_eq rfl)⟩
  | stop => exact ⟨.inr h.through_stop, h.change_stop⟩

/-! ## The start -/

theorem Going.hear_early (h : e.Going) {p : SessionId} (pending : e.link.state.pending = some p)
    {ev : ChannelEvent} (early : ev.Early p) :
    (e.hear ev).Going ∧ (e.hear ev).link.state.pending = some p ∧ e.link.Silent (e.hear ev).link := by
  obtain ⟨carried, still, events⟩ := h.carried.handle_early pending early
  have silent := Link.silent_handle ev e.link
  rw [h.idle] at events
  rw [TunnelEnd.hear, if_pos h.isRunning]
  generalize (e.link.handle ev).2 = l at carried still events silent
  have before : e.link.state.primary = none := h.carried.apart.resolve_left (by simp [pending])
  have after : l.state.primary = none := carried.apart.resolve_left (by simp [still])
  rw [driveAll_of_nil (by exact events), handOn_eq]
  obtain ⟨acceptor, sockets, same⟩ := handOnces_of_vacant (e := { e with link := l }) after
    (e.acceptor.waiting.length + 1)
  rw [same]
  exact ⟨⟨h.status_eq, carried, events, by rw [h.routes, before, after]⟩, still, silent⟩

theorem Going.hears_early (h : e.Going) {p : SessionId} (pending : e.link.state.pending = some p)
    {events : List ChannelEvent} (early : ∀ ev ∈ events, ev.Early p) :
    (events.foldl TunnelEnd.hear e).Going ∧ (events.foldl TunnelEnd.hear e).link.state.pending = some p ∧
      e.link.Silent (events.foldl TunnelEnd.hear e).link := by
  induction events generalizing e with
  | nil => exact ⟨h, pending, .of_record_eq rfl⟩
  | cons ev rest ih =>
      rw [List.forall_mem_cons] at early
      obtain ⟨next, still, silent⟩ := h.hear_early pending early.1
      obtain ⟨last, still, silent'⟩ := ih next still early.2
      exact ⟨last, still, silent.trans silent'⟩

theorem Unstarted.setUp_cases (h : e.Unstarted) (guest : e.settings.role = .guest) :
    (∃ err e₁, setUp { e with status := .running } = (.error err, e₁) ∧ e.link.Silent e₁.link) ∨
      ∃ p e₁, setUp { e with status := .running } = (.ok (), e₁) ∧ e.link.Silent e₁.link ∧ e₁.Going ∧
        e₁.link.state.pending = some p ∧ e₁.inbox = e.inbox ∧
        ∃ call, e₁.link.record = e.inbox.map .told ++ [.asked call, .gave p] := by
  have connects {s : SessionId} (given : (e.link.connect (e.settings.peer.getD "")).1 = .ok s) :=
    Link.carried_connect h.state_eq h.ungiven given
  have silent := Link.silent_connect (e.settings.peer.getD "") e.link
  rw [setUp]
  dsimp only
  rw [guest]
  dsimp only
  cases e.bindFault with
  | some detail => exact .inl ⟨_, _, rfl, .of_record_eq rfl⟩
  | none =>
      dsimp only
      generalize e.link.connect (e.settings.peer.getD "") = r at connects silent
      obtain ⟨result, l⟩ := r
      cases result with
      | error err => exact .inl ⟨_, _, rfl, silent⟩
      | ok p =>
          obtain ⟨carried, pending, events, port, timeout, noted⟩ := connects rfl
          rw [h.noted] at noted
          dsimp only at carried pending events
          have vacant := carried.apart.resolve_left (by simp [pending])
          refine .inr ⟨p, _, rfl, silent, ⟨rfl, carried, events.trans h.idle, ?_⟩, pending, rfl, _, noted⟩
          exact h.routes.trans (by rw [vacant, Option.toList_none])

theorem Unstarted.start (h : e.Unstarted) (guest : e.settings.role = .guest)
    (lawful : Lawful e.run.2.link.record) :
    (e.run.2.Going ∨ e.run.2.Through) ∧ e.run.2.routes.keys = [] ∧ e.link.Silent e.run.2.link := by
  have finished {status : RunStatus} (isOver : status.isOver = true) {e₁ : TunnelEnd (Recorded τ)}
      (silent : e.link.Silent e₁.link) : ((e₁.finish status).Going ∨ (e₁.finish status).Through) ∧
        (e₁.finish status).routes.keys = [] ∧ e.link.Silent (e₁.finish status).link :=
    ⟨.inr (through_finish isOver e₁), keys_closeAll e₁, silent.trans (silent_finish status e₁)⟩
  rw [h.run_eq] at lawful ⊢
  rcases h.setUp_cases guest with ⟨err, e₁, failed, silent⟩ |
    ⟨p, e₁, begun, silent, going, pending, inbox, call, noted⟩
  · rw [failed]
    exact finished rfl silent
  · rw [begun] at lawful ⊢
    dsimp only at lawful ⊢
    by_cases stops : e₁.stopRequested = true
    · rw [if_pos stops]
      exact finished rfl silent
    · rw [if_neg stops] at lawful ⊢
      have grows := record_hears e₁.inbox { e₁ with inbox := [] }
      have given := lawful.of_prefix grows
      change Lawful e₁.link.record at given
      rw [noted] at given
      have early : ∀ ev ∈ e₁.inbox, ev.Early p := fun ev mem => early_of_lawful given (inbox ▸ mem)
      have going₁ : Going { e₁ with inbox := [] } := ⟨going.status_eq, going.carried, going.idle, going.routes⟩
      obtain ⟨going, pending, silent'⟩ := going₁.hears_early pending early
      refine ⟨.inl going, ?_, silent.trans silent'⟩
      rw [going.routes, going.carried.apart.resolve_left (by simp [pending]), Option.toList_none]

/-! ## Runs -/

def Between (e : TunnelEnd (Recorded τ)) : Prop :=
  e.Unstarted ∧ e.settings.role = .guest ∨ e.Going ∨ e.Through

omit [Channel τ] in
theorem Between.routes (h : e.Between) : e.routes.keys = e.link.state.primary.toList := by
  rcases h with ⟨waits, -⟩ | going | through
  · rw [waits.routes, waits.vacant, Option.toList_none]
  · exact going.routes
  · rw [through.routes, through.vacant, Option.toList_none]

theorem Between.take (h : e.Between) (a : EndAct) (lawful : Lawful ((e.told a).take a).link.record) :
    ((e.told a).take a).Between ∧ Change e ((e.told a).take a) := by
  rcases h with ⟨waits, guest⟩ | going | through
  · by_cases starts : a = .start
    · subst starts
      obtain ⟨next, none, silent⟩ := waits.start guest lawful
      exact ⟨.inr next, .of_keys_nil waits.routes none silent⟩
    · obtain ⟨next, settings, silent⟩ := waits.take starts
      exact ⟨.inl ⟨next, settings ▸ guest⟩, .of_keys_nil waits.routes next.routes silent⟩
  · obtain ⟨next, changes⟩ := going.take a lawful
    exact ⟨.inr next, changes⟩
  · have rests := through.take a
    have silent : e.link.Silent ((e.told a).take a).link := .of_record_eq (congrArg Link.record rests.link_eq)
    exact ⟨.inr (.inr rests.through), .of_keys_nil through.routes rests.through.routes silent⟩

theorem Between.handOnces (h : e.Between) (n : Nat) : (TunnelEnd.handOnce^[n] e).Between := by
  rcases h with ⟨waits, guest⟩ | going | through
  · obtain ⟨still, settings⟩ := waits.handOnces n
    exact .inl ⟨still, settings ▸ guest⟩
  · exact .inr (.inl (going.handOnces n))
  · exact .inr (.inr (through.handOnces n).through)

theorem Between.run {start : TunnelEnd (Recorded τ)} (h : start.Between) {acts : List EndAct}
    (lawful : Lawful (start.notedRun acts).link.record) : (start.notedRun acts).Between :=
  kept_notedRun Lawful.of_prefix (fun a between lawful => (between.take a lawful).1)
    (fun n between => between.handOnces n) h lawful

/-! ## Clients -/

end TunnelEnd
end StreamTunnel
