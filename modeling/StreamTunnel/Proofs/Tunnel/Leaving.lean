import StreamTunnel.Proofs.Mux.Leaving
import StreamTunnel.Proofs.Tunnel.Endings

namespace StreamTunnel

namespace TunnelEnd

section

variable {σ : Type} {e e' : TunnelEnd σ} {s : SessionId} {m : Multiplexer} {r : StreamRef}

def Has (r : StreamRef) (e : TunnelEnd σ) : Prop :=
  ∃ s m, e.routes.get? s = some m ∧ m.isOpen r = true

structure Housed (e : TunnelEnd σ) : Prop where
  numbered : e.sockets.Numbered
  there : ∀ r, e.Has r → e.sockets.pipes.contains r.socket = true
  waiting : ∀ c ∈ e.acceptor.waiting, e.sockets.pipes.contains c = true

structure Leaves (e e' : TunnelEnd σ) : Prop where
  housed : e'.Housed
  sockets : e.sockets.Grows e'.sockets
  stays : ∀ r, e.Has r → e'.Has r ∨ e'.sockets.HasShut r.socket

theorem not_has_of_keys_nil (empty : e.routes.keys = []) (r : StreamRef) : ¬ e.Has r := by
  rintro ⟨s, m, there, -⟩
  rw [get?_of_keys_nil empty s] at there
  cases there

theorem housed_ready (settings : Settings) (channel : σ) (target : Target) (bindFault : Option String) :
    (ready settings channel target bindFault).Housed := by
  refine ⟨⟨fun n there => ?_, fun n there => ?_⟩, fun r has => ?_, fun c mem => ?_⟩
  · cases there
  · cases there
  · exact absurd has (not_has_of_keys_nil rfl r)
  · cases mem

theorem Leaves.refl (h : e.Housed) : e.Leaves e :=
  ⟨h, .refl h.numbered, fun _ has => .inl has⟩

theorem Leaves.trans {e'' : TunnelEnd σ} (first : e.Leaves e') (second : e'.Leaves e'') : e.Leaves e'' := by
  refine ⟨second.housed, first.sockets.trans second.sockets, fun r has => ?_⟩
  rcases first.stays r has with still | shut
  · exact second.stays r still
  · exact .inr (second.sockets.shut _ shut)

theorem Housed.keep (h : e.Housed) (routes : e'.routes = e.routes) (grows : e.sockets.Grows e'.sockets)
    (waiting : ∀ c ∈ e'.acceptor.waiting, c ∈ e.acceptor.waiting ∨ e'.sockets.pipes.contains c = true) :
    e.Leaves e' := by
  have same (r : StreamRef) : e'.Has r ↔ e.Has r := by rw [Has, Has, routes]
  refine ⟨⟨grows.numbered, fun r has => ?_, fun c mem => ?_⟩, grows, fun r has => .inl ((same r).mpr has)⟩
  · exact grows.there _ (h.there r ((same r).mp has))
  · rcases waiting c mem with old | there
    · exact grows.there c (h.waiting c old)
    · exact there

theorem Housed.same (h : e.Housed) (routes : e'.routes = e.routes) (sockets : e'.sockets = e.sockets)
    (waiting : e'.acceptor.waiting = e.acceptor.waiting) : e.Leaves e' :=
  h.keep routes (sockets.symm ▸ .refl h.numbered) fun _ mem => .inl (waiting ▸ mem)

theorem Housed.desk (h : e.Housed) (there : e.routes.get? s = some m) : (e.desk m).Housed :=
  ⟨h.numbered, fun r isOpen => h.there r ⟨s, m, there, isOpen⟩⟩

theorem Housed.work (h : e.Housed) {s : SessionId} {f : Desk (Link σ) → Desk (Link σ)}
    (leaves : ∀ m, e.routes.get? s = some m → (e.desk m).Leaves (f (e.desk m))) : e.Leaves (e.work s f) := by
  cases there : e.routes.get? s with
  | none =>
      rw [work_of_none there]
      exact .refl h
  | some m =>
      have desk := leaves m there
      have sockets : (e.work s f).sockets = (f (e.desk m)).sockets := by rw [work_of_some there]
      have acceptor : (e.work s f).acceptor = e.acceptor := by rw [work_of_some there]
      have own : (e.work s f).routes.get? s = some (f (e.desk m)).mux := by
        rw [get?_work, if_pos rfl, there, Option.map_some]
      have others {k : SessionId} (other : k ≠ s) : (e.work s f).routes.get? k = e.routes.get? k := by
        rw [get?_work, if_neg other]
      refine ⟨⟨sockets ▸ desk.housed.numbered, fun r has => ?_, fun c mem => ?_⟩, sockets ▸ desk.sockets,
        fun r has => ?_⟩
      · obtain ⟨k, m', found, isOpen⟩ := has
        rw [sockets]
        by_cases same : k = s
        · rw [same, own] at found
          obtain rfl := Option.some.inj found
          exact desk.housed.there r isOpen
        · rw [others same] at found
          exact desk.sockets.there _ (h.there r ⟨k, m', found, isOpen⟩)
      · rw [acceptor] at mem
        rw [sockets]
        exact desk.sockets.there c (h.waiting c mem)
      · obtain ⟨k, m', found, isOpen⟩ := has
        rw [sockets]
        by_cases same : k = s
        · rw [same, there] at found
          obtain rfl := Option.some.inj found
          exact (desk.stays r isOpen).imp_left fun still => ⟨s, _, own, still⟩
        · exact .inl ⟨k, m', (others same).trans found, isOpen⟩

theorem Housed.renew (h : e.Housed) (s : SessionId) {routes : Table SessionId Multiplexer}
    (others : ∀ k, k ≠ s → routes.get? k = e.routes.get? k)
    (new : ∀ m r, routes.get? s = some m → m.isOpen r = false) :
    e.Leaves { e.work s (·.teardown) with routes } := by
  -- first the streams of the session end, then its multiplexer is replaced or dropped
  have ended : e.Leaves (e.work s (·.teardown)) := h.work fun _ there => (h.desk there).teardown
  have same {k : SessionId} (other : k ≠ s) : (e.work s (·.teardown)).routes.get? k = routes.get? k := by
    rw [get?_work, if_neg other, others k other]
  have gone {m : Multiplexer} (found : (e.work s (·.teardown)).routes.get? s = some m) (r : StreamRef) :
      m.isOpen r = false := by
    rw [get?_work, if_pos rfl, Option.map_eq_some_iff] at found
    obtain ⟨m', -, rfl⟩ := found
    rfl
  refine ⟨⟨ended.housed.numbered, fun r has => ?_, ended.housed.waiting⟩, ended.sockets, fun r has => ?_⟩
  · obtain ⟨k, m, found, isOpen⟩ := has
    have other : k ≠ s := by
      rintro rfl
      rw [new m r found] at isOpen
      cases isOpen
    exact ended.housed.there r ⟨k, m, (same other).trans found, isOpen⟩
  · refine (ended.stays r has).imp_left ?_
    rintro ⟨k, m, found, isOpen⟩
    have other : k ≠ s := by
      rintro rfl
      rw [gone found r] at isOpen
      cases isOpen
    exact ⟨k, m, (same other).symm.trans found, isOpen⟩

theorem Housed.openSession (h : e.Housed) (s : SessionId) : e.Leaves (e.openSession s) := by
  refine h.renew s (fun k other => (get?_openSession s k e).trans (if_neg other)) fun m r found => ?_
  replace found : (e.openSession s).routes.get? s = some m := found
  rw [get?_openSession, if_pos rfl] at found
  obtain rfl := Option.some.inj found
  rfl

theorem Housed.closeSession (h : e.Housed) (s : SessionId) : e.Leaves (e.closeSession s) := by
  refine h.renew s (fun k other => (get?_closeSession s k e).trans (if_neg other)) fun m r found => ?_
  replace found : (e.closeSession s).routes.get? s = some m := found
  rw [get?_closeSession, if_pos rfl] at found
  cases found

theorem Housed.closeSessions (h : e.Housed) (keys : List SessionId) :
    e.Leaves (keys.foldl (fun e s => e.closeSession s) e) := by
  induction keys generalizing e with
  | nil => exact .refl h
  | cons s rest ih =>
      have first := h.closeSession s
      exact first.trans (ih first.housed)

theorem Housed.closeAll (h : e.Housed) : e.Leaves (e.switch (·.closeAll)) := by
  rw [switch_closeAll]
  exact h.closeSessions _

theorem Housed.closeSocket (h : e.Housed) (c : SocketId) : e.Leaves (e.closeSocket c) :=
  h.keep rfl (h.numbered.modify c fun _ _ => rfl) fun _ mem => .inl mem

theorem next?_waiting {c : SocketId} {a : Acceptor} (next : e.next? = some (c, a)) :
    e.acceptor.waiting = c :: a.waiting := by
  rw [next?, Acceptor.next?, Acceptor.release] at next
  dsimp only at next
  split at next
  · split at next
    · cases next
    · next _ _ waiting =>
      cases next
      exact waiting
  · cases next

variable [Channel σ]

theorem Housed.finish (h : e.Housed) (status : RunStatus) : e.Leaves (e.finish status) := by
  have closes (waiting : List SocketId) (t : Sockets) (numbered : t.Numbered) :
      t.Grows (waiting.foldl (fun t c => t.modify c Pipe.closeNear) t) := by
    induction waiting generalizing t with
    | nil => exact .refl numbered
    | cons c rest ih =>
        have first := numbered.modify c (f := Pipe.closeNear) fun _ _ => rfl
        exact first.trans (ih _ first.numbered)
  have ended := h.closeAll
  exact ended.trans (ended.housed.keep rfl (closes _ _ ended.housed.numbered) fun _ mem => nomatch mem)

theorem Housed.drive (h : e.Housed) (ev : LinkEvent) : e.Leaves (e.drive ev) := by
  cases running : e.status.isRunning with
  | false =>
      rw [drive_of_not_running running]
      exact .refl h
  | true =>
      cases ev with
      | opened s peer =>
          rw [drive_opened running]
          exact h.openSession s
      | closed s reason =>
          rw [drive_closed running]
          exact h.closeSession s
      | message s data =>
          rw [drive_message running]
          exact h.work fun _ there => (h.desk there).packet (outlet s) data
      | reconnecting n port =>
          rw [drive_reconnecting]
          exact .refl h
      | disconnected reason =>
          rw [drive_disconnected running]
          exact h.finish _

theorem Housed.driveAll (h : e.Housed) : e.Leaves e.driveAll := by
  have drives (events : List LinkEvent) {e : TunnelEnd σ} (h : e.Housed) :
      e.Leaves (events.foldl TunnelEnd.drive e) := by
    induction events generalizing e with
    | nil => exact .refl h
    | cons ev rest ih =>
        have first := h.drive ev
        exact first.trans (ih first.housed)
  have taken : e.Leaves { e with link := { e.link with events := [] } } := h.same rfl rfl rfl
  exact taken.trans (drives e.link.events taken.housed)

theorem Housed.attach (h : e.Housed) {c : SocketId} (there : e.sockets.pipes.contains c = true) :
    e.Leaves (e.attach c).2 ∧ ∀ r, (e.attach c).1 = some r →
      (e.attach c).2.Has r ∨ (e.attach c).2.sockets.HasShut r.socket := by
  cases carries : e.link.state.primary with
  | none =>
      rw [attach_of_none carries]
      exact ⟨h.closeSocket c, by simp⟩
  | some s =>
      cases found : e.routes.get? s with
      | none =>
          rw [attach_of_no_route carries found]
          exact ⟨h.closeSocket c, by simp⟩
      | some m =>
          obtain ⟨-, given⟩ := (h.desk found).attach (outlet s) there
          rw [attach_of_route carries found]
          refine ⟨h.work fun _ routed => ((h.desk routed).attach (outlet s) there).1, fun r gets => ?_⟩
          refine (given r gets).imp (fun isOpen => ?_) (fun shut => ?_)
          · exact ⟨s, _, by rw [get?_work, if_pos rfl, found, Option.map_some], isOpen⟩
          · rwa [work_of_some found]

theorem Housed.handOnce (h : e.Housed) :
    e.Leaves e.handOnce ∧ ∀ c a r, e.next? = some (c, a) → (e.attach c).1 = some r →
      e.handOnce.Has r ∨ e.handOnce.sockets.HasShut r.socket := by
  rw [TunnelEnd.handOnce]
  cases next : e.next? with
  | none => exact ⟨h.same rfl rfl rfl, by simp⟩
  | some found =>
      obtain ⟨c, a⟩ := found
      have waiting := next?_waiting next
      obtain ⟨attached, given⟩ := h.attach (h.waiting c (waiting ▸ List.mem_cons_self))
      have handed (r : Option StreamRef) : (a.handed r).waiting = a.waiting := by
        rw [Acceptor.handed]
        split <;> rfl
      have last : (e.attach c).2.Leaves { (e.attach c).2 with acceptor := a.handed (e.attach c).1 } := by
        refine attached.housed.keep rfl (.refl attached.housed.numbered) fun k mem => .inr ?_
        rw [handed] at mem
        exact attached.sockets.there k (h.waiting k (waiting ▸ List.mem_cons_of_mem c mem))
      refine ⟨attached.trans last, ?_⟩
      rintro _ _ r ⟨⟩ gets
      exact given r gets

theorem Housed.handOnces (h : e.Housed) (n : Nat) : e.Leaves (TunnelEnd.handOnce^[n] e) := by
  induction n generalizing e with
  | zero => exact .refl h
  | succ n ih =>
      have first := h.handOnce.1
      exact first.trans (ih first.housed)

theorem Housed.handOn (h : e.Housed) : e.Leaves e.handOn := by
  rw [handOn_eq]
  exact h.handOnces _

theorem Housed.hear (h : e.Housed) (ev : ChannelEvent) : e.Leaves (e.hear ev) := by
  rw [TunnelEnd.hear]
  split
  · have handled : e.Leaves { e with link := (e.link.handle ev).2 } := h.same rfl rfl rfl
    have driven := handled.trans handled.housed.driveAll
    exact driven.trans driven.housed.handOn
  · exact .refl h

theorem Housed.hears (h : e.Housed) (events : List ChannelEvent) :
    e.Leaves (events.foldl TunnelEnd.hear e) := by
  induction events generalizing e with
  | nil => exact .refl h
  | cons ev rest ih =>
      have first := h.hear ev
      exact first.trans (ih first.housed)

theorem Housed.sample (h : e.Housed) : e.Leaves e.sample := by
  rw [TunnelEnd.sample]
  split
  · exact h.same rfl rfl rfl
  · exact .refl h

theorem Housed.setUp (h : e.Housed) : e.Leaves e.setUp.2 := by
  have same {e' : TunnelEnd σ} (routes : e'.routes = e.routes) (sockets : e'.sockets = e.sockets)
      (waiting : e'.acceptor.waiting = e.acceptor.waiting) : e.Leaves e' := h.same routes sockets waiting
  rw [TunnelEnd.setUp]
  split
  · split <;> exact same rfl rfl rfl
  · split
    · exact .refl h
    · dsimp only
      split <;> exact same rfl rfl rfl

theorem Housed.run (h : e.Housed) : e.Leaves e.run.2 := by
  rw [TunnelEnd.run]
  split
  · have started : e.Leaves { e with status := .running } := h.same rfl rfl rfl
    have sampled := started.trans started.housed.sample
    have begun := sampled.trans sampled.housed.setUp
    dsimp only
    generalize ({ e with status := .running } : TunnelEnd σ).sample.setUp = r at begun
    obtain ⟨result, e'⟩ := r
    cases result with
    | error err => exact begun.trans (begun.housed.finish _)
    | ok done =>
        dsimp only
        split
        · exact begun.trans (begun.housed.finish _)
        · have emptied : e'.Leaves { e' with inbox := [] } := begun.housed.same rfl rfl rfl
          exact begun.trans (emptied.trans (emptied.housed.hears e'.inbox))
  · exact .refl h

theorem Housed.take (h : e.Housed) (a : EndAct) : e.Leaves (e.take a) := by
  cases a with
  | start => exact h.run
  | event ev =>
      rw [TunnelEnd.take]
      split
      · exact .refl h
      · split
        · exact h.same rfl rfl rfl
        · split
          · have handled : e.Leaves { e with link := (e.link.handle ev).2 } := h.same rfl rfl rfl
            exact handled.trans handled.housed.driveAll
          · exact .refl h
  | endEvents => exact h.same rfl rfl rfl
  | knock =>
      rw [TunnelEnd.take]
      split
      · exact .refl h
      · obtain ⟨grows, there⟩ := h.numbered.arrive
        refine h.keep rfl grows fun c mem => ?_
        rcases List.mem_append.mp mem with old | new
        · exact .inl old
        · rw [List.mem_singleton.mp new]
          exact .inr there
  | far c a =>
      rw [take_far]
      have acted : e.Leaves { e with sockets := (e.sockets.act c a).2 } :=
        h.keep rfl (h.numbered.act c a) fun _ mem => .inl mem
      refine acted.trans ?_
      generalize ({ e with sockets := (e.sockets.act c a).2 } : TunnelEnd σ) = e' at acted
      cases e'.board.owner? c with
      | none => exact .refl acted.housed
      | some s => exact acted.housed.work fun _ there => (acted.housed.desk there).readSocket (outlet s) c
  | pass elapsed =>
      change e.Leaves (e.pass elapsed)
      rw [pass]
      split
      · exact h.sample
      · exact .refl h
  | stop =>
      change e.Leaves e.stop
      have asked : e.Leaves { e with stopRequested := true } := h.same rfl rfl rfl
      rw [stop]
      split
      · exact asked.trans (asked.housed.finish _)
      · exact asked

end

variable {τ : Type} [Channel τ] {e : TunnelEnd (Recorded τ)} {r : StreamRef}

theorem Housed.taken (h : e.Housed) (a : EndAct) : e.Leaves ((e.told a).take a) := by
  have heard : e.Leaves (e.told a) := by
    cases a with
    | event ev =>
        rw [told]
        split
        · exact .refl h
        · exact h.same rfl rfl rfl
    | start | endEvents | knock | far | pass | stop => exact .refl h
  exact heard.trans (heard.housed.take a)

theorem Housed.step (h : e.Housed) (a : EndAct) : e.Leaves ((e.told a).step a) := by
  obtain ⟨n, same⟩ := step_eq (e.told a) a
  have taken := h.taken a
  rw [same]
  exact taken.trans (taken.housed.handOnces n)

theorem Housed.notedRun (h : e.Housed) (acts : List EndAct) : e.Leaves (e.notedRun acts) := by
  induction acts generalizing e with
  | nil => exact .refl h
  | cons a rest ih =>
      have first := h.step a
      exact first.trans (ih first.housed)

/-- `f` is a moment of the act: its first part is over, and so many clients are handed on yet. -/
def Moment (e : TunnelEnd (Recorded τ)) (a : EndAct) (left : Nat) (f : TunnelEnd (Recorded τ)) : Prop :=
  (∃ n, f = handOnce^[n] ((e.told a).take a)) ∧ handOnce^[left] f = (e.told a).step a

theorem moment_step (e : TunnelEnd (Recorded τ)) (a : EndAct) : e.Moment a 0 ((e.told a).step a) :=
  ⟨step_eq (e.told a) a, rfl⟩

/-- In the course of the act the stream is there: at some moment, or when it is given to a client. -/
inductive Registers (e : TunnelEnd (Recorded τ)) (a : EndAct) (r : StreamRef) : Prop
  | there {left : Nat} {f : TunnelEnd (Recorded τ)} (moment : e.Moment a left f) (has : f.Has r)
  | given {left : Nat} {f : TunnelEnd (Recorded τ)} (moment : e.Moment a (left + 1) f) {c : SocketId}
      {rest : Acceptor} (next : f.next? = some (c, rest)) (gets : (f.attach c).1 = some r)

theorem Housed.registers (h : e.Housed) {a : EndAct} (registers : e.Registers a r) :
    ((e.told a).step a).Has r ∨ ((e.told a).step a).sockets.HasShut r.socket := by
  have taken := h.taken a
  cases registers with
  | there moment has =>
      obtain ⟨⟨n, rfl⟩, last⟩ := moment
      rw [← last]
      exact ((taken.housed.handOnces n).housed.handOnces _).stays r has
  | given moment next gets =>
      obtain ⟨⟨n, rfl⟩, last⟩ := moment
      rw [← last, Function.iterate_succ_apply]
      obtain ⟨first, given⟩ := (taken.housed.handOnces n).housed.handOnce
      have later := first.housed.handOnces
      rcases given _ _ r next gets with has | shut
      · exact (later _).stays r has
      · exact .inr ((later _).sockets.shut _ shut)

end TunnelEnd
end StreamTunnel
