import StreamTunnel.Proofs.Link.Busy
import StreamTunnel.Proofs.Mux.Renaming
import StreamTunnel.Proofs.Tunnel.Run

namespace StreamTunnel

variable {τ : Type} {s : SessionId}

def Link.Trails (start l l' : Link (Recorded τ)) : Prop :=
  l = l' ∧ start.Uses l

namespace Desk

theorem alike_self (d : Desk (Link (Recorded τ))) :
    Desk.Alike (fun _ => True) id (Link.Trails d.outlet) d.sockets d.sockets d d :=
  ⟨d.mux.rename_id.symm, fun _ _ => trivial, ⟨rfl, .refl d.outlet⟩, fun _ _ => rfl, .refl _ _, .refl _ _⟩

variable [Channel τ]

theorem trails_alike (start : Link (Recorded τ)) (s : SessionId) :
    Outlet.Alike (Link.Trails start) (TunnelEnd.outlet s) (TunnelEnd.outlet s) := by
  rintro p l _ ⟨rfl, uses⟩
  have sent : ((TunnelEnd.outlet s).offer p l).2 = (l.send s p).2 := by
    simp only [TunnelEnd.outlet]
    generalize l.send s p = r
    obtain ⟨result, l'⟩ := r
    cases result <;> rfl
  refine ⟨rfl, rfl, ?_⟩
  rw [sent]
  exact uses.trans (Link.uses_send s p l)

theorem uses_packet (s : SessionId) (raw : Bytes) (d : Desk (Link (Recorded τ))) :
    d.outlet.Uses (d.packet (TunnelEnd.outlet s) raw).outlet := by
  have taken (dialed : Option SocketId) (sockets : Sockets) :
      d.outlet.Uses ({ d with sockets }.step (·.packet (TunnelEnd.outlet s) raw dialed)).outlet := by
    have reached : ∀ socket, dialed = some socket → True := fun _ _ => trivial
    have like := (alike_self d).station.packet (trails_alike d.outlet s) raw reached
    exact like.outlets.2
  rw [Desk.packet]
  split
  · exact taken _ _
  · exact taken none d.sockets

theorem uses_readAll (s : SessionId) (r : StreamRef) (d : Desk (Link (Recorded τ))) :
    d.outlet.Uses (d.readAll (TunnelEnd.outlet s) r).outlet :=
  ((alike_self d).readAll (fun _ _ _ _ same => same) (trails_alike d.outlet s) trivial).outlets.2

theorem uses_readSocket (s : SessionId) (socket : SocketId) (d : Desk (Link (Recorded τ))) :
    d.outlet.Uses (d.readSocket (TunnelEnd.outlet s) socket).outlet :=
  ((alike_self d).readSocket (fun _ _ _ _ same => same) (trails_alike d.outlet s) trivial).outlets.2

theorem uses_attach (s : SessionId) (socket : SocketId) (d : Desk (Link (Recorded τ))) :
    d.outlet.Uses (d.attach (TunnelEnd.outlet s) socket).2.outlet := by
  rw [Desk.attach, Desk.run, Station.attach]
  cases StreamId.firstFree d.mux.entries.contains d.draw with
  | none => exact .refl d.outlet
  | some found => exact uses_readAll s _ _

end Desk

namespace TunnelEnd

variable {e : TunnelEnd (Recorded τ)} {status : RunStatus}

theorem uses_work {f : Desk (Link (Recorded τ)) → Desk (Link (Recorded τ))}
    (uses : ∀ d : Desk (Link (Recorded τ)), d.outlet.Uses (f d).outlet) (s : SessionId)
    (e : TunnelEnd (Recorded τ)) : e.link.Uses (e.work s f).link := by
  cases there : e.routes.get? s with
  | none =>
      rw [work_of_none there]
      exact .refl e.link
  | some m =>
      rw [work_of_some there]
      exact uses (e.desk m)

variable [Channel τ]

theorem uses_attach (socket : SocketId) (e : TunnelEnd (Recorded τ)) :
    e.link.Uses (e.attach socket).2.link := by
  cases carries : e.link.state.primary with
  | none =>
      rw [attach_of_none carries]
      exact .refl e.link
  | some s =>
      cases there : e.routes.get? s with
      | none =>
          rw [attach_of_no_route carries there]
          exact .refl e.link
      | some m =>
          rw [attach_of_route carries there]
          exact uses_work (Desk.uses_attach s socket) s e

theorem uses_handOnce (e : TunnelEnd (Recorded τ)) : e.link.Uses e.handOnce.link := by
  rw [handOnce]
  cases e.next? with
  | none => exact .refl e.link
  | some found => exact uses_attach found.1 e

theorem uses_handOnces (n : Nat) (e : TunnelEnd (Recorded τ)) : e.link.Uses (handOnce^[n] e).link := by
  induction n generalizing e with
  | zero => exact .refl e.link
  | succ n ih => exact (uses_handOnce e).trans (ih e.handOnce)

theorem uses_handOn (e : TunnelEnd (Recorded τ)) : e.link.Uses e.handOn.link := by
  rw [handOn_eq]
  exact uses_handOnces _ e

theorem record_finish (status : RunStatus) (e : TunnelEnd (Recorded τ)) :
    e.link.record <+: (e.finish status).link.record := by
  obtain ⟨extra, noted, -⟩ := Link.plain_disconnect e.link
  refine ⟨extra, noted.symm.trans ?_⟩
  rw [link_finish]
  rfl

theorem record_drive (e : TunnelEnd (Recorded τ)) (ev : LinkEvent) :
    e.link.record <+: (e.drive ev).link.record := by
  cases running : e.status.isRunning with
  | false =>
      simp only [drive_of_not_running running, List.prefix_rfl]
  | true =>
      cases ev with
      | opened s peer =>
          simp only [drive_opened running, link_openSession, List.prefix_rfl]
      | closed s reason =>
          simp only [drive_closed running, link_closeSession, List.prefix_rfl]
      | message s data =>
          rw [drive_message running]
          exact (uses_work (Desk.uses_packet s data) s e).record_grows
      | reconnecting n port =>
          simp only [drive_reconnecting, List.prefix_rfl]
      | disconnected reason =>
          rw [drive_disconnected running]
          exact record_finish _ e

theorem record_driveAll (e : TunnelEnd (Recorded τ)) : e.link.record <+: e.driveAll.link.record := by
  have drives (events : List LinkEvent) (e : TunnelEnd (Recorded τ)) :
      e.link.record <+: (events.foldl drive e).link.record := by
    induction events generalizing e with
    | nil => exact List.prefix_rfl
    | cons ev rest ih => exact (record_drive e ev).trans (ih (e.drive ev))
  exact drives e.link.events { e with link := { e.link with events := [] } }

theorem record_handle (e : TunnelEnd (Recorded τ)) (ev : ChannelEvent) :
    e.link.record <+: ({ e with link := (e.link.handle ev).2 } : TunnelEnd (Recorded τ)).driveAll.link.record :=
  (Link.record_handle ev e.link).trans (record_driveAll { e with link := (e.link.handle ev).2 })

theorem record_hear (e : TunnelEnd (Recorded τ)) (ev : ChannelEvent) :
    e.link.record <+: (e.hear ev).link.record := by
  rw [hear]
  split
  · exact (record_handle e ev).trans (uses_handOn _).record_grows
  · exact List.prefix_rfl

theorem record_hears (events : List ChannelEvent) (e : TunnelEnd (Recorded τ)) :
    e.link.record <+: (events.foldl hear e).link.record := by
  induction events generalizing e with
  | nil => exact List.prefix_rfl
  | cons ev rest ih => exact (record_hear e ev).trans (ih (e.hear ev))

theorem uses_sample (e : TunnelEnd (Recorded τ)) : e.link.Uses e.sample.link := by
  rw [sample]
  split
  · exact Link.uses_samplePing e.link
  · exact .refl e.link

theorem record_setUp (e : TunnelEnd (Recorded τ)) : e.link.record <+: e.setUp.2.link.record := by
  have hosts := Link.record_perform .host e.link
  have connects := Link.record_connect (e.settings.peer.getD "") e.link
  rw [setUp]
  cases e.settings.role with
  | host =>
      dsimp only
      rw [Link.perform] at hosts
      generalize e.link.host = r at hosts
      obtain ⟨result, l⟩ := r
      cases result <;> exact hosts
  | guest =>
      cases e.bindFault with
      | some detail => exact List.prefix_rfl
      | none =>
          dsimp only
          generalize e.link.connect (e.settings.peer.getD "") = r at connects
          obtain ⟨result, l⟩ := r
          cases result <;> exact connects

theorem record_start (e : TunnelEnd (Recorded τ)) : e.link.record <+: e.run.2.link.record := by
  have sampled := (uses_sample { e with status := .running }).record_grows
  have begun := sampled.trans (record_setUp { e with status := .running }.sample)
  rw [run]
  split
  · dsimp only
    generalize ({ e with status := .running } : TunnelEnd (Recorded τ)).sample.setUp = r at begun
    obtain ⟨result, e'⟩ := r
    cases result with
    | error err => exact begun.trans (record_finish _ e')
    | ok done =>
        dsimp only
        split
        · exact begun.trans (record_finish _ e')
        · exact begun.trans (record_hears e'.inbox { e' with inbox := [] })
  · exact List.prefix_rfl

def told (e : TunnelEnd (Recorded τ)) : EndAct → TunnelEnd (Recorded τ)
  | .event ev => if e.isDeaf then e else { e with link := e.link.hear ev }
  | _ => e

def notedRun (e : TunnelEnd (Recorded τ)) (acts : List EndAct) : TunnelEnd (Recorded τ) :=
  acts.foldl (fun e a => (e.told a).step a) e

theorem notedRun_append (e : TunnelEnd (Recorded τ)) (earlier later : List EndAct) :
    e.notedRun (earlier ++ later) = (e.notedRun earlier).notedRun later :=
  List.foldl_append

omit [Channel τ] in
theorem record_told (e : TunnelEnd (Recorded τ)) (a : EndAct) :
    e.link.record <+: (e.told a).link.record := by
  cases a with
  | event ev =>
      rw [told]
      split
      · exact List.prefix_rfl
      · exact List.prefix_append ..
  | start | endEvents | knock | far | pass | stop => exact List.prefix_rfl

theorem record_take (e : TunnelEnd (Recorded τ)) (a : EndAct) :
    e.link.record <+: (e.take a).link.record := by
  cases a with
  | start => exact record_start e
  | event ev =>
      rw [take]
      split
      · exact List.prefix_rfl
      · split
        · exact List.prefix_rfl
        · split
          · exact record_handle e ev
          · exact List.prefix_rfl
  | endEvents => exact List.prefix_rfl
  | knock =>
      rw [take]
      split <;> exact List.prefix_rfl
  | far socket a =>
      rw [take_far]
      let e' : TunnelEnd (Recorded τ) := { e with sockets := (e.sockets.act socket a).2 }
      change e.link.record <+: ((e'.board.owner? socket).elim e' _).link.record
      cases e'.board.owner? socket with
      | none => exact List.prefix_rfl
      | some s => exact (uses_work (Desk.uses_readSocket s socket) s e').record_grows
  | pass elapsed =>
      change e.link.record <+: (e.pass elapsed).link.record
      rw [pass]
      split
      · exact (uses_sample e).record_grows
      · exact List.prefix_rfl
  | stop =>
      change e.link.record <+: e.stop.link.record
      rw [stop]
      split
      · exact record_finish .finished { e with stopRequested := true }
      · exact List.prefix_rfl

theorem record_note (e : TunnelEnd (Recorded τ)) (a : EndAct) :
    e.link.record <+: ((e.told a).step a).link.record := by
  obtain ⟨n, same⟩ := step_eq (e.told a) a
  rw [same]
  exact ((record_told e a).trans (record_take _ a)).trans (uses_handOnces n _).record_grows

theorem record_notedRun (e : TunnelEnd (Recorded τ)) (acts : List EndAct) :
    e.link.record <+: (e.notedRun acts).link.record := by
  induction acts generalizing e with
  | nil => exact List.prefix_rfl
  | cons a rest ih => exact (record_note e a).trans (ih _)

theorem kept_notedRun {P : TunnelEnd (Recorded τ) → Prop} {Good : List Signal → Prop}
    (before : ∀ {earlier later}, Good later → earlier <+: later → Good earlier)
    (take : ∀ {e} a, P e → Good ((e.told a).take a).link.record → P ((e.told a).take a))
    (handOnces : ∀ {e} n, P e → P (handOnce^[n] e)) {start : TunnelEnd (Recorded τ)} (h : P start)
    {acts : List EndAct} (good : Good (start.notedRun acts).link.record) : P (start.notedRun acts) := by
  induction acts generalizing start with
  | nil => exact h
  | cons a rest ih =>
      have stepped : Good ((start.told a).step a).link.record := before good (record_notedRun _ rest)
      have next : P ((start.told a).step a) := by
        obtain ⟨n, same⟩ := step_eq (start.told a) a
        rw [same] at stepped ⊢
        exact handOnces n (take a h (before stepped (uses_handOnces n _).record_grows))
      exact ih next good

end TunnelEnd
end StreamTunnel
