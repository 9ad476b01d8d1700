import StreamTunnel.Proofs.Tunnel.Endings

namespace StreamTunnel

namespace TunnelEnd

variable {τ : Type} {e : TunnelEnd (Recorded τ)}

structure Unstarted (e : TunnelEnd (Recorded τ)) : Prop where
  status_eq : e.status = .notStarted
  state_eq : e.link.state = .start e.settings.link
  idle : e.link.events = []
  noted : e.link.record = e.inbox.map .told
  routes : e.routes.keys = []

structure Through (e : TunnelEnd (Recorded τ)) : Prop where
  isOver : e.status.isOver = true
  vacant : e.link.state.primary = none
  routes : e.routes.keys = []
  deaf : e.isDeaf = true

theorem unstarted_ready (settings : Settings) (channel : τ) (target : Target) (bindFault : Option String) :
    (ready settings { channel } target bindFault : TunnelEnd (Recorded τ)).Unstarted :=
  ⟨rfl, rfl, rfl, rfl, rfl⟩

theorem Unstarted.vacant (h : e.Unstarted) : e.link.state.primary = none := by
  rw [h.state_eq]
  rfl

theorem Unstarted.ungiven (h : e.Unstarted) (s : SessionId) :
    .gave s ∉ e.link.record ∧ .asked (.accept s) ∉ e.link.record := by
  rw [h.noted]
  constructor <;> simp

theorem Unstarted.not_running (h : e.Unstarted) : ¬ e.status.isRunning = true := by
  rw [h.status_eq]
  decide

variable [Channel τ]

theorem take_far_of_keys_nil (empty : e.routes.keys = []) (socket : SocketId) (a : FarAct) :
    e.take (.far socket a) = { e with sockets := (e.sockets.act socket a).2 } := by
  have nobody : (board { e with sockets := (e.sockets.act socket a).2 }).owner? socket = none := by
    rw [Switchboard.owner?, board, List.map_eq_nil_iff.mp empty]
    rfl
  rw [take_far, nobody]
  rfl

theorem handOnces_of_vacant (vacant : e.link.state.primary = none) (n : Nat) :
    ∃ acceptor sockets, TunnelEnd.handOnce^[n] e = { e with acceptor, sockets } := by
  induction n generalizing e with
  | zero => exact ⟨e.acceptor, e.sockets, rfl⟩
  | succ n ih =>
      have once : ∃ acceptor sockets, e.handOnce = { e with acceptor, sockets } := by
        rw [TunnelEnd.handOnce]
        cases e.next? with
        | none => exact ⟨_, e.sockets, rfl⟩
        | some found =>
            dsimp only
            rw [attach_of_none vacant]
            exact ⟨_, _, rfl⟩
      obtain ⟨acceptor, sockets, same⟩ := once
      obtain ⟨acceptor', sockets', last⟩ := ih (e := { e with acceptor, sockets }) vacant
      rw [Function.iterate_succ_apply, same]
      exact ⟨acceptor', sockets', last⟩

theorem Unstarted.sample_eq (h : e.Unstarted) : e.link.samplePing.2 = e.link := by
  rw [Link.samplePing, h.state_eq]
  rfl

theorem Unstarted.handOnces (h : e.Unstarted) (n : Nat) :
    (TunnelEnd.handOnce^[n] e).Unstarted ∧ (TunnelEnd.handOnce^[n] e).settings = e.settings := by
  obtain ⟨acceptor, sockets, same⟩ := handOnces_of_vacant h.vacant n
  rw [same]
  exact ⟨⟨h.status_eq, h.state_eq, h.idle, h.noted, h.routes⟩, rfl⟩

theorem Unstarted.run_eq (h : e.Unstarted) :
    e.run.2 = match setUp { e with status := .running } with
      | (.error err, e) => e.finish (.failed err)
      | (.ok (), e) =>
          if e.stopRequested then e.finish .finished else e.inbox.foldl hear { e with inbox := [] } := by
  have sampled : sample { e with status := .running } = { e with status := .running } := by
    change { e with status := .running, link := e.link.samplePing.2 } = _
    rw [h.sample_eq]
  rw [run, if_pos h.status_eq]
  dsimp only
  rw [sampled]
  generalize setUp { e with status := .running } = r
  obtain ⟨result, e'⟩ := r
  cases result <;> rfl

theorem Unstarted.take (h : e.Unstarted) {a : EndAct} (other : a ≠ .start) :
    ((e.told a).take a).Unstarted ∧ ((e.told a).take a).settings = e.settings ∧
      e.link.Silent ((e.told a).take a).link := by
  have still : e.Unstarted ∧ e.settings = e.settings ∧ e.link.Silent e.link := ⟨h, rfl, .of_record_eq rfl⟩
  cases a with
  | start => exact absurd rfl other
  | event ev =>
      cases deaf : e.isDeaf with
      | true =>
          rw [told, if_pos deaf, TunnelEnd.take, if_pos deaf]
          exact still
      | false =>
          have listens : ¬ e.isDeaf = true := by simp [deaf]
          rw [told, if_neg listens, TunnelEnd.take, if_neg listens, if_pos h.status_eq]
          refine ⟨⟨h.status_eq, h.state_eq, h.idle, ?_, h.routes⟩, rfl, Link.silent_hear ev e.link⟩
          change e.link.record ++ [.told ev] = (e.inbox ++ [ev]).map .told
          rw [h.noted, List.map_append]
          rfl
  | endEvents => exact ⟨⟨h.status_eq, h.state_eq, h.idle, h.noted, h.routes⟩, rfl, .of_record_eq rfl⟩
  | knock =>
      change (e.take .knock).Unstarted ∧ (e.take .knock).settings = _ ∧ e.link.Silent (e.take .knock).link
      rw [TunnelEnd.take]
      split
      · exact still
      · exact ⟨⟨h.status_eq, h.state_eq, h.idle, h.noted, h.routes⟩, rfl, .of_record_eq rfl⟩
  | far socket a =>
      change (e.take (.far socket a)).Unstarted ∧ (e.take (.far socket a)).settings = e.settings ∧
        e.link.Silent (e.take (.far socket a)).link
      rw [take_far_of_keys_nil h.routes]
      exact ⟨⟨h.status_eq, h.state_eq, h.idle, h.noted, h.routes⟩, rfl, .of_record_eq rfl⟩
  | pass elapsed =>
      change (e.pass elapsed).Unstarted ∧ (e.pass elapsed).settings = _ ∧ e.link.Silent (e.pass elapsed).link
      rw [pass, sample, if_neg h.not_running, ite_self]
      exact still
  | stop =>
      change e.stop.Unstarted ∧ e.stop.settings = _ ∧ e.link.Silent e.stop.link
      rw [stop, if_neg (by exact h.not_running)]
      exact ⟨⟨h.status_eq, h.state_eq, h.idle, h.noted, h.routes⟩, rfl, .of_record_eq rfl⟩

theorem through_finish {status : RunStatus} (isOver : status.isOver = true) (e : TunnelEnd (Recorded τ)) :
    (e.finish status).Through := by
  refine ⟨isOver, ?_, keys_closeAll e, rfl⟩
  rw [link_finish]
  change e.link.disconnect.state.primary = none
  rw [(Link.disconnect_eq e.link).2]

structure Rests (e e' : TunnelEnd (Recorded τ)) : Prop where
  through : e'.Through
  link_eq : e'.link = e.link
  status_eq : e'.status = e.status

omit [Channel τ] in
theorem Rests.trans {e' e'' : TunnelEnd (Recorded τ)} (first : Rests e e') (second : Rests e' e'') :
    Rests e e'' :=
  ⟨second.through, second.link_eq.trans first.link_eq, second.status_eq.trans first.status_eq⟩

theorem Through.take (h : e.Through) (a : EndAct) : Rests e ((e.told a).take a) := by
  have idle : ¬ e.status.isRunning = true := by
    intro running
    have isOver := h.isOver
    rw [RunStatus.isRunning, decide_eq_true_iff] at running
    rw [running] at isOver
    cases isOver
  have begun : ¬ e.status = .notStarted := by
    intro new
    have isOver := h.isOver
    rw [new] at isOver
    cases isOver
  cases a with
  | start =>
      change Rests e e.run.2
      rw [run, if_neg begun]
      exact ⟨h, rfl, rfl⟩
  | event ev =>
      rw [told, if_pos h.deaf, TunnelEnd.take, if_pos h.deaf]
      exact ⟨h, rfl, rfl⟩
  | endEvents => exact ⟨⟨h.isOver, h.vacant, h.routes, rfl⟩, rfl, rfl⟩
  | knock =>
      change Rests e (e.take .knock)
      rw [TunnelEnd.take, h.isOver, Bool.or_true, if_pos rfl]
      exact ⟨h, rfl, rfl⟩
  | far socket a =>
      change Rests e (e.take (.far socket a))
      rw [take_far_of_keys_nil h.routes]
      exact ⟨⟨h.isOver, h.vacant, h.routes, h.deaf⟩, rfl, rfl⟩
  | pass elapsed =>
      change Rests e (e.pass elapsed)
      rw [pass, sample, if_neg idle, ite_self]
      exact ⟨h, rfl, rfl⟩
  | stop =>
      change Rests e e.stop
      rw [stop, if_neg (by exact idle)]
      exact ⟨⟨h.isOver, h.vacant, h.routes, h.deaf⟩, rfl, rfl⟩

theorem Through.handOnces (h : e.Through) (n : Nat) : Rests e (TunnelEnd.handOnce^[n] e) := by
  obtain ⟨acceptor, sockets, same⟩ := handOnces_of_vacant h.vacant n
  rw [same]
  exact ⟨⟨h.isOver, h.vacant, h.routes, h.deaf⟩, rfl, rfl⟩

theorem Through.step (h : e.Through) (a : EndAct) : Rests e ((e.told a).step a) := by
  obtain ⟨n, same⟩ := step_eq (e.told a) a
  rw [same]
  exact (h.take a).trans ((h.take a).through.handOnces n)

theorem Through.run (h : e.Through) (acts : List EndAct) : Rests e (e.notedRun acts) := by
  induction acts generalizing e with
  | nil => exact ⟨h, rfl, rfl⟩
  | cons a rest ih => exact (h.step a).trans (ih (h.step a).through)

end TunnelEnd
end StreamTunnel
