import StreamTunnel.Proofs.Link.Carrier
import StreamTunnel.Proofs.Tunnel.Noted

namespace StreamTunnel

theorem Pipe.closeNear_twice (p : Option Pipe) :
    (p.map Pipe.closeNear).map Pipe.closeNear = p.map Pipe.closeNear := by
  rw [Option.map_map]
  rfl

theorem Sockets.get?_closeNears (closed : List SocketId) (t : Sockets) (c : SocketId) :
    (closed.foldl (fun t c => t.modify c Pipe.closeNear) t).pipes.get? c =
      if c ∈ closed then (t.pipes.get? c).map Pipe.closeNear else t.pipes.get? c := by
  induction closed generalizing t with
  | nil => rfl
  | cons first rest ih =>
      rw [List.foldl_cons, ih, modify, Table.get?_modify]
      by_cases same : c = first
      · subst same
        rw [if_pos rfl, if_pos List.mem_cons_self, Pipe.closeNear_twice, ite_self]
      · simp [same]

namespace TunnelEnd

section

variable {σ : Type} {e : TunnelEnd σ} {s : SessionId} {m : Multiplexer}

theorem get?_of_keys_nil (empty : e.routes.keys = []) (s : SessionId) : e.routes.get? s = none := by
  rw [← Option.isNone_iff_eq_none, ← Option.not_isSome, Bool.not_eq_true']
  apply Bool.eq_false_iff.mpr
  intro there
  simpa [empty] using Table.contains_iff_mem_keys.mp there

theorem sockets_closeSession (there : e.routes.get? s = some m) :
    (e.closeSession s).sockets =
      (m.entries.toList.map (fun entry => entry.2.socket)).foldl (fun t c => t.modify c Pipe.closeNear)
        e.sockets := by
  rw [closeSession, work_of_some there]
  have asked : (e.desk m).teardown.sockets =
      ((m.entries.toList.map (fun entry => entry.2.socket)).map SocketAction.release).foldl Desk.perform
        e.sockets := rfl
  exact asked.trans List.foldl_map

theorem switch_closeAll_of_keys_nil (empty : e.routes.keys = []) : e.switch (·.closeAll) = e := by
  rw [switch_closeAll, empty, List.foldl_nil]

theorem switch_closeAll_of_singleton (only : e.routes.keys = [s]) :
    e.switch (·.closeAll) = e.closeSession s := by
  rw [switch_closeAll, only]
  rfl

theorem keys_closeSession_of_singleton (only : e.routes.keys = [s]) : (e.closeSession s).routes.keys = [] := by
  rw [← switch_closeAll_of_singleton only]
  exact keys_closeAll e

variable [Channel σ]

theorem finish_closeAll (status : RunStatus) (e : TunnelEnd σ) :
    (e.switch (·.closeAll)).finish status = e.finish status := by
  have closed := switch_closeAll_of_keys_nil (keys_closeAll e)
  rw [finish, closed]
  rfl

end

variable {τ : Type} {e e' : TunnelEnd (Recorded τ)} {s : SessionId} {m : Multiplexer}

/-- From `e` to `e'` a session with this multiplexer ended: there is no session any more, all of its
streams are closed with their sockets, and nothing was sent. -/
structure Ended (m : Multiplexer) (e e' : TunnelEnd (Recorded τ)) : Prop where
  gone : e'.routes.keys = []
  closed : ∀ id r, m.lookup id = some r → e'.isOpen r = false ∧
    e'.sockets.pipes.get? r.socket = (e.sockets.pipes.get? r.socket).map Pipe.closeNear
  silent : e.link.Silent e'.link

theorem isOpen_of_keys_nil (empty : e.routes.keys = []) (r : StreamRef) : e.isOpen r = false := by
  rw [isOpen, Switchboard.isOpen, board, List.map_eq_nil_iff.mp empty]
  rfl

theorem ended_closeSession (only : e.routes.keys = [s]) (there : e.routes.get? s = some m) :
    Ended m e (e.closeSession s) := by
  have gone := keys_closeSession_of_singleton only
  refine ⟨gone, fun id r isThere => ⟨isOpen_of_keys_nil gone r, ?_⟩, ?_⟩
  · simp only [Multiplexer.lookup, Option.map_eq_some_iff] at isThere
    obtain ⟨entry, found, rfl⟩ := isThere
    rw [sockets_closeSession there, Sockets.get?_closeNears, if_pos]
    exact List.mem_map_of_mem (Table.mem_of_get? found)
  · exact .of_record_eq (congrArg Link.record (link_closeSession s e))

theorem Ended.after (h : Ended m e e') {before : TunnelEnd (Recorded τ)} (sockets : e.sockets = before.sockets)
    (silent : before.link.Silent e.link) : Ended m before e' :=
  ⟨h.gone, sockets ▸ h.closed, silent.trans h.silent⟩

variable [Channel τ]

theorem silent_finish (status : RunStatus) (e : TunnelEnd (Recorded τ)) :
    e.link.Silent (e.finish status).link := by
  rw [link_finish]
  exact (Link.silent_disconnect e.link).trans (.of_record_eq rfl)

theorem Ended.finish (h : Ended m e e') (status : RunStatus) : Ended m e (e'.finish status) := by
  have closed := switch_closeAll_of_keys_nil h.gone
  have gone : (e'.finish status).routes.keys = [] := keys_closeAll e'
  refine ⟨gone, fun id r isThere => ⟨isOpen_of_keys_nil gone r, ?_⟩, h.silent.trans (silent_finish status e')⟩
  have pipe := (h.closed id r isThere).2
  rw [TunnelEnd.finish, closed]
  dsimp only
  rw [Sockets.get?_closeNears, pipe, Pipe.closeNear_twice, ite_self]

end TunnelEnd
end StreamTunnel
