import Mathlib.Logic.Function.Iterate
import StreamTunnel.Tunnel.End

/-!
# Runs of one end of a tunnel

An `EndAct` is what can happen to an end: it is started or stopped, a channel event comes, a client
knocks, the far end of a socket acts, time passes. After most acts clients are handed on, one after
the other: an act is a first part (`take`) and then some hand-ons (`step_eq`).

Link events concern the desk of one session. The equations of `drive` say what they do there.
-/

namespace StreamTunnel

inductive EndAct where
  | start
  | event (ev : ChannelEvent)
  | endEvents
  | knock
  | far (socket : SocketId) (a : FarAct)
  | pass (elapsed : Span)
  | stop
deriving DecidableEq

namespace TunnelEnd

variable {σ : Type}

variable {e : TunnelEnd σ} {s : SessionId} {m : Multiplexer}

/-! ## Work at the desk of a session -/

def desk (e : TunnelEnd σ) (m : Multiplexer) : Desk (Link σ) :=
  { mux := m, outlet := e.link, sockets := e.sockets, drawn := e.drawn }

def work (s : SessionId) (f : Desk (Link σ) → Desk (Link σ)) (e : TunnelEnd σ) : TunnelEnd σ :=
  (e.atDesk s (fun d => ((), f d))).2

theorem work_of_none (gone : e.routes.get? s = none) (f : Desk (Link σ) → Desk (Link σ)) :
    e.work s f = e := by
  rw [work, atDesk, gone]

theorem work_of_some (there : e.routes.get? s = some m) (f : Desk (Link σ) → Desk (Link σ)) :
    e.work s f = { e with
      routes := e.routes.insert s (f (e.desk m)).mux
      link := (f (e.desk m)).outlet
      sockets := (f (e.desk m)).sockets
      drawn := (f (e.desk m)).drawn } := by
  rw [work, atDesk, there]
  rfl

def openSession (s : SessionId) (e : TunnelEnd σ) : TunnelEnd σ :=
  let e' := e.work s (·.teardown)
  { e' with routes := e'.routes.insert s e.fresh }

def closeSession (s : SessionId) (e : TunnelEnd σ) : TunnelEnd σ :=
  let e' := e.work s (·.teardown)
  { e' with routes := e'.routes.erase s }

def carry (e : TunnelEnd σ) (b : Switchboard (Link σ)) : TunnelEnd σ :=
  { e with
    routes := b.routes
    link := b.outlet
    sockets := b.actions.foldl Desk.perform e.sockets }

theorem closeSession_carry (b : Switchboard (Link σ)) :
    (e.carry b).closeSession s = e.carry (b.closeRoute s) := by
  rw [closeSession, Switchboard.closeRoute, Switchboard.onRoute]
  cases there : b.routes.get? s with
  | none =>
      rw [work_of_none there]
      rfl
  | some m =>
      rw [work_of_some there]
      simp only [carry, desk, Desk.teardown, Desk.step, Desk.run, List.foldl_append]

theorem link_work_teardown (s : SessionId) (e : TunnelEnd σ) : (e.work s (·.teardown)).link = e.link := by
  cases there : e.routes.get? s with
  | none => rw [work_of_none there]
  | some m =>
      rw [work_of_some there]
      rfl

theorem link_openSession (s : SessionId) (e : TunnelEnd σ) : (e.openSession s).link = e.link :=
  link_work_teardown s e

theorem link_closeSession (s : SessionId) (e : TunnelEnd σ) : (e.closeSession s).link = e.link :=
  link_work_teardown s e

theorem status_work (s : SessionId) (f : Desk (Link σ) → Desk (Link σ)) (e : TunnelEnd σ) :
    (e.work s f).status = e.status := by
  cases there : e.routes.get? s with
  | none => rw [work_of_none there]
  | some m => rw [work_of_some there]

theorem status_openSession (s : SessionId) (e : TunnelEnd σ) : (e.openSession s).status = e.status :=
  status_work s _ e

theorem status_closeSession (s : SessionId) (e : TunnelEnd σ) : (e.closeSession s).status = e.status :=
  status_work s _ e

theorem switch_closeAll : e.switch (·.closeAll) = e.routes.keys.foldl (fun e s => e.closeSession s) e := by
  have closings (keys : List SessionId) (b : Switchboard (Link σ)) :
      keys.foldl (fun e s => e.closeSession s) (e.carry b) =
        e.carry (keys.foldl (fun b s => b.closeRoute s) b) := by
    induction keys generalizing b with
    | nil => rfl
    | cons s rest ih =>
        rw [List.foldl_cons, List.foldl_cons, closeSession_carry]
        exact ih _
  exact (closings e.routes.keys e.board).symm

theorem link_closeAll (e : TunnelEnd σ) : (e.switch (·.closeAll)).link = e.link := by
  rw [switch_closeAll]
  generalize e.routes.keys = keys
  induction keys generalizing e with
  | nil => rfl
  | cons s rest ih => exact (ih (e.closeSession s)).trans (link_closeSession s e)

theorem exists_of_owner? {socket : SocketId} (h : e.board.owner? socket = some s) :
    ∃ m, (s, m) ∈ e.routes.toList ∧ (m.owner? socket).isSome = true := by
  simp only [Switchboard.owner?, board, Option.map_eq_some_iff] at h
  obtain ⟨⟨s, m⟩, found, rfl⟩ := h
  exact ⟨m, List.mem_of_find?_eq_some found, by simpa using List.find?_some found⟩

theorem owner?_of_none {socket : SocketId} (h : e.board.owner? socket = none)
    (there : (s, m) ∈ e.routes.toList) : m.owner? socket = none := by
  simp only [Switchboard.owner?, board, Option.map_eq_none_iff, List.find?_eq_none] at h
  simpa using h _ there

theorem get?_work (k s : SessionId) (f : Desk (Link σ) → Desk (Link σ)) (e : TunnelEnd σ) :
    (e.work k f).routes.get? s =
      if s = k then (e.routes.get? s).map (fun m => (f (e.desk m)).mux) else e.routes.get? s := by
  cases there : e.routes.get? k with
  | none =>
      rw [work_of_none there]
      split
      · next same => rw [same, there, Option.map_none]
      · rfl
  | some m =>
      rw [work_of_some there, Table.get?_insert]
      split
      · next same => rw [same, there, Option.map_some]
      · rfl

theorem contains_work (k s : SessionId) (f : Desk (Link σ) → Desk (Link σ)) (e : TunnelEnd σ) :
    (e.work k f).routes.contains s = e.routes.contains s := by
  rw [Table.contains, get?_work]
  split
  · exact Option.isSome_map
  · rfl

theorem get?_openSession (k s : SessionId) (e : TunnelEnd σ) :
    (e.openSession k).routes.get? s = if s = k then some e.fresh else e.routes.get? s := by
  simp only [openSession, Table.get?_insert, get?_work]
  split <;> rfl

theorem get?_closeSession (k s : SessionId) (e : TunnelEnd σ) :
    (e.closeSession k).routes.get? s = if s = k then none else e.routes.get? s := by
  simp only [closeSession, Table.get?_erase, get?_work]
  split <;> rfl

theorem get?_closeSessions (keys : List SessionId) (s : SessionId) (e : TunnelEnd σ) :
    (keys.foldl (fun e k => e.closeSession k) e).routes.get? s =
      if s ∈ keys then none else e.routes.get? s := by
  induction keys generalizing e with
  | nil => rfl
  | cons k rest ih =>
      rw [List.foldl_cons, ih, get?_closeSession]
      by_cases same : s = k <;> simp [same]

theorem get?_closeAll (s : SessionId) (e : TunnelEnd σ) :
    (e.switch (·.closeAll)).routes.get? s = none := by
  rw [switch_closeAll, get?_closeSessions]
  split
  · rfl
  · next gone =>
    rw [← Table.contains_iff_mem_keys, Table.contains, Option.isSome_iff_ne_none, not_not] at gone
    exact gone

theorem keys_closeAll (e : TunnelEnd σ) : (e.switch (·.closeAll)).routes.keys = [] := by
  apply List.eq_nil_iff_forall_not_mem.mpr
  intro s mem
  rw [← Table.contains_iff_mem_keys, Table.contains, get?_closeAll] at mem
  cases mem

variable [Channel σ]

theorem link_finish (status : RunStatus) (e : TunnelEnd σ) :
    (e.finish status).link = { e.link.disconnect with events := [] } :=
  congrArg (fun l : Link σ => { l.disconnect with events := [] }) (link_closeAll e)

theorem drive_opened (running : e.status.isRunning = true) (peer : Identity) :
    e.drive (.opened s peer) = e.openSession s := by
  unfold drive
  rw [if_pos running, openSession]
  simp only [switch, Switchboard.apply, Switchboard.openRoute, Switchboard.onRoute]
  cases there : e.routes.get? s with
  | none =>
      rw [work_of_none there]
      simp only [board, there]
      rfl
  | some m =>
      rw [work_of_some there]
      simp only [board, there]
      rfl

theorem drive_closed (running : e.status.isRunning = true) (reason : CloseReason) :
    e.drive (.closed s reason) = e.closeSession s := by
  unfold drive
  rw [if_pos running]
  exact (closeSession_carry e.board).symm

theorem drive_message (running : e.status.isRunning = true) (data : Bytes) :
    e.drive (.message s data) = e.work s (·.packet (outlet s) data) := by
  unfold drive
  rw [if_pos running]
  dsimp only
  rw [Switchboard.wantsDial, board]
  cases there : e.routes.get? s with
  | none =>
      rw [work_of_none there]
      simp only [Option.any_none, Bool.false_eq_true, if_false, switch, Switchboard.apply,
        Switchboard.onRoute, board, there]
      rfl
  | some m =>
      rw [work_of_some there, Option.any_some, Desk.packet]
      split
      · next wants =>
        simp only [switch, Switchboard.apply, Switchboard.onRoute, board, there]
        rw [if_pos (show (e.desk m).mux.wantsDial data = true from wants)]
        rfl
      · next quiet =>
        simp only [switch, Switchboard.apply, Switchboard.onRoute, board, there]
        rw [if_neg (show ¬ (e.desk m).mux.wantsDial data = true from quiet)]
        rfl

theorem drive_reconnecting (n : Nat) (port : UInt32) : e.drive (.reconnecting n port) = e := by
  unfold drive
  split <;> rfl

theorem drive_disconnected (running : e.status.isRunning = true) (reason : CloseReason) :
    e.drive (.disconnected reason) = e.finish (.failed (.linkLost reason)) := by
  unfold drive
  rw [if_pos running]

theorem drive_of_not_running (idle : e.status.isRunning = false) (ev : LinkEvent) : e.drive ev = e := by
  unfold drive
  rw [if_neg (Bool.eq_false_iff.mp idle)]

theorem drives_of_not_running (idle : e.status.isRunning = false) (events : List LinkEvent) :
    events.foldl drive e = e := by
  induction events with
  | nil => rfl
  | cons ev rest ih => rw [List.foldl_cons, drive_of_not_running idle, ih]

theorem driveAll_of_nil (none : e.link.events = []) : e.driveAll = e := by
  have taken : { e.link with events := [] } = e.link := by rw [← none]
  rw [driveAll, Link.takeEvents]
  dsimp only
  rw [none, taken]
  rfl

theorem contains_drive_opened (running : e.status.isRunning = true) (k s : SessionId)
    (peer : Identity) :
    (e.drive (.opened k peer)).routes.contains s = if s = k then true else e.routes.contains s := by
  rw [drive_opened running, Table.contains, get?_openSession]
  split <;> rfl

theorem contains_drive_closed (running : e.status.isRunning = true) (k s : SessionId)
    (reason : CloseReason) :
    (e.drive (.closed k reason)).routes.contains s = if s = k then false else e.routes.contains s := by
  rw [drive_closed running, Table.contains, get?_closeSession]
  split <;> rfl

theorem contains_drive_message (running : e.status.isRunning = true) (k s : SessionId) (data : Bytes) :
    (e.drive (.message k data)).routes.contains s = e.routes.contains s := by
  rw [drive_message running, contains_work]

/-! ## Hand-ons -/

def next? (e : TunnelEnd σ) : Option (SocketId × Acceptor) :=
  (e.acceptor.release (isOpen · e)).next?

def handOnce (e : TunnelEnd σ) : TunnelEnd σ :=
  match e.next? with
  | none => { e with acceptor := e.acceptor.release (isOpen · e) }
  | some (socket, a) => { (e.attach socket).2 with acceptor := a.handed (e.attach socket).1 }

theorem attach_of_none (vacant : e.link.state.primary = none) (socket : SocketId) :
    e.attach socket = (none, e.closeSocket socket) := by
  rw [attach, vacant]

theorem attach_of_no_route (carries : e.link.state.primary = some s) (gone : e.routes.get? s = none)
    (socket : SocketId) : e.attach socket = (none, e.closeSocket socket) := by
  rw [attach, carries]
  simp only [atDesk, gone]

theorem attach_of_route (carries : e.link.state.primary = some s) (there : e.routes.get? s = some m)
    (socket : SocketId) :
    e.attach socket = (((e.desk m).attach (outlet s) socket).1,
      e.work s (fun d => (d.attach (outlet s) socket).2)) := by
  rw [attach, carries, work_of_some there]
  simp only [atDesk, there]
  rfl

theorem status_attach (socket : SocketId) (e : TunnelEnd σ) : (e.attach socket).2.status = e.status := by
  cases carries : e.link.state.primary with
  | none =>
      rw [attach_of_none carries]
      rfl
  | some s =>
      cases there : e.routes.get? s with
      | none =>
          rw [attach_of_no_route carries there]
          rfl
      | some m =>
          rw [attach_of_route carries there]
          exact status_work s _ e

theorem status_handOnce (e : TunnelEnd σ) : e.handOnce.status = e.status := by
  rw [handOnce]
  cases e.next? with
  | none => rfl
  | some found => exact status_attach found.1 e

theorem attach_acceptor (socket : SocketId) (e : TunnelEnd σ) (a : Acceptor) :
    attach socket { e with acceptor := a } =
      ((e.attach socket).1, { (e.attach socket).2 with acceptor := a }) := by
  simp only [attach]
  cases e.link.state.primary with
  | none => rfl
  | some s =>
      simp only [atDesk]
      cases e.routes.get? s <;> rfl

theorem iterate_handOnce_of_none (quiet : e.next? = none) (n : Nat) :
    handOnce^[n + 1] e = { e with acceptor := e.acceptor.release (isOpen · e) } := by
  have once : e.handOnce = { e with acceptor := e.acceptor.release (isOpen · e) } := by
    rw [handOnce, quiet]
  have twice : (e.acceptor.release (isOpen · e)).release (isOpen · e) = e.acceptor.release (isOpen · e) := by
    simp [Acceptor.release, Option.filter_filter]
  have still : handOnce { e with acceptor := e.acceptor.release (isOpen · e) } =
      { e with acceptor := e.acceptor.release (isOpen · e) } := by
    have quiet' : next? { e with acceptor := e.acceptor.release (isOpen · e) } = none := by
      change ((e.acceptor.release (isOpen · e)).release (isOpen · e)).next? = none
      rw [twice]
      exact quiet
    rw [handOnce, quiet']
    exact congrArg (fun a => { e with acceptor := a }) twice
  rw [Function.iterate_succ_apply, once]
  exact Function.iterate_fixed still n

theorem handOn_eq (e : TunnelEnd σ) : e.handOn = handOnce^[e.acceptor.waiting.length + 1] e := by
  have serves (fuel : Nat) (a : Acceptor) (e : TunnelEnd σ) :
      { (Acceptor.serveWith attach isOpen fuel a e).2 with
        acceptor := (Acceptor.serveWith attach isOpen fuel a e).1 } =
        handOnce^[fuel] { e with acceptor := a } := by
    induction fuel generalizing a e with
    | zero => rfl
    | succ fuel ih =>
        rw [Acceptor.serveWith]
        cases next : (a.release (isOpen · e)).next? with
        | none => exact (iterate_handOnce_of_none (e := { e with acceptor := a }) next fuel).symm
        | some found =>
            have once : handOnce { e with acceptor := a } =
                { (e.attach found.1).2 with acceptor := found.2.handed (e.attach found.1).1 } := by
              rw [handOnce, show next? { e with acceptor := a } = some found from next]
              simp only [attach_acceptor]
            rw [Function.iterate_succ_apply, once]
            exact ih _ _
  exact serves (e.acceptor.waiting.length + 1) e.acceptor e

theorem handOnce_of_idle (idle : e.acceptor.isStarted = false) (free : e.acceptor.serving = none) :
    e.handOnce = e := by
  have released : e.acceptor.release (isOpen · e) = e.acceptor := by
    rw [Acceptor.release, free, Option.filter_none, ← free]
  have quiet : e.next? = none := by
    rw [next?, released, Acceptor.next?, Acceptor.isRunning, idle]
    rfl
  rw [handOnce, quiet, released]

theorem handOn_of_idle (idle : e.acceptor.isStarted = false) (free : e.acceptor.serving = none) :
    e.handOn = e := by
  rw [handOn_eq]
  exact Function.iterate_fixed (handOnce_of_idle idle free) _

/-! ## Acts -/

theorem setUp_of_host (host : e.settings.role = .host) :
    e.setUp = (e.link.host.1.mapError .link, { e with link := e.link.host.2 }) := by
  rw [setUp, host]
  dsimp only
  generalize e.link.host = r
  obtain ⟨result, l⟩ := r
  cases result <;> rfl

def step (e : TunnelEnd σ) : EndAct → TunnelEnd σ
  | .start => e.run.2
  | .event ev => (e.event ev).2
  | .endEvents => e.endEvents
  | .knock => e.knock.2
  | .far socket a => (e.act socket a).2
  | .pass elapsed => e.pass elapsed
  | .stop => e.stop

def take (e : TunnelEnd σ) : EndAct → TunnelEnd σ
  | .event ev =>
      if e.isDeaf then e
      else if e.status = .notStarted then { e with inbox := e.inbox ++ [ev] }
      else if e.status.isRunning then { e with link := (e.link.handle ev).2 }.driveAll
      else e
  | .knock =>
      if !e.isBound || e.status.isOver then e
      else
        let (socket, sockets) := e.sockets.arrive
        { e with sockets, acceptor := e.acceptor.arrive socket }
  | .far socket a =>
      let e := { e with sockets := (e.sockets.act socket a).2 }
      match e.board.owner? socket with
      | none => e
      | some s => e.work s (·.readSocket (outlet s) socket)
  | a => e.step a

theorem take_far (e : TunnelEnd σ) (socket : SocketId) (a : FarAct) :
    e.take (.far socket a) =
      ({ e with sockets := (e.sockets.act socket a).2 }.board.owner? socket).elim
        { e with sockets := (e.sockets.act socket a).2 }
        (fun s => { e with sockets := (e.sockets.act socket a).2 }.work s
          (·.readSocket (outlet s) socket)) := by
  simp only [take]
  cases { e with sockets := (e.sockets.act socket a).2 }.board.owner? socket <;> rfl

theorem contains_take_far (e : TunnelEnd σ) (socket : SocketId) (a : FarAct) (s : SessionId) :
    (e.take (.far socket a)).routes.contains s = e.routes.contains s := by
  rw [take_far]
  cases { e with sockets := (e.sockets.act socket a).2 }.board.owner? socket with
  | none => rfl
  | some k => exact contains_work k s _ _

theorem step_eq (e : TunnelEnd σ) (a : EndAct) : ∃ n, e.step a = handOnce^[n] (e.take a) := by
  cases a with
  | start | endEvents | pass | stop => exact ⟨0, rfl⟩
  | event ev =>
      simp only [step, event, take, hear]
      split
      · exact ⟨0, rfl⟩
      · split
        · exact ⟨0, rfl⟩
        · split
          · exact ⟨_, handOn_eq _⟩
          · exact ⟨0, rfl⟩
  | knock =>
      simp only [step, knock, take]
      cases e.isBound <;> cases e.status.isOver
      · exact ⟨0, rfl⟩
      · exact ⟨0, rfl⟩
      · exact ⟨_, handOn_eq _⟩
      · exact ⟨0, rfl⟩
  | far socket a =>
      simp only [step, act, take]
      cases owner : (board { e with sockets := (e.sockets.act socket a).2 }).owner? socket with
      | none =>
          dsimp only
          exact ⟨0, rfl⟩
      | some s =>
          dsimp only
          exact ⟨_, handOn_eq _⟩

end TunnelEnd
end StreamTunnel
