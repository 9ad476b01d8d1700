import StreamTunnel.Proofs.Tunnel.Parted

namespace StreamTunnel

/-! ## What the link events tell -/

namespace LinkEvent

def turns (s : SessionId) : LinkEvent → Bool
  | opened k _ | closed k _ => k = s
  | _ => false

def opens (s : SessionId) : LinkEvent → Bool
  | opened k _ => k = s
  | _ => false

def payload? (s : SessionId) : LinkEvent → Option Bytes
  | message k data => if k = s then some data else none
  | _ => none

def loss? : LinkEvent → Option CloseReason
  | disconnected reason => some reason
  | _ => none

end LinkEvent

namespace TunnelEnd

def lossIn? (events : List LinkEvent) : Option CloseReason :=
  events.findSome? LinkEvent.loss?

def lastTurn? (s : SessionId) (events : List LinkEvent) : Option LinkEvent :=
  (events.filter (·.turns s)).getLast?

/-- The messages of a session since it opened last. -/
def given (s : SessionId) (events : List LinkEvent) : List Bytes :=
  (events.reverse.takeWhile (!·.opens s)).reverse.filterMap (·.payload? s)

section

variable {s : SessionId} {events : List LinkEvent}

theorem lossIn?_concat (events : List LinkEvent) (ev : LinkEvent) :
    lossIn? (events ++ [ev]) = (lossIn? events).or ev.loss? := by
  rw [lossIn?, List.findSome?_append, List.findSome?_singleton, lossIn?]

theorem lastTurn?_concat (s : SessionId) (events : List LinkEvent) (ev : LinkEvent) :
    lastTurn? s (events ++ [ev]) = if ev.turns s then some ev else lastTurn? s events := by
  rw [lastTurn?, List.filter_append, lastTurn?]
  cases turns : ev.turns s <;> simp [turns]

theorem given_concat (s : SessionId) (events : List LinkEvent) (ev : LinkEvent) :
    given s (events ++ [ev]) = if ev.opens s then [] else given s events ++ (ev.payload? s).toList := by
  rw [given, List.reverse_append, List.reverse_singleton, List.singleton_append, List.takeWhile_cons, given]
  cases opens : ev.opens s with
  | true => rfl
  | false => cases payload : ev.payload? s <;> simp [payload]

theorem given_concat_of_quiet {ev : LinkEvent} (kept : ev.opens s = false) (other : ev.payload? s = none) :
    given s (events ++ [ev]) = given s events := by
  rw [given_concat, kept, other]
  exact List.append_nil _

end

/-! ## What becomes of a multiplexer -/

/-- A multiplexer that began empty and was handed these packets, one after the other. Between them clients were
taken in and sockets read, while the desk may have been used by others. -/
inductive Serves {σ : Type} (settings : MuxSettings) (out : Outlet σ) : List Bytes → Multiplexer → Prop
  | start (isHost : Bool) : Serves settings out [] (.start settings isHost)
  | packet {packets : List Bytes} {d : Desk σ} (before : Serves settings out packets d.mux) (raw : Bytes) :
      Serves settings out (packets ++ [raw]) (d.packet out raw).mux
  | read {packets : List Bytes} {d : Desk σ} (before : Serves settings out packets d.mux) (c : SocketId) :
      Serves settings out packets (d.readSocket out c).mux
  | attach {packets : List Bytes} {d : Desk σ} (before : Serves settings out packets d.mux) (c : SocketId) :
      Serves settings out packets (d.attach out c).2.mux

section

variable {σ : Type} {e e' : TunnelEnd σ} {s : SessionId} {m : Multiplexer} {settings : MuxSettings}
variable {events : List LinkEvent} {out : SessionId → Outlet (Link σ)} {handed handed' : SessionId → List Bytes}

structure TornDown (s : SessionId) (m : Multiplexer) (e e' : TunnelEnd σ) : Prop where
  emptied : ∃ (others : List SessionId) (m' : Multiplexer), s ∉ others ∧
    let t := (others.foldl (fun e k => e.closeSession k) e).work s (·.teardown)
    t.routes.get? s = some m' ∧ m'.entries = ∅ ∧ m'.missing = [] ∧ t.sockets.Grows e'.sockets
  shut : ∀ r, m.isOpen r = true → ¬ e'.Has r ∧ e'.sockets.HasShut r.socket

def Spares (s : SessionId) (e e' : TunnelEnd σ) : Prop :=
  ∀ k, k ≠ s → e'.routes.get? k = e.routes.get? k ∧ ∀ m r, e.routes.get? k = some m → m.isOpen r = true →
    e'.sockets.pipes.get? r.socket = e.sockets.pipes.get? r.socket

theorem Housed.tornDown (h : e.Housed) (there : e.routes.get? s = some m) {others : List SessionId}
    (new : s ∉ others)
    (after : ((others.foldl (fun e k => e.closeSession k) e).work s (·.teardown)).sockets.Grows e'.sockets)
    (gone : ∀ r, m.isOpen r = true → ¬ e'.Has r) : TornDown s m e e' := by
  have still : (others.foldl (fun e k => e.closeSession k) e).routes.get? s = some m :=
    (get?_closeSessions others s e).trans ((if_neg new).trans there)
  have ends := ((h.closeSessions others).housed.desk still).teardown.stays
  refine ⟨⟨others, _, new, get?_work_of_some still _, rfl, rfl, after⟩, fun r isOpen => ⟨gone r isOpen, ?_⟩⟩
  refine after.shut _ ?_
  rw [work_of_some still]
  exact (ends r isOpen).resolve_left nofun

theorem Confined.spares {f : Desk (Link σ) → Desk (Link σ)} (confined : e.Confined s f) :
    Spares s e (e.work s f) :=
  fun _ other => ⟨get?_work_of_ne other f, fun _ _ there => confined.pipes_work other there⟩

theorem Parted.spares_renew (h : e.Parted) (s : SessionId) {routes : Table SessionId Multiplexer}
    (others : ∀ k, k ≠ s → routes.get? k = e.routes.get? k) :
    Spares s e { e.work s (·.teardown) with routes } :=
  fun k other => ⟨others k other, ((h.confined_teardown s).spares k other).2⟩

theorem Parted.tornDown_renew (h : e.Parted) {routes : Table SessionId Multiplexer}
    (others : ∀ k, k ≠ s → routes.get? k = e.routes.get? k)
    (new : ∀ m r, routes.get? s = some m → m.isOpen r = false) (there : e.routes.get? s = some m) :
    TornDown s m e { e.work s (·.teardown) with routes } := by
  have ended := (h.work (h.confined_teardown s)).leaves
  refine h.housed.tornDown there List.not_mem_nil (.refl ended.housed.numbered) fun r isOpen => ?_
  rintro ⟨k, m', found, isOpen'⟩
  by_cases same : k = s
  · rw [new m' r (same ▸ found)] at isOpen'
    cases isOpen'
  · -- the other session would have a stream on a socket of this one
    obtain ⟨entry, entered, socket⟩ := Multiplexer.isOpen_iff_entry.mp isOpen
    obtain ⟨entry', entered', socket'⟩ := Multiplexer.isOpen_iff_entry.mp isOpen'
    have own := (h.own s m there).get? entered
    exact (own.2 k m' same ((others k same).symm.trans found)).get? entered' (socket'.trans socket.symm)

/-- While the link events were reported, each stream stayed and its session did not turn, or its socket was
closed. -/
structure Passes (events : List LinkEvent) (e e' : TunnelEnd σ) : Prop where
  leaves : e.Leaves e'
  stays : ∀ s m r, e.routes.get? s = some m → m.isOpen r = true → e'.sockets.HasShut r.socket ∨
    (∀ ev ∈ events, ev.turns s = false) ∧ ∃ m', e'.routes.get? s = some m' ∧ m'.isOpen r = true

theorem Passes.trans {events' : List LinkEvent} {e'' : TunnelEnd σ} (first : Passes events e e')
    (second : Passes events' e' e'') : Passes (events ++ events') e e'' := by
  refine ⟨first.leaves.trans second.leaves, fun s m r there isOpen => ?_⟩
  rcases first.stays s m r there isOpen with shut | ⟨quiet, m', there', isOpen'⟩
  · exact .inl (second.leaves.sockets.shut _ shut)
  · refine (second.stays s m' r there' isOpen').imp_right fun ⟨quiet', still⟩ => ⟨?_, still⟩
    exact List.forall_mem_append.mpr ⟨quiet, quiet'⟩

theorem Tends.passes (tends : e.Tends e') (quiet : ∀ ev ∈ events, ∀ s, ev.turns s = false) :
    Passes events e e' := by
  refine ⟨tends.leaves, fun s m r there isOpen => ?_⟩
  obtain ⟨m', there', stays⟩ := tends.stays s m there
  rcases stays r isOpen with still | shut
  · exact .inr ⟨fun ev mem => quiet ev mem s, m', there', still⟩
  · exact .inl shut

theorem Spares.passes (spares : Spares s e e') (leaves : e.Leaves e')
    (torn : ∀ m, e.routes.get? s = some m → TornDown s m e e') {ev : LinkEvent}
    (turns : ∀ k, k ≠ s → ev.turns k = false) : Passes [ev] e e' := by
  refine ⟨leaves, fun k m r there isOpen => ?_⟩
  by_cases same : k = s
  · exact .inl ((torn m (same ▸ there)).shut r isOpen).2
  · refine .inr ⟨?_, m, (spares k same).1.trans there, isOpen⟩
    simpa using turns k same

/-! ## What the multiplexers were handed -/

def Served (settings : MuxSettings) (out : SessionId → Outlet (Link σ)) (handed : SessionId → List Bytes)
    (e : TunnelEnd σ) : Prop :=
  ∀ s m, e.routes.get? s = some m → Serves settings (out s) (handed s) m

theorem Served.work (h : e.Served settings out handed) {f : Desk (Link σ) → Desk (Link σ)}
    (own : ∀ d, Serves settings (out s) (handed s) d.mux → Serves settings (out s) (handed' s) (f d).mux)
    (others : ∀ k, k ≠ s → handed' k = handed k) : (e.work s f).Served settings out handed' := by
  intro k m' found
  rw [get?_work] at found
  split at found
  · next same =>
    subst same
    obtain ⟨m, there, rfl⟩ := Option.map_eq_some_iff.mp found
    exact own (e.desk m) (h k m there)
  · next other =>
    rw [others k other]
    exact h k m' found

variable [Channel σ]

theorem Parted.tornDown_finish (h : e.Parted) (status : RunStatus) (there : e.routes.get? s = some m) :
    TornDown s m e (e.finish status) := by
  have mem : s ∈ e.routes.keys := List.mem_map_of_mem (f := Prod.fst) (Table.mem_of_get? there)
  obtain ⟨first, rest, keys, new⟩ := List.eq_append_cons_of_mem mem
  have closed := (h.housed.closeSessions first).housed.closeSession s
  have closedAll := closed.housed.closeSessions rest
  have all := switch_closeAll (e := e)
  rw [keys, List.foldl_append, List.foldl_cons] at all
  rw [← all] at closedAll
  have finished := closedAll.housed.finish status
  rw [finish_closeAll] at finished
  have empty : (e.finish status).routes.keys = [] := keys_closeAll e
  exact h.housed.tornDown there new (closedAll.sockets.trans finished.sockets) fun r _ => not_has_of_keys_nil empty r

/-! ## Link events -/

def Handles (e e' : TunnelEnd σ) : LinkEvent → Prop
  | .opened s _ => e'.routes.get? s = some e.fresh ∧ (∀ m, e.routes.get? s = some m → TornDown s m e e') ∧
      Spares s e e'
  | .closed s _ => e'.routes.get? s = none ∧ (∀ m, e.routes.get? s = some m → TornDown s m e e') ∧
      Spares s e e'
  | .message s data =>
      e'.routes.get? s = (e.routes.get? s).map (fun m => ((e.desk m).packet (outlet s) data).mux) ∧
      (e.routes.get? s = none → e' = e) ∧ Spares s e e'
  | .reconnecting .. => e' = e
  | .disconnected reason => e'.status = .failed (.linkLost reason) ∧
      (TunnelError.linkLost reason).message = "Link to peer lost: " ++ reason.message ∧
      e'.routes.keys = [] ∧ ∀ s m, e.routes.get? s = some m → TornDown s m e e'

theorem Parted.handles (h : e.Parted) (running : e.status.isRunning = true) (ev : LinkEvent) :
    Handles e (e.drive ev) ev := by
  cases ev with
  | opened s peer =>
      have others (k : SessionId) (other : k ≠ s) := (get?_openSession s k e).trans (if_neg other)
      have own := (get?_openSession s s e).trans (if_pos rfl)
      rw [drive_opened running]
      refine ⟨own, fun m there => h.tornDown_renew others (fun m' r found => ?_) there, h.spares_renew s others⟩
      obtain rfl := Option.some.inj (own.symm.trans found)
      rfl
  | closed s reason =>
      have others (k : SessionId) (other : k ≠ s) := (get?_closeSession s k e).trans (if_neg other)
      have own := (get?_closeSession s s e).trans (if_pos rfl)
      rw [drive_closed running]
      exact ⟨own, fun m there => h.tornDown_renew others (fun m' r found => nomatch own.symm.trans found) there,
        h.spares_renew s others⟩
  | message s data =>
      rw [drive_message running]
      exact ⟨(get?_work s s _ e).trans (if_pos rfl), fun none => work_of_none none _,
        (h.confined_packet s (outlet s) data).spares⟩
  | reconnecting n port => exact drive_reconnecting n port
  | disconnected reason =>
      rw [drive_disconnected running]
      exact ⟨rfl, rfl, keys_closeAll e, fun s m there => h.tornDown_finish _ there⟩

theorem Parted.passes_drive (h : e.Parted) (idle : e.status.isRunning = false → e.routes.keys = [])
    (ev : LinkEvent) : Passes [ev] e (e.drive ev) := by
  have leaves := h.housed.drive ev
  cases running : e.status.isRunning with
  | false =>
      refine ⟨leaves, fun s m r there => ?_⟩
      rw [get?_of_keys_nil (idle running) s] at there
      cases there
  | true =>
      have handles := h.handles running ev
      cases ev with
      | opened s peer =>
          obtain ⟨-, torn, spares⟩ := handles
          exact spares.passes leaves torn fun k other => by simp [LinkEvent.turns, other.symm]
      | closed s reason =>
          obtain ⟨-, torn, spares⟩ := handles
          exact spares.passes leaves torn fun k other => by simp [LinkEvent.turns, other.symm]
      | message s data =>
          rw [drive_message running]
          exact (h.work (h.confined_packet s (outlet s) data)).passes (by simp [LinkEvent.turns])
      | reconnecting n port =>
          rw [drive_reconnecting]
          exact (Tends.refl h).passes (by simp [LinkEvent.turns])
      | disconnected reason =>
          obtain ⟨-, -, -, torn⟩ := handles
          exact ⟨leaves, fun s m r there isOpen => .inl ((torn s m there).shut r isOpen).2⟩

theorem Parted.drive (h : e.Parted) (ev : LinkEvent) : (e.drive ev).Parted := by
  cases running : e.status.isRunning with
  | false => rwa [drive_of_not_running running]
  | true =>
      cases ev with
      | opened s peer => exact drive_opened running peer ▸ h.openSession s
      | closed s reason => exact drive_closed running reason ▸ h.closeSession s
      | message s data =>
          rw [drive_message running]
          exact (h.work (h.confined_packet s (outlet s) data)).parted
      | reconnecting n port => rwa [drive_reconnecting]
      | disconnected reason => exact drive_disconnected running reason ▸ h.finish _

theorem settings_drive (e : TunnelEnd σ) (ev : LinkEvent) : (e.drive ev).settings = e.settings := by
  cases running : e.status.isRunning with
  | false => rw [drive_of_not_running running]
  | true =>
      cases ev with
      | opened s peer => exact drive_opened running peer ▸ settings_work s _ e
      | closed s reason => exact drive_closed running reason ▸ settings_work s _ e
      | message s data => exact drive_message running data ▸ settings_work s _ e
      | reconnecting n port => rw [drive_reconnecting]
      | disconnected reason =>
          rw [drive_disconnected running]
          rfl

theorem contains_drive (running : e.status.isRunning = true) {ev : LinkEvent} (kept : ev.loss? = none)
    (s : SessionId) :
    (e.drive ev).routes.contains s = if ev.turns s then ev.opens s else e.routes.contains s := by
  cases ev with
  | opened k peer =>
      rw [contains_drive_opened running]
      by_cases same : s = k <;> simp [LinkEvent.turns, LinkEvent.opens, same, eq_comm]
  | closed k reason =>
      rw [contains_drive_closed running]
      by_cases same : s = k <;> simp [LinkEvent.turns, LinkEvent.opens, same, eq_comm]
  | message k data => exact contains_drive_message running k s data
  | reconnecting n port => rw [drive_reconnecting]; rfl
  | disconnected reason => cases kept

theorem status_drive (running : e.status.isRunning = true) {ev : LinkEvent} (kept : ev.loss? = none) :
    (e.drive ev).status = e.status := by
  cases ev with
  | opened s peer => exact drive_opened running peer ▸ status_openSession s e
  | closed s reason => exact drive_closed running reason ▸ status_closeSession s e
  | message s data => exact drive_message running data ▸ status_work s _ e
  | reconnecting n port => rw [drive_reconnecting]
  | disconnected reason => cases kept

theorem Served.drive (h : e.Served settings outlet (given · events)) (running : e.status.isRunning = true)
    (settings_eq : e.settings.mux = settings) {ev : LinkEvent} (kept : ev.loss? = none) :
    (e.drive ev).Served settings outlet (given · (events ++ [ev])) := by
  have quiet {ev : LinkEvent} {s : SessionId} {m : Multiplexer} (kept : ev.opens s = false)
      (other : ev.payload? s = none) (there : e.routes.get? s = some m) :
      Serves settings (outlet s : Outlet (Link σ)) (given s (events ++ [ev])) m := by
    rw [given_concat_of_quiet kept other]
    exact h s m there
  cases ev with
  | opened k peer =>
      intro s m there
      rw [drive_opened running, get?_openSession] at there
      split at there
      · next same =>
        obtain rfl := Option.some.inj there
        have begins : given s (events ++ [.opened k peer]) = [] :=
          (given_concat ..).trans (if_pos (by simp [LinkEvent.opens, same]))
        dsimp only
        rw [begins, fresh, settings_eq]
        exact .start _
      · next other => exact quiet (by simpa [LinkEvent.opens] using Ne.symm other) rfl there
  | closed k reason =>
      intro s m there
      rw [drive_closed running, get?_closeSession] at there
      split at there
      · cases there
      · exact quiet rfl rfl there
  | message k data =>
      rw [drive_message running]
      refine h.work (fun d serves => ?_) fun s other => ?_
      · have grown : given k (events ++ [.message k data]) = given k events ++ [data] := by
          simp [given_concat, LinkEvent.opens, LinkEvent.payload?]
        exact grown ▸ serves.packet data
      · exact given_concat_of_quiet rfl (if_neg (Ne.symm other))
  | reconnecting n port =>
      intro s m there
      rw [drive_reconnecting] at there
      exact quiet rfl rfl there
  | disconnected reason => cases kept

theorem Served.handOnce (h : e.Served settings outlet handed) : e.handOnce.Served settings outlet handed := by
  have attach (c : SocketId) : (e.attach c).2.Served settings outlet handed := by
    cases carries : e.link.state.primary with
    | none =>
        rw [attach_of_none carries]
        exact h
    | some s =>
        cases found : e.routes.get? s with
        | none =>
            rw [attach_of_no_route carries found]
            exact h
        | some m =>
            rw [attach_of_route carries found]
            exact h.work (fun d serves => serves.attach c) fun _ _ => rfl
  rw [TunnelEnd.handOnce]
  cases e.next? with
  | none => exact h
  | some found => exact attach found.1

theorem Served.take_knock (h : e.Served settings outlet handed) :
    (e.take .knock).Served settings outlet handed := by
  rw [TunnelEnd.take]
  split <;> exact h

theorem Served.take_far (h : e.Served settings outlet handed) (c : SocketId) (a : FarAct) :
    (e.take (.far c a)).Served settings outlet handed := by
  rw [TunnelEnd.take_far]
  have acted : Served settings outlet handed { e with sockets := (e.sockets.act c a).2 } := h
  cases ({ e with sockets := (e.sockets.act c a).2 } : TunnelEnd σ).board.owner? c with
  | none => exact acted
  | some s => exact acted.work (fun d serves => serves.read c) fun _ _ => rfl

end

/-! ## Moves -/

/-- What can happen to an end between its start and the end of its run. -/
inductive Move (σ : Type) where
  | event (ev : LinkEvent)
  | relink (link : Link σ)
  | endEvents
  | knock
  | far (socket : SocketId) (a : FarAct)
  | handOn

section

variable {σ : Type}

def Move.event? : Move σ → Option LinkEvent
  | event ev => some ev
  | _ => none

def reported (moves : List (Move σ)) : List LinkEvent :=
  moves.filterMap Move.event?

variable [Channel σ]

def move (e : TunnelEnd σ) : Move σ → TunnelEnd σ
  | .event ev => e.drive ev
  | .relink link => { e with link }
  | .endEvents => e.endEvents
  | .knock => e.take .knock
  | .far socket a => e.take (.far socket a)
  | .handOn => e.handOnce

def moved (e : TunnelEnd σ) (moves : List (Move σ)) : TunnelEnd σ :=
  moves.foldl move e

structure Bare (e : TunnelEnd σ) : Prop where
  running : e.status = .running
  routes : e.routes.keys = []
  idle : e.acceptor.waiting = []
  housed : e.Housed

/-- What the link events tell of an end. -/
structure Reflects (settings : MuxSettings) (events : List LinkEvent) (e : TunnelEnd σ) : Prop where
  parted : e.Parted
  settings_eq : e.settings.mux = settings
  status_eq : e.status = (lossIn? events).elim .running fun reason => .failed (.linkLost reason)
  routed : ∀ s, e.routes.contains s = true ↔
    lossIn? events = none ∧ ∃ peer, lastTurn? s events = some (.opened s peer)
  served : e.Served settings outlet (given · events)

variable {e e' : TunnelEnd σ} {settings : MuxSettings} {events : List LinkEvent}

theorem Bare.reflects (h : e.Bare) : Reflects e.settings.mux [] e := by
  refine ⟨h.housed.parted h.routes h.idle, rfl, h.running, fun s => ?_, fun s m there => ?_⟩
  · rw [Table.contains, get?_of_keys_nil h.routes s]
    simp [lastTurn?]
  · rw [get?_of_keys_nil h.routes s] at there
    cases there

theorem Reflects.tends (h : Reflects settings events e) (tends : e.Tends e')
    (served : e'.Served settings outlet (given · events)) : Reflects settings events e' := by
  refine ⟨tends.parted, tends.settings ▸ h.settings_eq, tends.status.trans h.status_eq, fun s => ?_, served⟩
  rw [tends.contains]
  exact h.routed s

theorem Reflects.lost (h : Reflects settings events e) (lost : lossIn? events ≠ none) (ev : LinkEvent) :
    e.routes.keys = [] ∧ e.drive ev = e := by
  refine ⟨Table.keys_eq_nil_iff.mpr fun ⟨s, there⟩ => lost ((h.routed s).mp there).1, ?_⟩
  obtain ⟨reason, lost⟩ := Option.ne_none_iff_exists'.mp lost
  refine drive_of_not_running ?_ ev
  rw [h.status_eq, lost]
  rfl

theorem Reflects.drive (h : Reflects settings events e) (ev : LinkEvent) :
    Reflects settings (events ++ [ev]) (e.drive ev) := by
  have without {e' : TunnelEnd σ} (empty : e'.routes.keys = []) (lost : lossIn? (events ++ [ev]) ≠ none) :
      (∀ s, e'.routes.contains s = true ↔
        lossIn? (events ++ [ev]) = none ∧ ∃ peer, lastTurn? s (events ++ [ev]) = some (.opened s peer)) ∧
      e'.Served settings outlet (given · (events ++ [ev])) := by
    refine ⟨fun s => ?_, fun s m there => ?_⟩
    · rw [Table.contains, get?_of_keys_nil empty s]
      simp [lost]
    · rw [get?_of_keys_nil empty s] at there
      cases there
  have parted := h.parted.drive ev
  have settings_eq := (congrArg Settings.mux (settings_drive e ev)).trans h.settings_eq
  have status_eq := h.status_eq
  cases lost : lossIn? events with
  | some reason =>
      have lost' : lossIn? (events ++ [ev]) = some reason := by rw [lossIn?_concat, lost, Option.some_or]
      obtain ⟨empty, same⟩ := h.lost (by simp [lost]) ev
      obtain ⟨routed, served⟩ := without (same.symm ▸ empty) (by simp [lost'])
      exact ⟨parted, settings_eq, by rw [same, status_eq, lost, lost'], routed, served⟩
  | none =>
      have running : e.status.isRunning = true := by
        rw [status_eq, lost]
        rfl
      have lost' : lossIn? (events ++ [ev]) = ev.loss? := by rw [lossIn?_concat, lost, Option.none_or]
      cases kept : ev.loss? with
      | some reason =>
          obtain rfl : ev = .disconnected reason := by
            cases ev <;> simp_all [LinkEvent.loss?]
          obtain ⟨failed, -, empty, -⟩ := h.parted.handles running (.disconnected reason)
          obtain ⟨routed, served⟩ := without empty (by simp [lost', kept])
          exact ⟨parted, settings_eq, by rw [failed, lost', kept]; rfl, routed, served⟩
      | none =>
          refine ⟨parted, settings_eq, ?_, fun s => ?_, h.served.drive running h.settings_eq kept⟩
          · rw [status_drive running kept, status_eq, lost, lost', kept]
          · rw [contains_drive running kept, lost', kept, lastTurn?_concat]
            have routed := h.routed s
            rw [lost] at routed
            cases turns : ev.turns s with
            | false => simpa using routed
            | true => cases ev <;> simp_all [LinkEvent.turns, LinkEvent.opens]

theorem Reflects.move (h : Reflects settings events e) (m : Move σ) :
    Reflects settings (events ++ m.event?.toList) (e.move m) ∧ Passes m.event?.toList e (e.move m) := by
  have within {e' : TunnelEnd σ} (tends : e.Tends e') (served : e'.Served settings outlet (given · events)) :
      Reflects settings (events ++ []) e' ∧ Passes [] e e' :=
    ⟨(List.append_nil events).symm ▸ h.tends tends served, tends.passes (by simp)⟩
  cases m with
  | event ev =>
      refine ⟨h.drive ev, h.parted.passes_drive (fun failed => ?_) ev⟩
      refine (h.lost (fun kept => ?_) ev).1
      rw [h.status_eq, kept] at failed
      cases failed
  | relink link => exact within (h.parted.same rfl rfl rfl rfl (.refl _)) h.served
  | endEvents => exact within (h.parted.same rfl rfl rfl rfl (.refl _)) h.served
  | knock => exact within h.parted.take_knock h.served.take_knock
  | far c a => exact within (h.parted.take_far c a) (h.served.take_far c a)
  | handOn => exact within h.parted.handOnce h.served.handOnce

theorem Reflects.moved (h : Reflects settings events e) (moves : List (Move σ)) :
    Reflects settings (events ++ reported moves) (e.moved moves) ∧ Passes (reported moves) e (e.moved moves) := by
  induction moves generalizing e events with
  | nil => exact ⟨(List.append_nil events).symm ▸ h, (Tends.refl h.parted).passes (by simp [reported])⟩
  | cons m rest ih =>
      obtain ⟨reflects, first⟩ := h.move m
      obtain ⟨reflects, later⟩ := ih reflects
      have events_eq : reported (m :: rest) = m.event?.toList ++ reported rest := by
        rw [reported, List.filterMap_cons, reported]
        cases m.event? <;> rfl
      rw [events_eq, ← List.append_assoc]
      exact ⟨reflects, first.trans later⟩

theorem bare_setUp (routes : e.routes.keys = []) (idle : e.acceptor.waiting = []) (housed : e.Housed) :
    (setUp { e with status := .running }.sample).2.Bare := by
  have same : e.Leaves { e with status := .running } := housed.same rfl rfl rfl
  have began : Bare { e with status := .running } := ⟨rfl, routes, idle, same.housed⟩
  generalize ({ e with status := .running } : TunnelEnd σ) = e₁ at began
  have sampled : e₁.sample.Bare := by
    refine ⟨?_, ?_, ?_, began.housed.sample.housed⟩ <;> rw [sample] <;> split
    exacts [began.running, began.running, began.routes, began.routes, began.idle, began.idle]
  generalize e₁.sample = e₂ at sampled
  have ready : e₂.setUp.2.status = e₂.status ∧ e₂.setUp.2.routes = e₂.routes ∧
      e₂.setUp.2.acceptor.waiting = e₂.acceptor.waiting := by
    rw [setUp]
    split
    · split <;> exact ⟨rfl, rfl, rfl⟩
    · split
      · exact ⟨rfl, rfl, rfl⟩
      · dsimp only
        split <;> exact ⟨rfl, rfl, rfl⟩
  obtain ⟨status, routes, waiting⟩ := ready
  exact ⟨status.trans sampled.running, routes ▸ sampled.routes, waiting.trans sampled.idle,
    sampled.housed.setUp.housed⟩

theorem driveAll_eq_moved (e : TunnelEnd σ) :
    e.driveAll = e.moved (.relink e.link.takeEvents.2 :: e.link.takeEvents.1.map .event) := by
  rw [moved, List.foldl_cons, List.foldl_map]
  rfl

theorem exists_moves_step (running : e.status.isRunning = true) {a : EndAct} (goes : a ≠ .stop) :
    ∃ moves, e.step a = e.moved moves := by
  have takes : ∃ moves, e.take a = e.moved moves := by
    have begun : ¬ e.status = .notStarted := by
      intro waits
      rw [waits] at running
      cases running
    cases a with
    | start =>
        refine ⟨[], ?_⟩
        change e.run.2 = e
        rw [run, if_neg begun]
    | event ev =>
        rw [take, if_neg begun, if_pos running]
        split
        · exact ⟨[], rfl⟩
        · let l := (e.link.handle ev).2
          rw [driveAll_eq_moved]
          exact ⟨.relink l :: .relink l.takeEvents.2 :: l.takeEvents.1.map .event, rfl⟩
    | endEvents => exact ⟨[.endEvents], rfl⟩
    | knock => exact ⟨[.knock], rfl⟩
    | far socket a => exact ⟨[.far socket a], rfl⟩
    | pass elapsed =>
        change ∃ moves, e.pass elapsed = e.moved moves
        rw [pass, sample, if_pos running]
        split
        · exact ⟨[.relink e.link.samplePing.2], rfl⟩
        · exact ⟨[], rfl⟩
    | stop => exact absurd rfl goes
  have hands (n : Nat) (e : TunnelEnd σ) : TunnelEnd.handOnce^[n] e = e.moved (List.replicate n .handOn) := by
    induction n generalizing e with
    | zero => rfl
    | succ n ih => exact ih e.handOnce
  obtain ⟨moves, taken⟩ := takes
  obtain ⟨n, steps⟩ := step_eq e a
  refine ⟨moves ++ List.replicate n .handOn, ?_⟩
  rw [steps, hands, taken, moved, moved, moved, List.foldl_append]

/-- Whatever happens during a run, the link events up to then tell which sessions have a multiplexer and what
it was handed, and that the run goes on or why it failed. The next event opens, closes or serves its session
and leaves the others alone; a multiplexer that loses its session is torn down, and its streams are closed
for good. After the loss of the link nothing is done. -/
theorem routes_follow_events {start : TunnelEnd σ} (bare : start.Bare) (moves : List (Move σ)) :
    let e := start.moved moves
    let events := reported moves
    Reflects start.settings.mux events e ∧
    (∀ ev, (lossIn? events = none → Handles e (e.drive ev) ev) ∧ (lossIn? events ≠ none → e.drive ev = e)) ∧
    ∀ before after, moves = before ++ after → Passes (reported after) (start.moved before) e := by
  intro e events
  have reflects : Reflects start.settings.mux events e := (bare.reflects.moved moves).1
  refine ⟨reflects, fun ev => ⟨fun kept => ?_, fun lost => (reflects.lost lost ev).2⟩, ?_⟩
  · refine reflects.parted.handles ?_ ev
    rw [reflects.status_eq, kept]
    rfl
  · rintro before after rfl
    have later := ((bare.reflects.moved before).1.moved after).2
    rw [moved, moved, ← List.foldl_append] at later
    exact later

theorem routes_follow_events_reopened :
    let settings : Settings := { role := .host, identity := "host", targetPort := some 7 }
    let start := (setUp { ready settings ({} : Script) .serving none with status := .running }.sample).2
    let raw := (Packet.data (.scattered 0) [1]).encode
    let moves : List (Move Script) := [.event (.opened ⟨1⟩ "guest"), .event (.message ⟨1⟩ raw)]
    let ev : LinkEvent := .opened ⟨1⟩ "guest"
    let e := start.moved moves
    start.Bare ∧ Reflects start.settings.mux (reported moves) e ∧ given ⟨1⟩ (reported moves) = [raw] ∧
    e.streamCount = 1 ∧ Handles e (e.drive ev) ev ∧ (e.drive ev).streamCount = 0 ∧
    (e.drive ev).sockets.pipes.get? (.service 1) = some { toFar := [1], nearClosed := true } := by
  intro settings start raw moves ev e
  have bare : start.Bare := bare_setUp rfl rfl (housed_ready settings ({} : Script) .serving none)
  obtain ⟨reflects, handles, -⟩ := routes_follow_events bare moves
  exact ⟨bare, reflects, by decide +kernel, by decide +kernel, (handles ev).1 rfl, by decide +kernel,
    by decide +kernel⟩

end

end TunnelEnd
end StreamTunnel
