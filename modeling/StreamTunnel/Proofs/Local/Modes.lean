import Mathlib.Data.List.Nodup
import StreamTunnel.Local.Entrance
import StreamTunnel.Proofs.Local.Serving
import StreamTunnel.Proofs.Mux.Coming

namespace StreamTunnel

inductive EntranceEvent where
  | start
  | stop
  | connect
  | desk (e : DeskEvent)

namespace Entrance

def happen (e : Entrance) : EntranceEvent → Entrance
  | .start => e.start
  | .stop => e.stop
  | .connect => e.connect
  | .desk event => (e.change fun d => ((), d.happen event)).2

def run (e : Entrance) (events : List EntranceEvent) : Entrance :=
  events.foldl happen e

end Entrance

structure Porter where
  acceptor : Acceptor
  desk : Desk Outbox
  offers : List (Offer (Desk Outbox)) := []
  arrived : List SocketId := []

namespace Porter

def attach (refuses : SocketId → Bool) (socket : SocketId) (d : Desk Outbox) : Option StreamRef × Desk Outbox :=
  Entrance.attach (refuses socket) socket d

def settle (refuses : SocketId → Bool) (p : Porter) : Porter :=
  let (acceptor, desk, offers) :=
    p.acceptor.serve (Acceptor.noting (attach refuses)) (fun r w => w.1.mux.isOpen r) (p.desk, p.offers)
  { p with acceptor, desk, offers }

def change (p : Porter) : EntranceEvent → Porter
  | .start => { p with acceptor := p.acceptor.start }
  | .stop => { p with acceptor := p.acceptor.stop }
  | .connect =>
      { p with
        acceptor := p.acceptor.arrive p.desk.sockets.arrive.1
        desk := { p.desk with sockets := p.desk.sockets.arrive.2 }
        arrived := p.arrived ++ [p.desk.sockets.arrive.1] }
  | .desk e => { p with desk := p.desk.happen e }

def happen (refuses : SocketId → Bool) (p : Porter) : EntranceEvent → Porter
  | .stop => p.change .stop
  | e => (p.change e).settle refuses

def run (refuses : SocketId → Bool) (p : Porter) (events : List EntranceEvent) : Porter :=
  events.foldl (happen refuses) p

def start (mode : AcceptMode) (settings : MuxSettings) (isHost : Bool) (target : Target) : Porter where
  acceptor := { mode }
  desk := { mux := .start settings isHost, outlet := {}, sockets := { target } }

def entrance (refuses : Bool) (p : Porter) : Entrance :=
  { acceptor := p.acceptor, desk := p.desk, refuses }

variable {mode : AcceptMode} {refuses : SocketId → Bool} {p : Porter} {c : SocketId} {r : StreamRef}
variable {d : Desk Outbox}

theorem socket_of_attach (gets : (attach refuses c d).1 = some r) : r.socket = c := by
  rw [attach, Entrance.attach] at gets
  split at gets
  · cases gets
  · exact Desk.socket_of_attach gets

theorem attach_brings (h : d.sockets.Numbered) (refuses : SocketId → Bool) (c : SocketId) :
    d.sockets.Grows (attach refuses c d).2.sockets ∧
      ∀ r, (attach refuses c d).2.mux.isOpen r = true →
        d.mux.isOpen r = true ∨ d.sockets.pipes.contains r.socket = false ∨ r.socket = c := by
  rw [attach, Entrance.attach]
  split
  · have closed := Desk.follows_closeNear h c
    exact ⟨closed.sockets, fun r there => (closed.comes r there).imp_right .inl⟩
  · exact Desk.attach_brings h .outbox c

/-- The clients that came are those that were handed on and those that wait. In single mode the stream that is
waited for is the last one, and whoever was handed on found the others over. -/
structure Fair (mode : AcceptMode) (refuses : SocketId → Bool) (p : Porter) : Prop where
  mode_eq : p.acceptor.mode = mode
  order : p.offers.map Offer.socket ++ p.acceptor.waiting = p.arrived
  once : p.arrived.Nodup
  numbered : p.desk.sockets.Numbered
  there : ∀ c ∈ p.arrived, p.desk.sockets.pipes.contains c = true
  given : ∀ o ∈ p.offers, o.given = (attach refuses o.socket o.world).1
  serving : mode = .single → ∀ o ∈ p.offers, ∀ r, o.given = some r →
    p.desk.mux.isOpen r = true → p.acceptor.serving = some r
  last : ∀ r, p.acceptor.serving = some r →
    mode = .single ∧ ∃ before o, p.offers = before ++ [o] ∧ o.given = some r
  alone : mode = .single → p.offers.Pairwise fun o o' => ∀ r, o.given = some r → o'.world.mux.isOpen r = false

theorem Fair.known (fair : p.Fair mode refuses) {o : Offer (Desk Outbox)} (mem : o ∈ p.offers)
    (gets : o.given = some r) : r.socket = o.socket ∧ p.desk.sockets.pipes.contains r.socket = true := by
  have own : r.socket = o.socket := socket_of_attach ((fair.given o mem).symm.trans gets)
  have came : o.socket ∈ p.arrived := by
    rw [← fair.order]
    exact List.mem_append_left _ (List.mem_map_of_mem mem)
  exact ⟨own, own ▸ fair.there _ came⟩

theorem Fair.gone (fair : p.Fair mode refuses) (free : p.acceptor.serving = none) (single : mode = .single)
    {o : Offer (Desk Outbox)} (mem : o ∈ p.offers) (gets : o.given = some r) : p.desk.mux.isOpen r = false := by
  rw [← Bool.not_eq_true]
  intro isOpen
  have serves := fair.serving single o mem r gets isOpen
  rw [free] at serves
  cases serves

theorem Fair.release (fair : p.Fair mode refuses) :
    Fair mode refuses { p with acceptor := p.acceptor.release (p.desk.mux.isOpen ·) } := by
  refine { fair with serving := fun single o mem r gets isOpen => ?_, last := fun r waits => ?_ }
  · have serves := fair.serving single o mem r gets isOpen
    simp [Acceptor.release, serves, isOpen]
  · exact fair.last r (Option.filter_eq_some_iff.mp waits).1

theorem Fair.follow (fair : p.Fair mode refuses) (follows : p.desk.Follows d) :
    Fair mode refuses { p with desk := d } := by
  refine { fair with
    numbered := follows.sockets.numbered
    there := fun c mem => follows.sockets.there c (fair.there c mem)
    serving := fun single o mem r gets isOpen => fair.serving single o mem r gets ?_ }
  rw [← Bool.not_eq_false]
  intro gone
  rw [follows.gone (fair.known mem gets).2 gone] at isOpen
  cases isOpen

theorem Fair.gone_after_attach {rest : List SocketId} (fair : p.Fair mode refuses) (free : p.acceptor.serving = none)
    (waiting : p.acceptor.waiting = c :: rest) (single : mode = .single) {o : Offer (Desk Outbox)}
    (mem : o ∈ p.offers) (gets : o.given = some r) : (attach refuses c p.desk).2.mux.isOpen r = false := by
  obtain ⟨own, known⟩ := fair.known mem gets
  have other : o.socket ≠ c := by
    have once := fair.once
    rw [← fair.order, waiting, List.nodup_append] at once
    exact once.2.2 _ (List.mem_map_of_mem mem) c List.mem_cons_self
  rw [← Bool.not_eq_true]
  intro isOpen
  rcases (attach_brings fair.numbered refuses c).2 r isOpen with before | unknown | mine
  · rw [fair.gone free single mem gets] at before
    cases before
  · rw [known] at unknown
    cases unknown
  · exact other (own.symm.trans mine)

theorem Fair.handOn {rest : List SocketId} (fair : p.Fair mode refuses) (free : p.acceptor.serving = none)
    (waiting : p.acceptor.waiting = c :: rest) :
    let t := attach refuses c p.desk
    Fair mode refuses { p with
      acceptor := { p.acceptor with waiting := rest }.handed t.1
      desk := t.2
      offers := p.offers ++ [⟨c, p.desk, t.1⟩] } := by
  intro t
  have grows := (attach_brings fair.numbered refuses c).1
  have serves : ({ p.acceptor with waiting := rest }.handed t.1).serving = if mode = .single then t.1 else none := by
    rw [Acceptor.serving_handed]
    dsimp only
    rw [fair.mode_eq, free]
  refine ⟨(Acceptor.mode_handed ..).trans fair.mode_eq, ?_, fair.once, grows.numbered,
    fun k mem => grows.there k (fair.there k mem), ?_, ?_, ?_, ?_⟩
  · rw [Acceptor.waiting_handed, List.map_append, List.append_assoc, ← fair.order, waiting]
    rfl
  · intro o mem
    rcases List.mem_append.mp mem with old | new
    · exact fair.given o old
    · cases List.mem_singleton.mp new
      rfl
  · rintro rfl o mem r gets isOpen
    rcases List.mem_append.mp mem with old | new
    · rw [fair.gone_after_attach free waiting rfl old gets] at isOpen
      cases isOpen
    · cases List.mem_singleton.mp new
      exact serves.trans gets
  · intro r waits
    rw [serves] at waits
    cases mode with
    | single => exact ⟨rfl, p.offers, _, rfl, waits⟩
    | concurrent => cases waits
  · intro single
    refine List.pairwise_append.mpr ⟨fair.alone single, List.pairwise_singleton _ _, ?_⟩
    intro o mem o' new r gets
    cases List.mem_singleton.mp new
    exact fair.gone free single mem gets

theorem Fair.arrive (fair : p.Fair mode refuses) : (p.change .connect).Fair mode refuses := by
  let t := p.desk.sockets.arrive
  have grows : p.desk.sockets.Grows t.2 := fair.numbered.arrive.1
  have follows : p.desk.Follows { p.desk with sockets := t.2 } := .of_entries rfl grows
  have came := fair.follow follows
  have new : t.1 ∉ p.arrived := by
    intro old
    have known := fair.there _ old
    rw [fair.numbered.new_of_arrive] at known
    cases known
  refine { came with order := ?_, once := List.nodup_append.mpr ⟨fair.once, List.nodup_singleton _, ?_⟩, there := ?_ }
  · rw [change, ← fair.order, List.append_assoc]
    rfl
  · intro k old k' mem
    cases List.mem_singleton.mp mem
    rintro rfl
    exact new old
  · intro k mem
    rcases List.mem_append.mp mem with old | mem
    · exact came.there k old
    · cases List.mem_singleton.mp mem
      exact fair.numbered.arrive.2

theorem Fair.change (fair : p.Fair mode refuses) (e : EntranceEvent) : (p.change e).Fair mode refuses := by
  cases e with
  | start | stop => exact { fair with }
  | desk e => exact fair.follow (Desk.follows_happen fair.numbered e)
  | connect => exact fair.arrive

def Settled (p : Porter) : Prop :=
  p.acceptor.Settled (p.desk.mux.isOpen ·)

theorem Fair.settle (fair : p.Fair mode refuses) :
    (p.settle refuses).Fair mode refuses ∧ (p.settle refuses).Settled ∧ p.offers <+: (p.settle refuses).offers := by
  obtain ⟨fair, settled⟩ :=
    Acceptor.serve_keeps (a := p.acceptor) (w := (p.desk, p.offers)) (Acceptor.noting (attach refuses))
      (fun r w => w.1.mux.isOpen r)
      (fun a w => Fair mode refuses { p with acceptor := a, desk := w.1, offers := w.2 })
      (fun _ _ h => h.release) (fun _ _ _ _ h _ free waiting => h.handOn free waiting) fair
  have grows := Acceptor.prefix_serveWith (attach refuses) (fun r w => w.1.mux.isOpen r)
    (p.acceptor.waiting.length + 1) p.acceptor (p.desk, p.offers)
  exact ⟨fair, settled, grows⟩

theorem Fair.happen (fair : p.Fair mode refuses) (settled : p.Settled) (e : EntranceEvent) :
    (p.happen refuses e).Fair mode refuses ∧ (p.happen refuses e).Settled ∧
      p.offers <+: (p.happen refuses e).offers := by
  have changed := fair.change e
  cases e with
  | start | connect | desk => exact changed.settle
  | stop =>
      have idle : p.acceptor.stop.isRunning = false := by simp [Acceptor.stop, Acceptor.isRunning]
      exact ⟨changed, ⟨congrArg Acceptor.stop settled.released, Acceptor.next?_of_not_running idle⟩,
        List.prefix_rfl⟩

theorem Fair.run (fair : p.Fair mode refuses) (settled : p.Settled) (events : List EntranceEvent) :
    (p.run refuses events).Fair mode refuses ∧ (p.run refuses events).Settled ∧
      p.offers <+: (p.run refuses events).offers := by
  induction events generalizing p with
  | nil => exact ⟨fair, settled, List.prefix_rfl⟩
  | cons e rest ih =>
      obtain ⟨fair, settled, grows⟩ := fair.happen settled e
      obtain ⟨fair, settled, more⟩ := ih fair settled
      exact ⟨fair, settled, grows.trans more⟩

theorem Fair.free (fair : p.Fair mode refuses)
    (gone : mode = .single → ∀ o ∈ p.offers, ∀ r, o.given = some r → p.desk.mux.isOpen r = false) :
    p.acceptor.serving.filter (p.desk.mux.isOpen ·) = none := by
  cases serving : p.acceptor.serving with
  | none => rfl
  | some r =>
      obtain ⟨single, before, o, list, gets⟩ := fair.last r serving
      have mem : o ∈ p.offers := by
        rw [list]
        exact List.mem_append_right _ (List.mem_singleton_self o)
      exact Option.filter_some_neg (by simp [gone single o mem r gets])

end Porter
end StreamTunnel
