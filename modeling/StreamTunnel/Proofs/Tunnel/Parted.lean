import StreamTunnel.Proofs.Mux.Coming
import StreamTunnel.Proofs.Mux.Within
import StreamTunnel.Proofs.Tunnel.Leaving

namespace StreamTunnel
namespace TunnelEnd

variable {σ : Type} {e e' : TunnelEnd σ} {s : SessionId} {m : Multiplexer} {r : StreamRef} {c : SocketId}

/-- A session may have a stream on the socket: no other session has one, and no client waits there. -/
def Private (s : SessionId) (e : TunnelEnd σ) (c : SocketId) : Prop :=
  c ∉ e.acceptor.waiting ∧ ∀ k m, k ≠ s → e.routes.get? k = some m → m.Owns (· ≠ c)

structure Parted (e : TunnelEnd σ) : Prop where
  housed : e.Housed
  own : ∀ s m, e.routes.get? s = some m → m.Owns (e.Private s)
  known : ∀ s m, e.routes.get? s = some m → m.Owns (fun c => e.sockets.pipes.contains c = true)
  nodup : e.acceptor.waiting.Nodup

structure Tends (e e' : TunnelEnd σ) : Prop where
  leaves : e.Leaves e'
  parted : e'.Parted
  status : e'.status = e.status
  settings : e'.settings = e.settings
  absent : ∀ s, e.routes.get? s = none → e'.routes.get? s = none
  stays : ∀ s m, e.routes.get? s = some m → ∃ m', e'.routes.get? s = some m' ∧
    ∀ r, m.isOpen r = true → m'.isOpen r = true ∨ e'.sockets.HasShut r.socket

theorem Tends.refl (h : e.Parted) : e.Tends e :=
  ⟨.refl h.housed, h, rfl, rfl, fun _ none => none, fun _ m there => ⟨m, there, fun _ isOpen => .inl isOpen⟩⟩

theorem Tends.trans {e'' : TunnelEnd σ} (first : e.Tends e') (second : e'.Tends e'') : e.Tends e'' := by
  refine ⟨first.leaves.trans second.leaves, second.parted, second.status.trans first.status,
    second.settings.trans first.settings, fun s none => second.absent s (first.absent s none),
    fun s m there => ?_⟩
  obtain ⟨m', there', stays'⟩ := first.stays s m there
  obtain ⟨m'', there'', stays''⟩ := second.stays s m' there'
  refine ⟨m'', there'', fun r isOpen => ?_⟩
  rcases stays' r isOpen with still | shut
  · exact stays'' r still
  · exact .inr (second.leaves.sockets.shut _ shut)

theorem Tends.contains (tends : e.Tends e') (s : SessionId) :
    e'.routes.contains s = e.routes.contains s := by
  rw [Table.contains, Table.contains]
  cases there : e.routes.get? s with
  | none => rw [tends.absent s there]
  | some m =>
      obtain ⟨m', there', -⟩ := tends.stays s m there
      rw [there']
      rfl

theorem Parted.keep (h : e.Parted) (routes : e'.routes = e.routes) (status : e'.status = e.status)
    (settings : e'.settings = e.settings) (grows : e.sockets.Grows e'.sockets)
    (nodup : e'.acceptor.waiting.Nodup) (waiting : ∀ c ∈ e'.acceptor.waiting, c ∈ e.acceptor.waiting ∨
      e.sockets.pipes.contains c = false ∧ e'.sockets.pipes.contains c = true) : e.Tends e' := by
  have leaves : e.Leaves e' := h.housed.keep routes grows fun c mem => (waiting c mem).imp_right And.right
  refine ⟨leaves, ⟨leaves.housed, fun s m there => ?_, fun s m there => ?_, nodup⟩, status, settings,
    fun s none => routes ▸ none, fun s m there => ⟨m, routes ▸ there, fun _ isOpen => .inl isOpen⟩⟩
  · rw [routes] at there
    intro x mem
    obtain ⟨idle, others⟩ := h.own s m there x mem
    refine ⟨fun waits => ?_, fun k m' other there' => others k m' other (routes ▸ there')⟩
    rcases waiting _ waits with old | ⟨new, -⟩
    · exact idle old
    · rw [h.known s m there x mem] at new
      cases new
  · rw [routes] at there
    exact fun x mem => grows.there _ (h.known s m there x mem)

theorem Parted.same (h : e.Parted) (routes : e'.routes = e.routes) (status : e'.status = e.status)
    (settings : e'.settings = e.settings) (sockets : e'.sockets = e.sockets)
    (waiting : e'.acceptor.waiting.Sublist e.acceptor.waiting) : e.Tends e' :=
  h.keep routes status settings (sockets.symm ▸ .refl h.housed.numbered) (h.nodup.sublist waiting) fun _ mem =>
    .inl (waiting.subset mem)

/-- What is done at the desk of a session keeps to sockets that are private to it. -/
structure Confined (s : SessionId) (e : TunnelEnd σ) (f : Desk (Link σ) → Desk (Link σ)) : Prop where
  leaves : ∀ m, e.routes.get? s = some m → (e.desk m).Leaves (f (e.desk m))
  within : ∀ m, e.routes.get? s = some m → (e.desk m).Within (e.Private s) (f (e.desk m))
  known : ∀ m, e.routes.get? s = some m →
    (f (e.desk m)).mux.Owns fun c => (f (e.desk m)).sockets.pipes.contains c = true

theorem settings_work (s : SessionId) (f : Desk (Link σ) → Desk (Link σ)) (e : TunnelEnd σ) :
    (e.work s f).settings = e.settings := by
  cases there : e.routes.get? s with
  | none => rw [work_of_none there]
  | some m => rw [work_of_some there]

theorem get?_work_of_some (there : e.routes.get? s = some m) (f : Desk (Link σ) → Desk (Link σ)) :
    (e.work s f).routes.get? s = some (f (e.desk m)).mux := by
  rw [get?_work, if_pos rfl, there, Option.map_some]

theorem get?_work_of_ne {k : SessionId} (other : k ≠ s) (f : Desk (Link σ) → Desk (Link σ)) :
    (e.work s f).routes.get? k = e.routes.get? k := by
  rw [get?_work, if_neg other]

theorem acceptor_work (s : SessionId) (f : Desk (Link σ) → Desk (Link σ)) (e : TunnelEnd σ) :
    (e.work s f).acceptor = e.acceptor := by
  cases there : e.routes.get? s with
  | none => rw [work_of_none there]
  | some m => rw [work_of_some there]

theorem Confined.private_work (h : e.Parted) {f : Desk (Link σ) → Desk (Link σ)} (confined : e.Confined s f)
    (there : e.routes.get? s = some m) {k : SessionId} {m' : Multiplexer}
    (found : (e.work s f).routes.get? k = some m') : m'.Owns ((e.work s f).Private k) := by
  have within := (confined.within m there).owns
  have own := get?_work_of_some there f
  intro x mem
  refine ⟨acceptor_work s f e ▸ ?_, fun j m'' other found' y mem' same => ?_⟩
  · by_cases mine : k = s
    · rw [mine, own] at found
      obtain rfl := Option.some.inj found
      exact (within x mem).1
    · exact (h.own k m' (get?_work_of_ne mine f ▸ found) x mem).1
  · -- one of the two sessions is not the one that is worked at
    by_cases mine : k = s
    · rw [mine] at other
      rw [mine, own] at found
      obtain rfl := Option.some.inj found
      exact (within x mem).2 j m'' other (get?_work_of_ne other f ▸ found') y mem' same
    · rw [get?_work_of_ne mine] at found
      by_cases its : j = s
      · rw [its, own] at found'
        obtain rfl := Option.some.inj found'
        exact (within y mem').2 k m' mine found x mem same.symm
      · exact (h.own k m' found x mem).2 j m'' other (get?_work_of_ne its f ▸ found') y mem' same

theorem Parted.work (h : e.Parted) {f : Desk (Link σ) → Desk (Link σ)} (confined : e.Confined s f) :
    e.Tends (e.work s f) := by
  cases there : e.routes.get? s with
  | none =>
      rw [work_of_none there]
      exact .refl h
  | some m =>
      have leaves : e.Leaves (e.work s f) := h.housed.work confined.leaves
      have own := get?_work_of_some there f
      have sockets : (e.work s f).sockets = (f (e.desk m)).sockets := by rw [work_of_some there]
      have known (k : SessionId) (m' : Multiplexer) (found : (e.work s f).routes.get? k = some m') :
          m'.Owns fun c => (e.work s f).sockets.pipes.contains c = true := by
        by_cases mine : k = s
        · rw [mine, own] at found
          obtain rfl := Option.some.inj found
          rw [sockets]
          exact confined.known m there
        · rw [get?_work_of_ne mine] at found
          exact fun x mem => leaves.sockets.there _ (h.known k m' found x mem)
      have parted : (e.work s f).Parted :=
        ⟨leaves.housed, fun k m' found => confined.private_work h there found, known,
          acceptor_work s f e ▸ h.nodup⟩
      refine ⟨leaves, parted, status_work s f e, settings_work s f e, fun k none => ?_, fun k m' found => ?_⟩
      · by_cases mine : k = s
        · rw [mine, there] at none
          cases none
        · rw [get?_work_of_ne mine, none]
      · by_cases mine : k = s
        · rw [mine, there] at found
          obtain rfl := Option.some.inj found
          rw [sockets]
          exact ⟨_, mine ▸ own, (confined.leaves _ there).stays⟩
        · exact ⟨m', (get?_work_of_ne mine f).trans found, fun _ isOpen => .inl isOpen⟩

theorem Confined.pipes_work {f : Desk (Link σ) → Desk (Link σ)} (confined : e.Confined s f)
    {k : SessionId} (other : k ≠ s) (found : e.routes.get? k = some m) (isOpen : m.isOpen r = true) :
    (e.work s f).sockets.pipes.get? r.socket = e.sockets.pipes.get? r.socket := by
  cases there : e.routes.get? s with
  | none => rw [work_of_none there]
  | some m' =>
      have foreign : ¬ e.Private s r.socket := by
        intro own
        obtain ⟨entry, entered, same⟩ := Multiplexer.isOpen_iff_entry.mp isOpen
        exact (own.2 k m other found).get? entered same
      rw [work_of_some there]
      exact (confined.within m' there).others r.socket foreign

theorem Parted.private_new (h : e.Parted) (new : e.sockets.pipes.contains c = false) (s : SessionId) :
    e.Private s c := by
  refine ⟨fun waits => ?_, fun k m other there x mem same => ?_⟩
  · rw [h.housed.waiting c waits] at new
    cases new
  · rw [← same, h.known k m there x mem] at new
    cases new

theorem Parted.confined_teardown (h : e.Parted) (s : SessionId) : e.Confined s (·.teardown) := by
  refine ⟨fun m there => (h.housed.desk there).teardown, fun m there => ?_, fun m there x mem => nomatch mem⟩
  exact Desk.within_teardown (d := e.desk m) (h.own s m there)

theorem Parted.confined_readSocket (h : e.Parted) (s : SessionId) (out : Outlet (Link σ)) (c : SocketId) :
    e.Confined s (·.readSocket out c) := by
  refine ⟨fun m there => (h.housed.desk there).readSocket out c, fun m there => ?_, fun m there => ?_⟩
  · exact Desk.within_readSocket (d := e.desk m) (h.own s m there) out c
  · have grows := ((h.housed.desk there).readSocket out c).sockets
    have known : (e.desk m).mux.Owns fun k => ((e.desk m).readSocket out c).sockets.pipes.contains k = true :=
      fun x mem => grows.there _ (h.known s m there x mem)
    exact (Desk.within_readSocket (d := e.desk m) known out c).owns

theorem Parted.confined_packet (h : e.Parted) (s : SessionId) (out : Outlet (Link σ)) (raw : Bytes) :
    e.Confined s (·.packet out raw) := by
  refine ⟨fun m there => (h.housed.desk there).packet out raw, fun m there => ?_, fun m there => ?_⟩
  · exact Desk.within_packet (d := e.desk m) (h.own s m there) out raw fun _ c dials =>
      h.private_new (h.housed.numbered.new_of_dial dials) s
  · have grows := ((h.housed.desk there).packet out raw).sockets
    have known : (e.desk m).mux.Owns fun k => ((e.desk m).packet out raw).sockets.pipes.contains k = true :=
      fun x mem => grows.there _ (h.known s m there x mem)
    refine (Desk.within_packet (d := e.desk m) known out raw fun wants c dials => ?_).owns
    obtain ⟨dialed, there⟩ := h.housed.numbered.dial
    rw [Desk.packet, if_pos wants]
    exact (dialed.numbered.performs _).1.there c (there c dials)

theorem Parted.confined_attach (h : e.Parted) {s : SessionId} (out : Outlet (Link σ)) (own : e.Private s c)
    (here : e.sockets.pipes.contains c = true) : e.Confined s (fun d => (d.attach out c).2) := by
  refine ⟨fun m there => ((h.housed.desk there).attach out here).1, fun m there => ?_, fun m there => ?_⟩
  · exact Desk.within_attach (d := e.desk m) (h.own s m there) out own
  · have grows := ((h.housed.desk there).attach out here).1.sockets
    have known : (e.desk m).mux.Owns fun k => ((e.desk m).attach out c).2.sockets.pipes.contains k = true :=
      fun x mem => grows.there _ (h.known s m there x mem)
    exact (Desk.within_attach (d := e.desk m) known out (grows.there c here)).owns

theorem Parted.renew (h : e.Parted) (s : SessionId) {routes : Table SessionId Multiplexer}
    (others : ∀ k, k ≠ s → routes.get? k = e.routes.get? k)
    (new : ∀ m, routes.get? s = some m → m.entries = ∅) :
    Parted { e.work s (·.teardown) with routes } := by
  have ended := (h.work (h.confined_teardown s)).parted
  have same {k : SessionId} (other : k ≠ s) : routes.get? k = (e.work s (·.teardown)).routes.get? k := by
    rw [others k other, get?_work_of_ne other]
  have none {m : Multiplexer} (found : routes.get? s = some m) (x : StreamId × Entry)
      (mem : x ∈ m.entries.toList) : False := by
    rw [new m found] at mem
    cases mem
  have housed := (h.housed.renew s others fun m r found => ?_).housed
  · refine ⟨housed, fun k m found x mem => ?_, fun k m found x mem => ?_, ended.nodup⟩
    · have other : k ≠ s := by
        rintro rfl
        exact none found x mem
      obtain ⟨idle, foreign⟩ := ended.own k m ((same other).symm.trans found) x mem
      refine ⟨idle, fun j m' away found' y mem' => ?_⟩
      have other' : j ≠ s := by
        rintro rfl
        exact none found' y mem'
      exact foreign j m' away ((same other').symm.trans found') y mem'
    · have other : k ≠ s := by
        rintro rfl
        exact none found x mem
      exact ended.known k m ((same other).symm.trans found) x mem
  · rw [Bool.eq_false_iff]
    intro isOpen
    obtain ⟨entry, entered, -⟩ := Multiplexer.isOpen_iff_entry.mp isOpen
    exact none found _ (Table.mem_of_get? entered)

theorem Parted.openSession (h : e.Parted) (s : SessionId) : (e.openSession s).Parted := by
  refine h.renew s (fun k other => (get?_openSession s k e).trans (if_neg other)) fun m found => ?_
  replace found : (e.openSession s).routes.get? s = some m := found
  rw [get?_openSession, if_pos rfl] at found
  obtain rfl := Option.some.inj found
  rfl

theorem Parted.closeSession (h : e.Parted) (s : SessionId) : (e.closeSession s).Parted := by
  refine h.renew s (fun k other => (get?_closeSession s k e).trans (if_neg other)) fun m found => ?_
  replace found : (e.closeSession s).routes.get? s = some m := found
  rw [get?_closeSession, if_pos rfl] at found
  cases found

theorem Housed.parted (h : e.Housed) (empty : e.routes.keys = []) (idle : e.acceptor.waiting = []) :
    e.Parted := by
  have none (s : SessionId) (m : Multiplexer) : e.routes.get? s ≠ some m := by
    rw [get?_of_keys_nil empty s]
    exact nofun
  exact ⟨h, fun s m there => absurd there (none s m), fun s m there => absurd there (none s m),
    idle ▸ List.nodup_nil⟩

theorem Parted.closeSocket (h : e.Parted) (c : SocketId) : e.Tends (e.closeSocket c) :=
  h.keep rfl rfl rfl (h.housed.numbered.modify c fun _ _ => rfl) h.nodup fun _ mem => .inl mem

variable [Channel σ]

theorem Parted.attach (h : e.Parted) (own : ∀ s, e.Private s c) (here : e.sockets.pipes.contains c = true) :
    e.Tends (e.attach c).2 := by
  cases carries : e.link.state.primary with
  | none =>
      rw [attach_of_none carries]
      exact h.closeSocket c
  | some s =>
      cases found : e.routes.get? s with
      | none =>
          rw [attach_of_no_route carries found]
          exact h.closeSocket c
      | some m =>
          rw [attach_of_route carries found]
          exact h.work (h.confined_attach (outlet s) (own s) here)

theorem Parted.handOnce (h : e.Parted) : e.Tends e.handOnce := by
  rw [TunnelEnd.handOnce]
  cases next : e.next? with
  | none => exact h.same rfl rfl rfl rfl (.refl _)
  | some found =>
      obtain ⟨c, a⟩ := found
      have waiting := next?_waiting next
      have nodup := waiting ▸ h.nodup
      -- the client leaves the queue before it is attached
      let e₁ : TunnelEnd σ := { e with acceptor := a }
      have left : e.Tends e₁ := h.same rfl rfl rfl rfl (waiting ▸ List.sublist_cons_self c a.waiting)
      have waits : c ∈ e.acceptor.waiting := waiting ▸ List.mem_cons_self
      have own (s : SessionId) : e₁.Private s c := by
        refine ⟨(List.nodup_cons.mp nodup).1, fun k m _ there x mem same => ?_⟩
        exact (h.own k m there x mem).1 (same ▸ waits)
      have attached := left.trans (left.parted.attach own (h.housed.waiting c waits))
      have handed : (a.handed (e.attach c).1).waiting = a.waiting := by
        rw [Acceptor.handed]
        split <;> rfl
      rw [show e₁ = { e with acceptor := a } from rfl, attach_acceptor] at attached
      refine attached.trans (attached.parted.same rfl rfl rfl rfl ?_)
      exact handed ▸ .refl _

theorem Parted.take_knock (h : e.Parted) : e.Tends (e.take .knock) := by
  rw [TunnelEnd.take]
  split
  · exact .refl h
  · obtain ⟨grows, there⟩ := h.housed.numbered.arrive
    have new := h.housed.numbered.new_of_arrive
    have fresh : e.sockets.arrive.1 ∉ e.acceptor.waiting := by
      intro waits
      rw [h.housed.waiting _ waits] at new
      cases new
    refine h.keep rfl rfl rfl grows ?_ fun c mem => ?_
    · refine List.nodup_append.mpr ⟨h.nodup, by simp, fun c mem k single same => fresh ?_⟩
      rwa [same, List.mem_singleton.mp single] at mem
    · rcases List.mem_append.mp mem with old | latest
      · exact .inl old
      · rw [List.mem_singleton.mp latest]
        exact .inr ⟨new, there⟩

theorem Parted.take_far (h : e.Parted) (c : SocketId) (a : FarAct) : e.Tends (e.take (.far c a)) := by
  rw [TunnelEnd.take_far]
  have acted : e.Tends { e with sockets := (e.sockets.act c a).2 } :=
    h.keep rfl rfl rfl (h.housed.numbered.act c a) h.nodup fun _ mem => .inl mem
  cases ({ e with sockets := (e.sockets.act c a).2 } : TunnelEnd σ).board.owner? c with
  | none => exact acted
  | some s => exact acted.trans (acted.parted.work (acted.parted.confined_readSocket s (outlet s) c))

theorem Parted.finish (h : e.Parted) (status : RunStatus) : (e.finish status).Parted :=
  (h.housed.finish status).housed.parted (keys_closeAll e) rfl

end TunnelEnd
end StreamTunnel
