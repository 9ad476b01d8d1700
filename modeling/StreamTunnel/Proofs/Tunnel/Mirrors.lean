import Mathlib.Data.List.Nodup
import StreamTunnel.Proofs.Mux.Renaming
import StreamTunnel.Proofs.Tunnel.Watch

namespace StreamTunnel

/-! ## The sockets of a session -/

def Dialed (n : Nat) (socket : SocketId) : Prop :=
  ∃ k, k ≤ n ∧ socket = .service k

def Elsewhere (own : List SocketId) (n : Nat) (socket : SocketId) : Prop :=
  socket ∉ own ∧ Dialed n socket

theorem Dialed.mono {n n' : Nat} {socket : SocketId} (h : Dialed n socket) (le : n ≤ n') :
    Dialed n' socket := by
  obtain ⟨k, few, rfl⟩ := h
  exact ⟨k, Nat.le_trans few le, rfl⟩

theorem not_dialed_succ (n : Nat) : ¬ Dialed n (.service (n + 1)) := by
  rintro ⟨k, few, same⟩
  obtain rfl := SocketId.service.inj same
  omega

section

variable {own more : List SocketId} {a b socket : SocketId}

theorem number_inj (a b : SocketId) (mem : a ∈ own) (_ : b ∈ own) (same : number own a = number own b) :
    a = b := by
  have index : own.idxOf a = own.idxOf b := Nat.succ.inj (SocketId.service.inj same)
  exact (List.idxOf_inj mem).mp index

theorem number_append (mem : a ∈ own) : number (own ++ more) a = number own a := by
  rw [number, number, List.idxOf_append_of_mem mem]

theorem number_new (new : a ∉ own) : number (own ++ [a]) a = .service (own.length + 1) := by
  rw [number, List.idxOf_append_of_notMem new]
  simp

theorem Multiplexer.rename_congr {P : SocketId → Prop} {ρ ρ' : SocketId → SocketId} {m : Multiplexer}
    (owns : m.Owns P) (same : ∀ c, P c → ρ c = ρ' c) : m.rename ρ = m.rename ρ' := by
  rw [rename, rename, Table.map, Table.map]
  congr 2
  apply List.map_congr_left
  intro e mem
  rw [Entry.rename, Entry.rename, same _ (owns e mem)]

theorem Multiplexer.rename_of_empty {ρ : SocketId → SocketId} {m : Multiplexer}
    (empty : m.entries = ∅) :
    m.rename ρ = m := by
  obtain ⟨settings, isHost, entries, missing⟩ := m
  obtain rfl : entries = ∅ := empty
  rfl

def Sockets.dialIf (wants : Bool) (t : Sockets) : Option SocketId × Sockets :=
  if wants then t.dial else (none, t)

theorem Desk.packet_eq {σ : Type} (out : Outlet σ) (raw : Bytes) (d : Desk σ) :
    d.packet out raw =
      { d with sockets := (d.sockets.dialIf (d.mux.wantsDial raw)).2 }.step
        (·.packet out raw (d.sockets.dialIf (d.mux.wantsDial raw)).1) := by
  rw [Desk.packet, Sockets.dialIf]
  split <;> rfl

def Sockets.dialed (t : Sockets) : Sockets :=
  { t with services := t.services + 1, pipes := t.pipes.insert (.service (t.services + 1)) {} }

theorem Sockets.dialIf_cases (wants : Bool) (t t' : Sockets) (target : t'.target = t.target) :
    (t.dialIf wants = (none, t) ∧ t'.dialIf wants = (none, t')) ∨
      (t.dialIf wants = (some (.service (t.services + 1)), t.dialed) ∧
        t'.dialIf wants = (some (.service (t'.services + 1)), t'.dialed)) := by
  cases wants with
  | false => exact .inl ⟨rfl, rfl⟩
  | true =>
      cases answers : t.target with
      | absent | refusing =>
          rw [answers] at target
          simp [dialIf, dial, answers, target]
      | serving | silent =>
          rw [answers] at target
          simp [dialIf, dial, dialed, answers, target]

structure Pictured (own : List SocketId) (t t' : Sockets) : Prop where
  nodup : own.Nodup
  dialed : ∀ c ∈ own, Dialed t.services c
  pipes_eq : ∀ c ∈ own, t'.pipes.get? (number own c) = t.pipes.get? c
  count_eq : t'.services = own.length
  target_eq : t'.target = t.target

variable {t t' u u' : Sockets}

theorem Pictured.new (h : Pictured own t t') : .service (t.services + 1) ∉ own :=
  fun mem => not_dialed_succ _ (h.dialed _ mem)

theorem Pictured.number_new (h : Pictured own t t') :
    number (own ++ [.service (t.services + 1)]) (.service (t.services + 1)) = .service (t'.services + 1) := by
  rw [StreamTunnel.number_new h.new, h.count_eq]

theorem Pictured.dial (h : Pictured own t t') :
    Pictured (own ++ [.service (t.services + 1)]) t.dialed t'.dialed := by
  refine ⟨?_, ?_, ?_, ?_, h.target_eq⟩
  · rw [List.nodup_append]
    refine ⟨h.nodup, List.nodup_singleton _, ?_⟩
    intro a mem b new
    rw [List.mem_singleton.mp new]
    exact ne_of_mem_of_not_mem mem h.new
  · rw [List.forall_mem_append, List.forall_mem_singleton]
    exact ⟨fun c mem => (h.dialed c mem).mono (Nat.le_succ _), _, Nat.le_refl _, rfl⟩
  · rw [List.forall_mem_append, List.forall_mem_singleton]
    refine ⟨fun c mem => ?_, ?_⟩
    · have apart : ¬ StreamTunnel.number own c = .service (t'.services + 1) := by
        intro same
        have index := Nat.succ.inj (SocketId.service.inj same)
        exact Nat.ne_of_lt (h.count_eq ▸ List.idxOf_lt_length_of_mem mem) index
      rw [number_append mem, Sockets.dialed, Sockets.dialed, Table.get?_insert, Table.get?_insert,
        if_neg apart, if_neg (ne_of_mem_of_not_mem mem h.new), h.pipes_eq c mem]
    · rw [h.number_new, Sockets.dialed, Sockets.dialed, Table.get?_insert, Table.get?_insert, if_pos rfl,
        if_pos rfl]
  · rw [Sockets.dialed, List.length_append, h.count_eq, List.length_singleton]

theorem Pictured.of_alike {σ : Type} {R : σ → List Bytes → Prop} {d : Desk σ} {d' : Desk (List Bytes)}
    (h : Pictured own t t') (alike : Desk.Alike (· ∈ own) (number own) R t t' d d') :
    Pictured own d.sockets d'.sockets := by
  refine ⟨h.nodup, ?_, alike.pipes_eq, ?_, ?_⟩
  · rw [alike.keeps.services_eq]
    exact h.dialed
  · rw [alike.keeps'.services_eq, h.count_eq]
  · rw [alike.keeps'.target_eq, alike.keeps.target_eq, h.target_eq]

theorem Pictured.of_keepsBut (h : Pictured own t t') (grown : t.services ≤ u.services)
    (pipes : ∀ c ∈ own, u.pipes.get? c = t.pipes.get? c) (target : u.target = t.target) :
    Pictured own u t' :=
  ⟨h.nodup, fun c mem => (h.dialed c mem).mono grown, fun c mem => (h.pipes_eq c mem).trans (pipes c mem).symm,
    h.count_eq, h.target_eq.trans target.symm⟩

theorem Pictured.of_dialed (h : Pictured own t t') : Pictured own t.dialed t' := by
  refine h.of_keepsBut (Nat.le_succ _) (fun c mem => ?_) rfl
  rw [Sockets.dialed, Table.get?_insert, if_neg (ne_of_mem_of_not_mem mem h.new)]

theorem Pictured.modify {own : List SocketId} {t t' : Sockets} (h : Pictured own t t')
    {socket : SocketId} (mem : socket ∈ own) (f : Pipe → Pipe) :
    Pictured own (t.modify socket f) (t'.modify (number own socket) f) := by
  refine ⟨h.nodup, h.dialed, fun c mem' => ?_, h.count_eq, h.target_eq⟩
  rw [Sockets.modify, Sockets.modify, Table.get?_modify, Table.get?_modify, h.pipes_eq c mem']
  by_cases same : c = socket
  · rw [if_pos same, if_pos (congrArg _ same)]
  · rw [if_neg same, if_neg (fun numbers => same (number_inj _ _ mem' mem numbers))]

theorem Pictured.act {own : List SocketId} {t t' : Sockets} (h : Pictured own t t')
    (socket : SocketId) (a : FarAct) :
    Pictured own (t.act socket a).2
      (if socket ∈ own then (t'.act (number own socket) a).2 else t') := by
  by_cases mem : socket ∈ own
  · rw [if_pos mem, Sockets.act, Sockets.act, h.pipes_eq socket mem]
    cases t.pipes.get? socket with
    | none => exact h
    | some p =>
        dsimp only
        split
        · exact h
        · exact h.modify mem _
  · rw [if_neg mem, Sockets.act]
    cases t.pipes.get? socket with
    | none => exact h
    | some p =>
        dsimp only
        split
        · exact h
        · refine h.of_keepsBut (Nat.le_refl _) (fun c mem' => ?_) rfl
          rw [Sockets.modify, Table.get?_modify, if_neg (ne_of_mem_of_not_mem mem' mem)]

end

/-! ## What sending does to the link -/

section

variable {τ : Type} {s k : SessionId} {l₀ l : Link (Answered τ)}

/-- The link only sent since `l₀`, and this is all that was ever sent on the session. -/
def Lane (s : SessionId) (l₀ l : Link (Answered τ)) (sent : List Bytes) : Prop :=
  l.state = l₀.state ∧ l.events = l₀.events ∧ l.channel.takes = l₀.channel.takes ∧
    l.channel.on s = sent

def Aside (s : SessionId) (l₀ l l' : Link (Answered τ)) : Prop :=
  l = l' ∧ Lane s l₀ l (l₀.channel.on s)

theorem Lane.refl (s : SessionId) (l : Link (Answered τ)) : Lane s l l (l.channel.on s) :=
  ⟨rfl, rfl, rfl, rfl⟩

variable [Channel τ]

theorem on_send (c : Answered τ) (data : Bytes) :
    (Channel.send k data .reliable c).2.on s = c.on s ++ if k = s then [data] else [] := by
  change (((c.sent ++ [(k, data)]).filter (·.1 = s)).map (·.2)) = _
  rw [List.filter_append, List.map_append]
  by_cases same : k = s <;> simp [Answered.on, same]

theorem offer_outlet (k : SessionId) (p : Bytes) (l : Link (Answered τ)) :
    (TunnelEnd.outlet k).offer p l =
      if l.state.active.contains k then
        (l.channel.takes k (l.channel.on k).length,
          { l with channel := (Channel.send k p .reliable l.channel).2 })
      else (false, l) := by
  have answer : (Channel.send k p .reliable l.channel).1 =
      if l.channel.takes k (l.channel.on k).length then .ok () else .error .connectionClosed := rfl
  simp only [TunnelEnd.outlet, Link.send]
  cases l.state.active.contains k with
  | false => rfl
  | true =>
      simp only [if_true]
      generalize Channel.send k p .reliable l.channel = r at answer
      obtain ⟨result, c⟩ := r
      obtain rfl := answer
      cases l.channel.takes k (l.channel.on k).length <;> rfl

theorem lane_alike (active : l₀.state.active.contains s = true) :
    Outlet.Alike (Lane s l₀) (TunnelEnd.outlet s) (Solo.lane (l₀.channel.takes s)) := by
  rintro p l sent ⟨state, events, takes, same⟩
  rw [offer_outlet, if_pos (by rw [state, active]), takes, same]
  refine ⟨rfl, state, events, takes, ?_⟩
  rw [on_send, if_pos rfl, same]
  rfl

theorem aside_alike (l₀ : Link (Answered τ)) (other : k ≠ s) :
    Outlet.Alike (Aside s l₀) (TunnelEnd.outlet k) (TunnelEnd.outlet k) := by
  rintro p l _ ⟨rfl, lane⟩
  refine ⟨rfl, rfl, ?_⟩
  rw [offer_outlet]
  split
  · obtain ⟨state, events, takes, same⟩ := lane
    refine ⟨state, events, takes, ?_⟩
    rw [on_send, if_neg other, List.append_nil, same]
  · exact lane

end

/-! ## A host and the session alone -/

section

variable {τ : Type} {s k : SessionId} {x : Watch τ} {y : Solo} {m : Multiplexer}
  {e e' : TunnelEnd (Answered τ)}

/-- What a host has of the session is what there is of it alone. -/
structure Mirrors (s : SessionId) (x : Watch τ) (y : Solo) : Prop where
  pictured : Pictured x.own x.host.sockets y.sockets
  route_eq : y.route = (x.host.routes.get? s).map (Multiplexer.rename (number x.own))
  owns : ∀ m, x.host.routes.get? s = some m → m.Owns (· ∈ x.own)
  others : ∀ k m, (k, m) ∈ x.host.routes.toList → k ≠ s →
    m.Owns (Elsewhere x.own x.host.sockets.services)
  sent_eq : y.sent = x.host.link.channel.on s

structure Steady (e e' : TunnelEnd (Answered τ)) : Prop where
  settings_eq : e'.settings = e.settings
  state_eq : e'.link.state = e.link.state
  events_eq : e'.link.events = e.link.events
  takes_eq : e'.link.channel.takes = e.link.channel.takes
  status_eq : e'.status = e.status
  isBound_eq : e'.isBound = e.isBound
  acceptor_eq : e'.acceptor = e.acceptor

theorem Steady.refl (e : TunnelEnd (Answered τ)) : Steady e e :=
  ⟨rfl, rfl, rfl, rfl, rfl, rfl, rfl⟩

theorem Steady.trans {e'' : TunnelEnd (Answered τ)} (first : Steady e e') (second : Steady e' e'') :
    Steady e e'' :=
  ⟨second.settings_eq.trans first.settings_eq, second.state_eq.trans first.state_eq,
    second.events_eq.trans first.events_eq, second.takes_eq.trans first.takes_eq,
    second.status_eq.trans first.status_eq, second.isBound_eq.trans first.isBound_eq,
    second.acceptor_eq.trans first.acceptor_eq⟩

theorem Mirrors.alike (h : Mirrors s x y) (there : x.host.routes.get? s = some m) :
    Desk.Alike (· ∈ x.own) (number x.own) (Lane s x.host.link) x.host.sockets y.sockets
      (x.host.desk m) (y.desk (m.rename (number x.own))) := by
  refine ⟨rfl, h.owns m there, ?_, h.pictured.pipes_eq, .refl _ _, .refl _ _⟩
  rw [Solo.desk, h.sent_eq]
  exact Lane.refl s x.host.link

theorem Mirrors.alike_dialed (h : Mirrors s x y) (there : x.host.routes.get? s = some m) :
    Desk.Alike (· ∈ x.own ++ [.service (x.host.sockets.services + 1)])
      (number (x.own ++ [.service (x.host.sockets.services + 1)])) (Lane s x.host.link)
      x.host.sockets.dialed y.sockets.dialed
      { x.host.desk m with sockets := x.host.sockets.dialed }
      { y.desk (m.rename (number x.own)) with sockets := y.sockets.dialed } := by
  have owns := h.owns m there
  have renamed : m.rename (number x.own) =
      m.rename (number (x.own ++ [.service (x.host.sockets.services + 1)])) :=
    Multiplexer.rename_congr owns (fun c mem => (number_append mem).symm)
  exact ⟨renamed, fun e mem => List.mem_append_left _ (owns e mem), (h.alike there).outlets,
    h.pictured.dial.pipes_eq, .refl _ _, .refl _ _⟩

theorem Mirrors.of_eq (h : Mirrors s x y) (routes : e.routes = x.host.routes)
    (sockets : e.sockets = x.host.sockets) (on : e.link.channel.on s = x.host.link.channel.on s)
    (news : List News) : Mirrors s { host := e, own := x.own, news } y := by
  refine ⟨?_, ?_, ?_, ?_, ?_⟩
  · exact sockets ▸ h.pictured
  · exact routes ▸ h.route_eq
  · exact routes ▸ h.owns
  · exact sockets ▸ routes ▸ h.others
  · exact on ▸ h.sent_eq

theorem Mirrors.work_own (h : Mirrors s x y) (there : x.host.routes.get? s = some m)
    {f : Desk (Link (Answered τ)) → Desk (Link (Answered τ))}
    {f' : Desk (List Bytes) → Desk (List Bytes)} {own : List SocketId} {t t' : Sockets}
    (pictured : Pictured own t t')
    (others : ∀ c, Elsewhere x.own x.host.sockets.services c → Elsewhere own t.services c)
    (alike : Desk.Alike (· ∈ own) (number own) (Lane s x.host.link) t t' (f (x.host.desk m))
      (f' (y.desk (m.rename (number x.own))))) (news : List News) :
    Mirrors s { host := x.host.work s f, own, news } (y.work f') ∧ Steady x.host (x.host.work s f) := by
  obtain ⟨state, events, takes, sent⟩ := alike.outlets
  have route : y.route = some (m.rename (number x.own)) := by rw [h.route_eq, there, Option.map_some]
  rw [TunnelEnd.work_of_some there, Solo.work, route]
  refine ⟨⟨pictured.of_alike alike, ?_, ?_, ?_, sent.symm⟩, ⟨rfl, state, events, takes, rfl, rfl, rfl⟩⟩
  · simp only [Table.get?_insert, if_true, Option.map_some, alike.mux_eq]
  · simp only [Table.get?_insert, if_true, Option.some.injEq]
    rintro _ rfl
    exact alike.owns
  · intro k m' mem other
    rcases Table.mem_of_mem_insert mem with same | old
    · exact absurd (Prod.mk.inj same).1 other
    · intro entry there'
      rw [alike.keeps.services_eq]
      exact others _ (h.others k m' old other entry there')

theorem Mirrors.work_other (h : Mirrors s x y) (other : k ≠ s) {t : Sockets}
    {f : Desk (Link (Answered τ)) → Desk (Link (Answered τ))}
    (pictured : Pictured x.own t y.sockets) (grown : x.host.sockets.services ≤ t.services)
    (there : x.host.routes.get? k = some m)
    (alike : Desk.Alike (Elsewhere x.own t.services) id (Aside s x.host.link) t t (f (x.host.desk m))
      (f (x.host.desk m))) (news : List News) :
    Mirrors s { host := x.host.work k f, own := x.own, news } y ∧ Steady x.host (x.host.work k f) := by
  obtain ⟨-, state, events, takes, sent⟩ := alike.outlets
  rw [TunnelEnd.work_of_some there]
  refine ⟨⟨?_, ?_, ?_, ?_, ?_⟩, ⟨rfl, state, events, takes, rfl, rfl, rfl⟩⟩
  · apply pictured.of_keepsBut
    · exact Nat.le_of_eq alike.keeps.services_eq.symm
    · exact fun c mem => alike.keeps.pipes_eq c (fun elsewhere => elsewhere.1 mem)
    · exact alike.keeps.target_eq
  · simp only [Table.get?_insert, if_neg (Ne.symm other)]
    exact h.route_eq
  · simp only [Table.get?_insert, if_neg (Ne.symm other)]
    exact h.owns
  · intro k' m' mem other'
    dsimp only
    rw [alike.keeps.services_eq]
    rcases Table.mem_of_mem_insert mem with same | old
    · obtain ⟨-, rfl⟩ := Prod.mk.inj same
      exact alike.owns
    · intro entry there'
      have apart := h.others k' m' old other' entry there'
      exact ⟨apart.1, apart.2.mono grown⟩
  · rw [h.sent_eq, sent]

theorem Mirrors.alike_other (h : Mirrors s x y) (other : k ≠ s) (there : x.host.routes.get? k = some m) :
    Desk.Alike (Elsewhere x.own x.host.sockets.services) id (Aside s x.host.link) x.host.sockets
      x.host.sockets (x.host.desk m) (x.host.desk m) :=
  ⟨m.rename_id.symm, h.others k m (Table.mem_of_get? there) other, ⟨rfl, Lane.refl s x.host.link⟩,
    fun _ _ => rfl, .refl _ _, .refl _ _⟩

theorem Mirrors.teardown_own (h : Mirrors s x y) (news : List News) :
    Mirrors s { host := x.host.work s (·.teardown), own := x.own, news } (y.work (·.teardown)) ∧
      Steady x.host (x.host.work s (·.teardown)) := by
  cases there : x.host.routes.get? s with
  | none =>
      have route : y.route = none := by rw [h.route_eq, there, Option.map_none]
      rw [TunnelEnd.work_of_none there, Solo.work, route]
      exact ⟨h.of_eq rfl rfl rfl news, .refl _⟩
  | some m =>
      exact h.work_own there h.pictured (fun _ elsewhere => elsewhere)
        ((h.alike there).teardown number_inj) news

theorem Mirrors.teardown_other (h : Mirrors s x y) (other : k ≠ s) (news : List News) :
    Mirrors s { host := x.host.work k (·.teardown), own := x.own, news } y ∧
      Steady x.host (x.host.work k (·.teardown)) := by
  cases there : x.host.routes.get? k with
  | none =>
      rw [TunnelEnd.work_of_none there]
      exact ⟨h.of_eq rfl rfl rfl news, .refl _⟩
  | some m =>
      exact h.work_other other h.pictured (Nat.le_refl _) there
        ((h.alike_other other there).teardown (fun _ _ _ _ same => same)) news

theorem Mirrors.insert (h : Mirrors s x y) (empty : m.entries = ∅) (k : SessionId) (news : List News) :
    Mirrors s { host := { x.host with routes := x.host.routes.insert k m }, own := x.own, news }
      (if k = s then { y with route := some m } else y) := by
  have none {P : SocketId → Prop} : m.Owns P := by
    intro e mem
    rw [empty] at mem
    cases mem
  have others : ∀ k' m', (k', m') ∈ (x.host.routes.insert k m).toList → k' ≠ s →
      m'.Owns (Elsewhere x.own x.host.sockets.services) := by
    intro k' m' mem other
    rcases Table.mem_of_mem_insert mem with same | old
    · exact (Prod.mk.inj same).2 ▸ none
    · exact h.others k' m' old other
  by_cases same : k = s
  · subst same
    rw [if_pos rfl]
    refine ⟨h.pictured, ?_, ?_, others, h.sent_eq⟩
    · simp only [Table.get?_insert, if_true, Option.map_some, Multiplexer.rename_of_empty empty]
    · simp only [Table.get?_insert, if_true, Option.some.injEq]
      rintro _ rfl
      exact none
  · rw [if_neg same]
    refine ⟨h.pictured, ?_, ?_, others, h.sent_eq⟩ <;>
      simp only [Table.get?_insert, if_neg (Ne.symm same)]
    · exact h.route_eq
    · exact h.owns

theorem Mirrors.erase (h : Mirrors s x y) (k : SessionId) (news : List News) :
    Mirrors s { host := { x.host with routes := x.host.routes.erase k }, own := x.own, news }
      (if k = s then { y with route := none } else y) := by
  have others : ∀ k' m', (k', m') ∈ (x.host.routes.erase k).toList → k' ≠ s →
      m'.Owns (Elsewhere x.own x.host.sockets.services) :=
    fun k' m' mem => h.others k' m' (Table.mem_of_mem_erase mem)
  by_cases same : k = s
  · subst same
    rw [if_pos rfl]
    refine ⟨h.pictured, ?_, ?_, others, h.sent_eq⟩
    · simp only [Table.get?_erase, if_true, Option.map_none]
    · simp only [Table.get?_erase, if_true]
      rintro _ ⟨⟩
  · rw [if_neg same]
    refine ⟨h.pictured, ?_, ?_, others, h.sent_eq⟩ <;>
      simp only [Table.get?_erase, if_neg (Ne.symm same)]
    · exact h.route_eq
    · exact h.owns

theorem Mirrors.teardown (h : Mirrors s x y) (k : SessionId) (news : List News) :
    Mirrors s { host := x.host.work k (·.teardown), own := x.own, news }
        (if k = s then y.work (·.teardown) else y) ∧
      Steady x.host (x.host.work k (·.teardown)) := by
  by_cases same : k = s
  · subst same
    rw [if_pos rfl]
    exact h.teardown_own news
  · rw [if_neg same]
    exact h.teardown_other same news

variable {fresh : Multiplexer} {takes : Nat → Bool}

theorem Solo.hear_closed_of_none (none : y.route = none) : y.hear fresh takes .closed = y := by
  rw [hear, work, none]
  obtain ⟨route, sockets, sent⟩ := y
  obtain rfl := none
  rfl

theorem Solo.run_closed (n : Nat)
    (none : (y.run fresh takes (List.replicate n .closed)).route = none) :
    y.run fresh takes (List.replicate n .closed) = y.hear fresh takes .closed := by
  cases n with
  | zero => exact (Solo.hear_closed_of_none none).symm
  | succ n =>
      clear none
      induction n with
      | zero => rfl
      | succ n ih =>
          rw [List.replicate_succ', run, List.foldl_append]
          change (y.run fresh takes (List.replicate (n + 1) .closed)).hear fresh takes .closed = _
          rw [ih]
          exact Solo.hear_closed_of_none rfl

variable (fresh takes)

theorem Mirrors.openSession (h : Mirrors s x y) (k : SessionId) (news : List News) :
    Mirrors s { host := x.host.openSession k, own := x.own, news }
        (y.run x.host.fresh takes (if k = s then [.opened] else [])) ∧
      Steady x.host (x.host.openSession k) := by
  obtain ⟨torn, steady⟩ := h.teardown k news
  have opened := torn.insert (m := x.host.fresh) rfl k news
  refine ⟨?_, steady.settings_eq, steady.state_eq, steady.events_eq, steady.takes_eq, steady.status_eq,
    steady.isBound_eq, steady.acceptor_eq⟩
  by_cases same : k = s
  · rw [if_pos same, if_pos same] at opened
    rw [if_pos same]
    exact opened
  · rw [if_neg same, if_neg same] at opened
    rw [if_neg same]
    exact opened

theorem Mirrors.closeSession (h : Mirrors s x y) (k : SessionId) (news : List News) :
    Mirrors s { host := x.host.closeSession k, own := x.own, news }
        (y.run fresh takes (if k = s then [.closed] else [])) ∧
      Steady x.host (x.host.closeSession k) := by
  obtain ⟨torn, steady⟩ := h.teardown k news
  have closed := torn.erase k news
  refine ⟨?_, steady.settings_eq, steady.state_eq, steady.events_eq, steady.takes_eq, steady.status_eq,
    steady.isBound_eq, steady.acceptor_eq⟩
  by_cases same : k = s
  · rw [if_pos same, if_pos same] at closed
    rw [if_pos same]
    exact closed
  · rw [if_neg same, if_neg same] at closed
    rw [if_neg same]
    exact closed

theorem Mirrors.closeSessions (h : Mirrors s x y) (keys : List SessionId) (news : List News) :
    ∃ n, Mirrors s { host := keys.foldl (fun e k => e.closeSession k) x.host, own := x.own, news }
        (y.run fresh takes (List.replicate n .closed)) ∧
      Steady x.host (keys.foldl (fun e k => e.closeSession k) x.host) := by
  induction keys generalizing x y with
  | nil => exact ⟨0, h.of_eq rfl rfl rfl news, .refl _⟩
  | cons k rest ih =>
      obtain ⟨closed, steady⟩ := h.closeSession fresh takes k news
      obtain ⟨n, others, steady'⟩ := ih closed
      refine ⟨(if k = s then [News.closed] else []).length + n, ?_, steady.trans steady'⟩
      have said : (if k = s then [News.closed] else []) =
          List.replicate (if k = s then [News.closed] else []).length .closed := by
        split <;> rfl
      rw [said] at others
      rw [List.replicate_add, Solo.run, List.foldl_append]
      exact others

theorem Mirrors.closeAll (h : Mirrors s x y) (news : List News) :
    Mirrors s { host := x.host.switch (·.closeAll), own := x.own, news } (y.hear fresh takes .closed) ∧
      Steady x.host (x.host.switch (·.closeAll)) := by
  obtain ⟨n, closed, steady⟩ := h.closeSessions fresh takes x.host.routes.keys news
  rw [← TunnelEnd.switch_closeAll] at closed steady
  refine ⟨?_, steady⟩
  have gone := closed.route_eq
  rw [TunnelEnd.get?_closeAll, Option.map_none] at gone
  rwa [Solo.run_closed n gone] at closed

theorem Mirrors.work_readSocket (h : Mirrors s x y) {socket : SocketId} (mem : socket ∈ x.own)
    (nobody : ∀ m, x.host.routes.get? s = some m → m.owner? socket = none) {out : Outlet (List Bytes)} :
    y.work (·.readSocket out (number x.own socket)) = y := by
  rw [Solo.work]
  obtain ⟨route, sockets, sent⟩ := y
  obtain rfl : route = _ := h.route_eq
  cases there : x.host.routes.get? s with
  | none => rfl
  | some m =>
      have gone : (m.rename (number x.own)).owner? (number x.own socket) = none := by
        rw [Multiplexer.owner?_rename (h.owns m there) number_inj mem, nobody m there, Option.map_none]
      simp only [Option.map_some, Solo.desk, Desk.readSocket, gone]

variable [Channel τ]

def Live (s : SessionId) (e : TunnelEnd (Answered τ)) : Prop :=
  e.routes.contains s = true → e.link.state.active.contains s = true

theorem Mirrors.packet_own (h : Mirrors s x y)
    (live : x.host.routes.contains s = true → x.host.link.state.active.contains s = true)
    (data : Bytes) (news : List News) :
    Mirrors s
        { host := x.host.work s (·.packet (TunnelEnd.outlet s) data)
          own := x.own ++ (x.host.sockets.dialIf (x.host.board.wantsDial s data)).1.toList, news }
        (y.work (·.packet (Solo.lane (x.host.link.channel.takes s)) data)) ∧
      Steady x.host (x.host.work s (·.packet (TunnelEnd.outlet s) data)) := by
  cases there : x.host.routes.get? s with
  | none =>
      have route : y.route = none := by rw [h.route_eq, there, Option.map_none]
      have quiet : x.host.board.wantsDial s data = false := by
        rw [Switchboard.wantsDial, TunnelEnd.board, there, Option.any_none]
      rw [TunnelEnd.work_of_none there, Solo.work, route, quiet]
      simp only [Sockets.dialIf, Bool.false_eq_true, if_false, Option.toList_none, List.append_nil]
      exact ⟨h.of_eq rfl rfl rfl news, .refl _⟩
  | some m =>
      have like := lane_alike (live (by rw [Table.contains, there]; rfl))
      have wants : x.host.board.wantsDial s data = m.wantsDial data := by
        rw [Switchboard.wantsDial, TunnelEnd.board, there, Option.any_some]
      have wants' : (m.rename (number x.own)).wantsDial data = m.wantsDial data :=
        Multiplexer.wantsDial_rename data
      have alike := h.alike there
      rcases Sockets.dialIf_cases (m.wantsDial data) x.host.sockets y.sockets h.pictured.target_eq with
        ⟨dial, dial'⟩ | ⟨dial, dial'⟩
      · rw [wants, dial, Option.toList_none, List.append_nil]
        apply h.work_own there h.pictured (fun _ elsewhere => elsewhere)
        rw [Desk.packet_eq, Desk.packet_eq]
        simp only [TunnelEnd.desk, Solo.desk, wants', dial, dial']
        exact alike.step number_inj (alike.station.packet like data (by simp))
      · rw [wants, dial, Option.toList_some]
        have alike' := h.alike_dialed there
        apply h.work_own there h.pictured.dial
        · rintro c ⟨apart, few⟩
          refine ⟨?_, few.mono (Nat.le_succ _)⟩
          rw [List.mem_append, List.mem_singleton, not_or]
          refine ⟨apart, ?_⟩
          rintro rfl
          exact not_dialed_succ _ few
        · rw [Desk.packet_eq, Desk.packet_eq]
          simp only [TunnelEnd.desk, Solo.desk, wants', dial, dial']
          have mine : ∀ c, some (SocketId.service (x.host.sockets.services + 1)) = some c →
              c ∈ x.own ++ [.service (x.host.sockets.services + 1)] := by simp
          have brought := alike'.station.packet like data mine
          rw [Option.map_some, h.pictured.number_new] at brought
          exact alike'.step number_inj brought

theorem Mirrors.packet_other (h : Mirrors s x y) (other : k ≠ s) (data : Bytes) (news : List News) :
    Mirrors s { host := x.host.work k (·.packet (TunnelEnd.outlet k) data), own := x.own, news } y ∧
      Steady x.host (x.host.work k (·.packet (TunnelEnd.outlet k) data)) := by
  cases there : x.host.routes.get? k with
  | none =>
      rw [TunnelEnd.work_of_none there]
      exact ⟨h.of_eq rfl rfl rfl news, .refl _⟩
  | some m =>
      have like := aside_alike x.host.link other
      have alike := h.alike_other other there
      rcases Sockets.dialIf_cases (m.wantsDial data) x.host.sockets x.host.sockets rfl with
        ⟨dial, -⟩ | ⟨dial, -⟩
      · apply h.work_other other h.pictured (Nat.le_refl _) there
        rw [Desk.packet_eq]
        simp only [TunnelEnd.desk, dial]
        exact alike.step (fun _ _ _ _ same => same) (alike.station.packet like data (by simp))
      · have pictured := h.pictured.of_dialed
        have alike' : Desk.Alike (Elsewhere x.own x.host.sockets.dialed.services) id
            (Aside s x.host.link) x.host.sockets.dialed x.host.sockets.dialed
            { x.host.desk m with sockets := x.host.sockets.dialed }
            { x.host.desk m with sockets := x.host.sockets.dialed } := by
          refine ⟨alike.mux_eq, ?_, alike.outlets, fun _ _ => rfl, .refl _ _, .refl _ _⟩
          intro e mem
          exact ⟨(alike.owns e mem).1, (alike.owns e mem).2.mono (Nat.le_succ _)⟩
        apply h.work_other other pictured (Nat.le_succ _) there
        rw [Desk.packet_eq]
        simp only [TunnelEnd.desk, dial]
        have theirs : ∀ c, some (SocketId.service (x.host.sockets.services + 1)) = some c →
            Elsewhere x.own x.host.sockets.dialed.services c := by
          rintro c ⟨⟩
          exact ⟨h.pictured.new, _, Nat.le_refl _, rfl⟩
        exact alike'.step (fun _ _ _ _ same => same) (alike'.station.packet like data theirs)

theorem Mirrors.read_own (h : Mirrors s x y) (live : Live s x.host) (socket : SocketId)
    (news : List News) :
    Mirrors s
        { host := x.host.work s (·.readSocket (TunnelEnd.outlet s) socket), own := x.own, news }
        (if socket ∈ x.own then
          y.work (·.readSocket (Solo.lane (x.host.link.channel.takes s)) (number x.own socket))
        else y) ∧
      Steady x.host (x.host.work s (·.readSocket (TunnelEnd.outlet s) socket)) := by
  cases there : x.host.routes.get? s with
  | none =>
      have route : y.route = none := by rw [h.route_eq, there, Option.map_none]
      rw [TunnelEnd.work_of_none there, Solo.work, route, ite_self]
      exact ⟨h.of_eq rfl rfl rfl news, .refl _⟩
  | some m =>
      have alike := h.alike there
      by_cases mem : socket ∈ x.own
      · rw [if_pos mem]
        have like := lane_alike (live (by rw [Table.contains, there]; rfl))
        exact h.work_own there h.pictured (fun _ elsewhere => elsewhere)
          (alike.readSocket number_inj like mem) news
      · rw [if_neg mem]
        have nobody : m.owner? socket = none := h.owns m there |>.owner?_eq_none mem
        have still : (x.host.desk m).readSocket (TunnelEnd.outlet s) socket = x.host.desk m := by
          rw [Desk.readSocket, show (x.host.desk m).mux.owner? socket = none from nobody]
        have idle : y.work id = y := by
          rw [Solo.work, h.route_eq, there]
          obtain ⟨route, sockets, sent⟩ := y
          exact congrArg (Solo.mk · sockets sent) (h.route_eq.trans (by rw [there]; rfl)).symm
        rw [← idle]
        exact h.work_own there h.pictured (fun _ elsewhere => elsewhere) (still.symm ▸ alike) news

theorem Mirrors.read_other (h : Mirrors s x y) (other : k ≠ s) (socket : SocketId)
    (news : List News) :
    Mirrors s { host := x.host.work k (·.readSocket (TunnelEnd.outlet k) socket), own := x.own, news } y ∧
      Steady x.host (x.host.work k (·.readSocket (TunnelEnd.outlet k) socket)) := by
  cases there : x.host.routes.get? k with
  | none =>
      rw [TunnelEnd.work_of_none there]
      exact ⟨h.of_eq rfl rfl rfl news, .refl _⟩
  | some m =>
      have alike := h.alike_other other there
      apply h.work_other other h.pictured (Nat.le_refl _) there
      cases found : m.owner? socket with
      | none =>
          rw [Desk.readSocket, show (x.host.desk m).mux.owner? socket = none from found]
          exact alike
      | some r =>
          exact alike.readSocket (fun _ _ _ _ same => same) (aside_alike _ other)
            (alike.owns.of_owner? found)

theorem Mirrors.far (h : Mirrors s x y) (live : Live s x.host) (socket : SocketId) (a : FarAct)
    (news : List News) :
    Mirrors s { host := x.host.take (.far socket a), own := x.own, news }
        (y.run fresh (x.host.link.channel.takes s)
          (if socket ∈ x.own then [.far (x.own.idxOf socket) a] else [])) ∧
      Steady x.host (x.host.take (.far socket a)) := by
  let e : TunnelEnd (Answered τ) := { x.host with sockets := (x.host.sockets.act socket a).2 }
  let x' : Watch τ := { host := e, own := x.own, news }
  let y' : Solo := { y with
    sockets := if socket ∈ x.own then (y.sockets.act (number x.own socket) a).2 else y.sockets }
  have services : e.sockets.services = x.host.sockets.services := by
    change (x.host.sockets.act socket a).2.services = _
    rw [Sockets.act]
    cases x.host.sockets.pipes.get? socket with
    | none => rfl
    | some p => cases farGone : p.farGone <;> simp [farGone, Sockets.modify]
  have acted : Mirrors s x' y' :=
    ⟨h.pictured.act socket a, h.route_eq, h.owns, services.symm ▸ h.others, h.sent_eq⟩
  have still : Steady x.host e := ⟨rfl, rfl, rfl, rfl, rfl, rfl, rfl⟩
  have told : y.run fresh (x.host.link.channel.takes s)
      (if socket ∈ x.own then [.far (x.own.idxOf socket) a] else []) =
      if socket ∈ x.own then
        y'.work (·.readSocket (Solo.lane (x.host.link.channel.takes s)) (number x.own socket))
      else y' := by
    by_cases mem : socket ∈ x.own
    · simp only [if_pos mem, y']
      rfl
    · simp only [if_neg mem, y']
      rfl
  rw [told]
  rw [TunnelEnd.take_far]
  cases owner : e.board.owner? socket with
  | none =>
      have nobody : (if socket ∈ x.own then
          y'.work (·.readSocket (Solo.lane (x.host.link.channel.takes s)) (number x.own socket))
          else y') = y' := by
        split
        · next mem =>
          apply acted.work_readSocket mem
          exact fun m there => TunnelEnd.owner?_of_none owner (Table.mem_of_get? there)
        · rfl
      rw [nobody]
      exact ⟨acted, still⟩
  | some k =>
      by_cases same : k = s
      · subst same
        obtain ⟨read, steady⟩ := acted.read_own live socket news
        exact ⟨read, still.trans steady⟩
      · obtain ⟨m, there, owned⟩ := TunnelEnd.exists_of_owner? owner
        obtain ⟨r, found⟩ := Option.isSome_iff_exists.mp owned
        have apart : socket ∉ x.own := ((acted.others k m there same).of_owner? found).1
        obtain ⟨read, steady⟩ := acted.read_other same socket news
        rw [if_neg apart]
        exact ⟨read, still.trans steady⟩

end

end StreamTunnel
