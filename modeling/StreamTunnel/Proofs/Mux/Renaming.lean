import StreamTunnel.Mux.Desk
import StreamTunnel.Proofs.Mux.Isolation

namespace StreamTunnel

namespace Table

variable {κ α β : Type}

def map (f : α → β) (t : Table κ α) : Table κ β :=
  ⟨t.toList.map (fun entry => (entry.1, f entry.2))⟩

variable [DecidableEq κ]

theorem find_map (f : α → β) (k : κ) (l : List (κ × α)) :
    find k (l.map (fun entry => (entry.1, f entry.2))) = (find k l).map f := by
  induction l with
  | nil => rfl
  | cons entry rest ih =>
      simp only [List.map_cons, find]
      split
      · rfl
      · exact ih

theorem get?_map (f : α → β) (t : Table κ α) (k : κ) : (t.map f).get? k = (t.get? k).map f :=
  find_map f k t.toList

theorem contains_map (f : α → β) (t : Table κ α) (k : κ) : (t.map f).contains k = t.contains k := by
  rw [contains, get?_map, Option.isSome_map, contains]

theorem map_erase (f : α → β) (t : Table κ α) (k : κ) : (t.erase k).map f = (t.map f).erase k := by
  simp only [map, erase, List.filter_map]
  rfl

theorem place_map [LT κ] [DecidableLT κ] (f : α → β) (k : κ) (v : α) (l : List (κ × α)) :
    (place k v l).map (fun entry => (entry.1, f entry.2)) =
      place k (f v) (l.map (fun entry => (entry.1, f entry.2))) := by
  induction l with
  | nil => rfl
  | cons entry rest ih =>
      simp only [place, List.map_cons]
      split
      · rfl
      · split
        · rfl
        · rw [List.map_cons, ih]

theorem map_insert [LT κ] [DecidableLT κ] (f : α → β) (t : Table κ α) (k : κ) (v : α) :
    (t.insert k v).map f = (t.map f).insert k (f v) :=
  congrArg Table.mk (place_map f k v t.toList)

theorem mem_of_mem_place [LT κ] [DecidableLT κ] {k : κ} {v : α} {l : List (κ × α)} {x : κ × α}
    (mem : x ∈ place k v l) : x = (k, v) ∨ x ∈ l := by
  induction l with
  | nil => exact .inl (List.mem_singleton.mp mem)
  | cons entry rest ih =>
      simp only [place] at mem
      split at mem
      · exact (List.mem_cons.mp mem).imp_right (List.mem_cons_of_mem _)
      · split at mem
        · exact List.mem_cons.mp mem
        · rcases List.mem_cons.mp mem with rfl | mem
          · exact .inr List.mem_cons_self
          · exact (ih mem).imp_right (List.mem_cons_of_mem _)

theorem mem_of_mem_insert [LT κ] [DecidableLT κ] {t : Table κ α} {k : κ} {v : α} {x : κ × α}
    (mem : x ∈ (t.insert k v).toList) : x = (k, v) ∨ x ∈ t.toList :=
  mem_of_mem_place mem

theorem mem_of_mem_erase {t : Table κ α} {k : κ} {x : κ × α} (mem : x ∈ (t.erase k).toList) :
    x ∈ t.toList :=
  (List.mem_filter.mp mem).1

end Table

/-! ## New names -/

def Entry.rename (ρ : SocketId → SocketId) (e : Entry) : Entry :=
  { e with socket := ρ e.socket }

def StreamRef.rename (ρ : SocketId → SocketId) (r : StreamRef) : StreamRef :=
  { r with socket := ρ r.socket }

def SocketAction.rename (ρ : SocketId → SocketId) : SocketAction → SocketAction
  | write socket payload => write (ρ socket) payload
  | release socket => release (ρ socket)

def Multiplexer.rename (ρ : SocketId → SocketId) (m : Multiplexer) : Multiplexer :=
  { m with entries := m.entries.map (Entry.rename ρ) }

/-- The outlets answer alike, and stay related. -/
def Outlet.Alike {σ σ' : Type} (R : σ → σ' → Prop) (out : Outlet σ) (out' : Outlet σ') : Prop :=
  ∀ p o o', R o o' → (out.offer p o).1 = (out'.offer p o').1 ∧ R (out.offer p o).2 (out'.offer p o').2

def Multiplexer.Owns (P : SocketId → Prop) (m : Multiplexer) : Prop :=
  ∀ e ∈ m.entries.toList, P e.2.socket

namespace Multiplexer

theorem rename_id (m : Multiplexer) : m.rename id = m := by
  have entry : ∀ e : StreamId × Entry, (e.1, Entry.rename id e.2) = e := fun _ => rfl
  simp only [rename, Table.map, entry, List.map_id']

variable {P : SocketId → Prop} {ρ : SocketId → SocketId} {m : Multiplexer} {id : StreamId}

theorem get?_rename (id : StreamId) :
    (m.rename ρ).entries.get? id = (m.entries.get? id).map (Entry.rename ρ) :=
  Table.get?_map ..

theorem Owns.get? (owns : m.Owns P) {e : Entry} (h : m.entries.get? id = some e) : P e.socket :=
  owns _ (Table.mem_of_get? h)

theorem contains_rename (id : StreamId) :
    (m.rename ρ).entries.contains id = m.entries.contains id :=
  Table.contains_map ..

theorem wantsDial_rename (raw : Bytes) : (m.rename ρ).wantsDial raw = m.wantsDial raw := by
  simp only [wantsDial, contains_rename]
  rfl

theorem lookup_rename (id : StreamId) :
    (m.rename ρ).lookup id = (m.lookup id).map (StreamRef.rename ρ) := by
  rw [lookup, get?_rename, lookup, Option.map_map, Option.map_map]
  rfl

theorem isOpen_rename (owns : m.Owns P) (inj : ∀ a b, P a → P b → ρ a = ρ b → a = b) {r : StreamRef}
    (own : P r.socket) : (m.rename ρ).isOpen (r.rename ρ) = m.isOpen r := by
  rw [Bool.eq_iff_iff, isOpen_iff, isOpen_iff, lookup_rename]
  change (m.lookup r.id).map (StreamRef.rename ρ) = _ ↔ _
  simp only [lookup]
  cases found : m.entries.get? r.id with
  | none => simp
  | some e =>
      have same : ρ e.socket = ρ r.socket ↔ e.socket = r.socket :=
        ⟨inj _ _ (owns.get? found) own, congrArg ρ⟩
      obtain ⟨id, socket⟩ := r
      simpa [StreamRef.rename] using same

theorem find?_rename (inj : ∀ a b, P a → P b → ρ a = ρ b → a = b) {socket : SocketId}
    (own : P socket) {l : List (StreamId × Entry)} (owns : ∀ e ∈ l, P e.2.socket) :
    (l.map (fun e => (e.1, Entry.rename ρ e.2))).find? (fun e => e.2.socket = ρ socket) =
      (l.find? (fun e => e.2.socket = socket)).map (fun e => (e.1, Entry.rename ρ e.2)) := by
  induction l with
  | nil => rfl
  | cons e rest ih =>
      rw [List.forall_mem_cons] at owns
      have same : decide (ρ e.2.socket = ρ socket) = decide (e.2.socket = socket) :=
        decide_eq_decide.mpr ⟨inj _ _ owns.1 own, congrArg ρ⟩
      have first : decide ((Entry.rename ρ e.2).socket = ρ socket) = decide (e.2.socket = socket) := same
      rw [List.map_cons, List.find?_cons, List.find?_cons, ih owns.2, first]
      cases decide (e.2.socket = socket) <;> rfl

theorem owner?_rename (owns : m.Owns P) (inj : ∀ a b, P a → P b → ρ a = ρ b → a = b)
    {socket : SocketId} (own : P socket) :
    (m.rename ρ).owner? (ρ socket) = (m.owner? socket).map (StreamRef.rename ρ) := by
  rw [owner?, rename, Table.map, find?_rename inj own owns, owner?, Option.map_map, Option.map_map]
  rfl

theorem socket_of_owner? {socket : SocketId} {r : StreamRef} (h : m.owner? socket = some r) :
    r.socket = socket := by
  simp only [owner?, Option.map_eq_some_iff] at h
  obtain ⟨e, -, rfl⟩ := h
  rfl

theorem Owns.of_owner? (owns : m.Owns P) {socket : SocketId} {r : StreamRef}
    (h : m.owner? socket = some r) : P socket := by
  simp only [owner?, Option.map_eq_some_iff] at h
  obtain ⟨e, found, -⟩ := h
  have same : e.2.socket = socket := by simpa using List.find?_some found
  exact same ▸ owns e (List.mem_of_find?_eq_some found)

theorem Owns.owner?_eq_none (owns : m.Owns P) {socket : SocketId} (other : ¬ P socket) :
    m.owner? socket = none := by
  cases found : m.owner? socket with
  | none => rfl
  | some r => exact absurd (owns.of_owner? found) other

end Multiplexer

/-! ## Stations -/

namespace Station

variable {σ σ' : Type} {R : σ → σ' → Prop} {out : Outlet σ} {out' : Outlet σ'}
  {P : SocketId → Prop} {ρ : SocketId → SocketId} {s : Station σ} {s' : Station σ'} {id : StreamId}

/-- The same at work under other names of the sockets, all of which are of a kind. -/
structure Alike (P : SocketId → Prop) (ρ : SocketId → SocketId) (R : σ → σ' → Prop) (s : Station σ)
    (s' : Station σ') : Prop where
  mux_eq : s'.mux = s.mux.rename ρ
  owns : s.mux.Owns P
  outlets : R s.outlet s'.outlet
  actions_eq : s'.actions = s.actions.map (SocketAction.rename ρ)
  asked : ∀ a ∈ s.actions, P a.socket

theorem Alike.ask (h : Alike P ρ R s s') {a : SocketAction} (own : P a.socket) :
    Alike P ρ R (s.ask a) (s'.ask (a.rename ρ)) := by
  refine ⟨h.mux_eq, h.owns, h.outlets, ?_, ?_⟩
  · simp [Station.ask, h.actions_eq]
  · exact List.forall_mem_append.mpr ⟨h.asked, by simpa using own⟩

theorem Alike.update (h : Alike P ρ R s s') {f f' : Multiplexer → Multiplexer}
    (same : f' (s.mux.rename ρ) = (f s.mux).rename ρ) (owns : (f s.mux).Owns P) :
    Alike P ρ R (s.update f) (s'.update f') := by
  refine ⟨?_, owns, h.outlets, h.actions_eq, h.asked⟩
  rw [Station.update, h.mux_eq, same]
  rfl

theorem Alike.offer (h : Alike P ρ R s s') (like : Outlet.Alike R out out') (p : Packet) :
    (s.offer out p).1 = (s'.offer out' p).1 ∧ Alike P ρ R (s.offer out p).2 (s'.offer out' p).2 := by
  obtain ⟨taken, outlets⟩ := like p.encode s.outlet s'.outlet h.outlets
  exact ⟨taken, h.mux_eq, h.owns, outlets, h.actions_eq, h.asked⟩

theorem Alike.sayGone (h : Alike P ρ R s s') (like : Outlet.Alike R out out') (id : StreamId) :
    Alike P ρ R (s.sayGone out id) (s'.sayGone out' id) :=
  (h.offer like _).2

theorem Alike.offerAll (h : Alike P ρ R s s') (like : Outlet.Alike R out out') (packets : List Packet) :
    (s.offerAll out packets).1 = (s'.offerAll out' packets).1 ∧
      Alike P ρ R (s.offerAll out packets).2 (s'.offerAll out' packets).2 := by
  induction packets generalizing s s' with
  | nil => exact ⟨rfl, h⟩
  | cons p rest ih =>
      obtain ⟨same, next⟩ := h.offer like p
      rw [Station.offerAll, Station.offerAll]
      generalize s.offer out p = sent at same next
      generalize s'.offer out' p = sent' at same next
      obtain ⟨taken, t⟩ := sent
      obtain ⟨_, t'⟩ := sent'
      obtain rfl := same
      cases taken with
      | false => exact ⟨rfl, next⟩
      | true =>
          obtain ⟨counted, last⟩ := ih next
          exact ⟨by simp only [counted], last⟩

theorem Alike.remove (h : Alike P ρ R s s') (id : StreamId) :
    (s.remove id).1 = (s'.remove id).1 ∧ Alike P ρ R (s.remove id).2 (s'.remove id).2 := by
  have erased : Alike P ρ R
      (s.update fun m => { m with entries := m.entries.erase id, missing := m.missing.filter (· ≠ id) })
      (s'.update fun m => { m with entries := m.entries.erase id, missing := m.missing.filter (· ≠ id) }) := by
    apply h.update
    · simp only [Multiplexer.rename, Table.map_erase]
    · exact fun e mem => h.owns e (Table.mem_of_mem_erase mem)
  rw [Station.remove, Station.remove, h.mux_eq, Multiplexer.get?_rename]
  cases found : s.mux.entries.get? id with
  | none => exact ⟨rfl, erased⟩
  | some e => exact ⟨rfl, erased.ask (by exact h.owns.get? found)⟩

theorem Alike.closeFromLocal (h : Alike P ρ R s s') (like : Outlet.Alike R out out') (id : StreamId) :
    Alike P ρ R (s.closeFromLocal out id) (s'.closeFromLocal out' id) := by
  obtain ⟨same, removed⟩ := h.remove id
  rw [Station.closeFromLocal, Station.closeFromLocal]
  generalize s.remove id = r at same removed
  generalize s'.remove id = r' at same removed
  obtain ⟨there, t⟩ := r
  obtain ⟨_, t'⟩ := r'
  obtain rfl := same
  cases there with
  | false => exact removed
  | true =>
      have settings : t'.mux.settings = t.mux.settings := by
        rw [removed.mux_eq]
        rfl
      dsimp only
      rw [settings]
      split
      · exact removed.sayGone like id
      · exact removed

theorem Alike.register (h : Alike P ρ R s s') (id : StreamId) {e : Entry} (own : P e.socket) :
    Alike P ρ R (s.register id e) (s'.register id (e.rename ρ)) := by
  apply h.update
  · simp only [Multiplexer.rename, Table.map_insert]
  · intro x mem
    rcases Table.mem_of_mem_insert mem with rfl | old
    · exact own
    · exact h.owns x old

theorem Alike.deliver (h : Alike P ρ R s s') (like : Outlet.Alike R out out') (id : StreamId)
    (payload : Bytes) {dialed : Option SocketId} (brings : ∀ socket, dialed = some socket → P socket) :
    Alike P ρ R (s.deliver out id payload dialed) (s'.deliver out' id payload (dialed.map ρ)) := by
  have dials : s'.mux.canDial = s.mux.canDial := by
    rw [h.mux_eq]
    rfl
  have missing (f : List StreamId → List StreamId) :
      Alike P ρ R (s.update (fun m => { m with missing := f m.missing }))
        (s'.update (fun m => { m with missing := f m.missing })) :=
    h.update rfl h.owns
  unfold Station.deliver
  rw [dials, h.mux_eq, Multiplexer.get?_rename]
  cases found : s.mux.entries.get? id with
  | some e => exact (missing _).ask (a := .write e.socket payload) (h.owns.get? found)
  | none =>
      dsimp only [Option.map_none]
      split
      · cases dialed with
        | none => exact h.sayGone like id
        | some socket => exact (h.register id (brings socket rfl)).ask (brings socket rfl)
      · exact (missing _).sayGone like id

theorem Alike.packet (h : Alike P ρ R s s') (like : Outlet.Alike R out out') (raw : Bytes)
    {dialed : Option SocketId} (brings : ∀ socket, dialed = some socket → P socket) :
    Alike P ρ R (s.packet out raw dialed) (s'.packet out' raw (dialed.map ρ)) := by
  rw [Station.packet, Station.packet]
  split
  · exact h
  · exact h.deliver like _ _ brings
  · exact (h.remove _).2

theorem Alike.read (h : Alike P ρ R s s') (like : Outlet.Alike R out out') {r : StreamRef}
    (same : s'.mux.isOpen (r.rename ρ) = s.mux.isOpen r) (piece : Bytes) :
    Alike P ρ R (s.read out r piece) (s'.read out' (r.rename ρ) piece) := by
  have packets : framed (r.rename ρ).id piece .data s'.mux = framed r.id piece .data s.mux := by
    rw [h.mux_eq]
    rfl
  obtain ⟨counted, sent⟩ := h.offerAll like (framed r.id piece .data s.mux)
  rw [Station.read, Station.read, same]
  split
  · rw [sendFramed, sendFramed, packets]
    generalize s.offerAll out (framed r.id piece .data s.mux) = sending at counted sent
    generalize s'.offerAll out' (framed r.id piece .data s.mux) = sending' at counted sent
    obtain ⟨⟨n, all⟩, t⟩ := sending
    obtain ⟨_, t'⟩ := sending'
    obtain rfl := counted
    cases all with
    | true => exact sent
    | false => exact sent.closeFromLocal like r.id
  · exact h

theorem Alike.readEnded (h : Alike P ρ R s s') (like : Outlet.Alike R out out') {r : StreamRef}
    (same : s'.mux.isOpen (r.rename ρ) = s.mux.isOpen r) :
    Alike P ρ R (s.readEnded out r) (s'.readEnded out' (r.rename ρ)) := by
  rw [Station.readEnded, Station.readEnded, same]
  split
  · exact h.closeFromLocal like r.id
  · exact h

theorem Alike.teardown (h : Alike P ρ R s s') : Alike P ρ R s.teardown s'.teardown := by
  refine ⟨by rw [Station.teardown, Station.teardown, Station.update, h.mux_eq]; rfl, ?_, h.outlets, ?_, ?_⟩
  · intro e mem
    cases mem
  · simp only [Station.teardown, Station.update, h.actions_eq, h.mux_eq, Multiplexer.rename, Table.map,
      List.map_append, List.map_map]
    rfl
  · simp only [Station.teardown, List.forall_mem_append, List.forall_mem_map]
    exact ⟨h.asked, h.owns⟩

end Station

/-! ## Desks -/

structure Sockets.KeepsBut (P : SocketId → Prop) (base t : Sockets) : Prop where
  pipes_eq : ∀ socket, ¬ P socket → t.pipes.get? socket = base.pipes.get? socket
  clients_eq : t.clients = base.clients
  services_eq : t.services = base.services
  target_eq : t.target = base.target

theorem Sockets.KeepsBut.refl (P : SocketId → Prop) (t : Sockets) : KeepsBut P t t :=
  ⟨fun _ _ => rfl, rfl, rfl, rfl⟩

theorem Sockets.KeepsBut.modify {P : SocketId → Prop} {base t : Sockets} (h : KeepsBut P base t)
    {socket : SocketId} (own : P socket) (f : Pipe → Pipe) : KeepsBut P base (t.modify socket f) := by
  refine ⟨?_, h.clients_eq, h.services_eq, h.target_eq⟩
  intro other apart
  have ne : other ≠ socket := by
    rintro rfl
    exact apart own
  rw [Sockets.modify, Table.get?_modify, if_neg ne]
  exact h.pipes_eq other apart

namespace Desk

variable {σ σ' : Type} {R : σ → σ' → Prop} {out : Outlet σ} {out' : Outlet σ'}
  {P : SocketId → Prop} {ρ : SocketId → SocketId} {base base' : Sockets} {d : Desk σ} {d' : Desk σ'}

structure Alike (P : SocketId → Prop) (ρ : SocketId → SocketId) (R : σ → σ' → Prop)
    (base base' : Sockets) (d : Desk σ) (d' : Desk σ') : Prop where
  mux_eq : d'.mux = d.mux.rename ρ
  owns : d.mux.Owns P
  outlets : R d.outlet d'.outlet
  pipes_eq : ∀ socket, P socket → d'.sockets.pipes.get? (ρ socket) = d.sockets.pipes.get? socket
  keeps : base.KeepsBut P d.sockets
  keeps' : base'.KeepsBut (fun _ => True) d'.sockets

theorem Alike.station (h : Alike P ρ R base base' d d') :
    Station.Alike P ρ R { mux := d.mux, outlet := d.outlet } { mux := d'.mux, outlet := d'.outlet } :=
  ⟨h.mux_eq, h.owns, h.outlets, rfl, by simp⟩

variable (inj : ∀ a b, P a → P b → ρ a = ρ b → a = b)

include inj

theorem Alike.modify (h : Alike P ρ R base base' d d') {socket : SocketId} (own : P socket)
    (f : Pipe → Pipe) :
    Alike P ρ R base base' { d with sockets := d.sockets.modify socket f }
      { d' with sockets := d'.sockets.modify (ρ socket) f } := by
  refine ⟨h.mux_eq, h.owns, h.outlets, ?_, h.keeps.modify own f, h.keeps'.modify trivial f⟩
  intro other own'
  simp only [Sockets.modify, Table.get?_modify, h.pipes_eq other own']
  by_cases same : other = socket
  · rw [if_pos same, if_pos (congrArg ρ same)]
  · rw [if_neg same, if_neg (fun renamed => same (inj _ _ own' own renamed))]

theorem Alike.perform (h : Alike P ρ R base base' d d') {a : SocketAction} (own : P a.socket) :
    Alike P ρ R base base' { d with sockets := Desk.perform d.sockets a }
      { d' with sockets := Desk.perform d'.sockets (a.rename ρ) } := by
  cases a with
  | write socket payload => exact h.modify inj own _
  | release socket => exact h.modify inj own _

theorem Alike.performAll (h : Alike P ρ R base base' d d') {asked : List SocketAction}
    (own : ∀ a ∈ asked, P a.socket) :
    Alike P ρ R base base' { d with sockets := asked.foldl Desk.perform d.sockets }
      { d' with sockets := (asked.map (SocketAction.rename ρ)).foldl Desk.perform d'.sockets } := by
  induction asked generalizing d d' with
  | nil => exact h
  | cons a rest ih =>
      rw [List.forall_mem_cons] at own
      exact ih (h.perform inj own.1) own.2

theorem Alike.run {α α' : Type} (h : Alike P ρ R base base' d d')
    {f : Station σ → α × Station σ} {f' : Station σ' → α' × Station σ'}
    (like : Station.Alike P ρ R (f { mux := d.mux, outlet := d.outlet }).2
      (f' { mux := d'.mux, outlet := d'.outlet }).2) :
    Alike P ρ R base base' (d.run f).2 (d'.run f').2 := by
  have moved : Alike P ρ R base base'
      { d with
        mux := (f { mux := d.mux, outlet := d.outlet }).2.mux
        outlet := (f { mux := d.mux, outlet := d.outlet }).2.outlet }
      { d' with
        mux := (f' { mux := d'.mux, outlet := d'.outlet }).2.mux
        outlet := (f' { mux := d'.mux, outlet := d'.outlet }).2.outlet } :=
    ⟨like.mux_eq, like.owns, like.outlets, h.pipes_eq, h.keeps, h.keeps'⟩
  have done := moved.performAll inj like.asked
  rw [← like.actions_eq] at done
  exact done

theorem Alike.step (h : Alike P ρ R base base' d d') {f : Station σ → Station σ}
    {f' : Station σ' → Station σ'}
    (like : Station.Alike P ρ R (f { mux := d.mux, outlet := d.outlet })
      (f' { mux := d'.mux, outlet := d'.outlet })) :
    Alike P ρ R base base' (d.step f) (d'.step f') :=
  h.run inj like

theorem Alike.teardown (h : Alike P ρ R base base' d d') :
    Alike P ρ R base base' d.teardown d'.teardown :=
  h.step inj h.station.teardown

theorem Alike.readWith (like : Outlet.Alike R out out') {r : StreamRef} (own : P r.socket)
    (fuel : Nat) (h : Alike P ρ R base base' d d') :
    Alike P ρ R base base' (d.readWith out r fuel) (d'.readWith out' (r.rename ρ) fuel) := by
  induction fuel generalizing d d' with
  | zero => exact h
  | succ fuel ih =>
      have same : d'.mux.isOpen (r.rename ρ) = d.mux.isOpen r := by
        rw [h.mux_eq]
        exact Multiplexer.isOpen_rename h.owns inj own
      have settings : d'.mux.settings = d.mux.settings := by
        rw [h.mux_eq]
        rfl
      have pipe : d'.sockets.pipes.get? (r.rename ρ).socket = d.sockets.pipes.get? r.socket :=
        h.pipes_eq r.socket own
      have ended : Alike P ρ R base base' (d.step (·.readEnded out r))
          (d'.step (·.readEnded out' (r.rename ρ))) :=
        h.step inj (h.station.readEnded like same)
      rw [Desk.readWith, Desk.readWith, same, pipe, settings]
      split
      · split
        · exact h
        · split
          · split
            · exact ended
            · exact h
          · dsimp only
            split
            · exact ended
            · have taken := h.modify inj own
                (fun p => { p with toNear := p.toNear.drop d.mux.settings.readBufferSize })
              exact ih (taken.step inj (taken.station.read like same _))
      · exact h

theorem Alike.readAll (like : Outlet.Alike R out out') {r : StreamRef} (own : P r.socket)
    (h : Alike P ρ R base base' d d') :
    Alike P ρ R base base' (d.readAll out r) (d'.readAll out' (r.rename ρ)) := by
  rw [Desk.readAll, Desk.readAll, show d'.sockets.pipes.get? (r.rename ρ).socket = _ from h.pipes_eq _ own]
  exact h.readWith inj like own _

theorem Alike.readSocket (like : Outlet.Alike R out out') {socket : SocketId} (own : P socket)
    (h : Alike P ρ R base base' d d') :
    Alike P ρ R base base' (d.readSocket out socket) (d'.readSocket out' (ρ socket)) := by
  rw [Desk.readSocket, Desk.readSocket, h.mux_eq, Multiplexer.owner?_rename h.owns inj own]
  cases found : d.mux.owner? socket with
  | none => exact h
  | some r => exact h.readAll inj like (by rwa [Multiplexer.socket_of_owner? found])

end Desk

end StreamTunnel
