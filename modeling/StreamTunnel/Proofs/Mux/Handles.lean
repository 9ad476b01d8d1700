import Mathlib.Data.List.Induction
import StreamTunnel.Proofs.Mux.Life

namespace StreamTunnel

namespace Roll

variable {l : Roll} {c : Change} {r : StreamRef} {id : StreamId} {brought : List SocketId}

def Has (r : StreamRef) (l : Roll) : Prop :=
  l.ref? r.id = some r

def Knows (r : StreamRef) (l : Roll) : Prop :=
  l.Has r ∨ r.socket ∈ l.released

def refs (l : Roll) : List StreamRef :=
  l.entries.toList.map (fun e => ⟨e.1, e.2.socket⟩)

/-- Each stream has a socket of its own among those that were brought, and it was not released. -/
structure Sound (brought : List SocketId) (l : Roll) : Prop where
  sorted : l.entries.keys.Pairwise (· < ·)
  distinct : ∀ r r', l.Has r → l.Has r' → r.socket = r'.socket → r = r'
  owned : ∀ r, l.Has r → r.socket ∈ brought
  released : ∀ socket ∈ l.released, socket ∈ brought
  live : ∀ r, l.Has r → r.socket ∉ l.released

theorem id_of_ref? (found : l.ref? id = some r) : r.id = id := by
  obtain ⟨e, -, rfl⟩ := Option.map_eq_some_iff.mp found
  rfl

theorem has_of_ref? (found : l.ref? id = some r) : l.Has r := by
  rw [Has, id_of_ref? found]
  exact found

theorem mem_refs_of_has (has : l.Has r) : r ∈ l.refs := by
  obtain ⟨e, found, same⟩ := Option.map_eq_some_iff.mp has
  exact List.mem_map.mpr ⟨(r.id, e), Table.mem_of_get? found, same⟩

theorem nodup_keys (sorted : l.entries.keys.Pairwise (· < ·)) : l.entries.keys.Nodup := by
  refine sorted.imp fun {a b} before same => ?_
  subst same
  exact List.lt_irrefl a.bytes before

theorem Sound.has_of_mem_refs (sound : l.Sound brought) (mem : r ∈ l.refs) : l.Has r := by
  obtain ⟨⟨id, e⟩, listed, rfl⟩ := List.mem_map.mp mem
  have found := (Table.mem_toList_iff (nodup_keys sound.sorted)).mp listed
  exact congrArg (Option.map _) found

/-! ## One change -/

theorem has_change :
    (l.change c).Has r ↔ match c with
      | .enter r' _ => r = r' ∨ l.Has r ∧ r.id ≠ r'.id
      | .remove j => l.Has r ∧ r.id ≠ j
      | .clear => False
      | _ => l.Has r := by
  rw [Has, Station.ref?_change]
  cases c with
  | enter r' origin =>
      dsimp only
      split
      · next same => simp [same, eq_comm]
      · next other =>
        have distinct : r ≠ r' := fun same => other (congrArg StreamRef.id same)
        simp [distinct, other, Has]
  | remove j =>
      dsimp only
      split
      · next same => simp [same]
      · next other => simp [other, Has]
  | clear => simp
  | nothing | find | miss | spare => rfl

theorem released_change (l : Roll) (c : Change) :
    (l.change c).released = l.released ++ match c with
      | .remove id => (l.ref? id).toList.map StreamRef.socket
      | .clear => l.refs.map StreamRef.socket
      | .spare socket => [socket]
      | _ => [] := by
  cases c with
  | remove id =>
      dsimp only [Roll.change, ref?]
      cases l.entries.get? id <;> rfl
  | clear =>
      dsimp only [Roll.change, refs]
      rw [List.map_map]
      rfl
  | spare => rfl
  | nothing | enter | find | miss => exact (List.append_nil _).symm

theorem released_subset_change (l : Roll) (c : Change) : l.released ⊆ (l.change c).released := by
  rw [released_change]
  exact List.subset_append_left _ _

theorem Knows.change (knows : l.Knows r) (free : ∀ r' origin, c = .enter r' origin → l.ref? r'.id = none) :
    (l.change c).Knows r := by
  rcases knows with has | released
  · rw [Knows, has_change, released_change]
    cases c with
    | nothing | find | miss | spare => exact .inl has
    | enter r' origin =>
        refine .inl (.inr ⟨has, fun same => ?_⟩)
        have there := free r' origin rfl
        rw [← same, has] at there
        cases there
    | remove j =>
        by_cases same : r.id = j
        · subst same
          refine .inr (List.mem_append_right _ ?_)
          dsimp only
          rw [has]
          exact List.mem_singleton_self _
        · exact .inl ⟨has, same⟩
    | clear =>
        right
        exact List.mem_append_right _ (List.mem_map_of_mem (mem_refs_of_has has))
  · exact .inr (released_subset_change l c released)

theorem sorted_change (sorted : l.entries.keys.Pairwise (· < ·)) (c : Change) :
    (l.change c).entries.keys.Pairwise (· < ·) := by
  cases c with
  | nothing | find | miss | spare => exact sorted
  | enter r' origin => exact Table.sorted_keys_insert StreamId.lt_trans StreamId.lt_of_not_lt sorted _ _
  | remove j => exact sorted.sublist (Table.keys_erase_sublist l.entries j)
  | clear => exact List.Pairwise.nil

theorem Sound.mem_released_change (sound : l.Sound brought) {socket : SocketId}
    (mem : socket ∈ (l.change c).released) :
    socket ∈ l.released ∨ (∃ r, l.Has r ∧ ¬ (l.change c).Has r ∧ r.socket = socket) ∨ c = .spare socket := by
  rw [released_change, List.mem_append] at mem
  rcases mem with before | mem
  · exact .inl before
  · right
    cases c with
    | nothing | enter | find | miss => cases mem
    | remove id =>
        obtain ⟨r, found, rfl⟩ := List.mem_map.mp mem
        have found := Option.mem_toList.mp found
        refine .inl ⟨r, has_of_ref? found, ?_, rfl⟩
        rw [has_change]
        exact fun kept => kept.2 (id_of_ref? found)
    | clear =>
        obtain ⟨r, there, rfl⟩ := List.mem_map.mp mem
        refine .inl ⟨r, sound.has_of_mem_refs there, ?_, rfl⟩
        rw [has_change]
        exact not_false
    | spare other =>
        cases List.mem_singleton.mp mem
        exact .inr rfl

theorem has_of_change (has : (l.change c).Has r) : l.Has r ∨ ∃ origin, c = .enter r origin := by
  rw [has_change] at has
  cases c with
  | nothing | find | miss | spare => exact .inl has
  | enter r' origin =>
      rcases has with rfl | ⟨has, -⟩
      · exact .inr ⟨origin, rfl⟩
      · exact .inl has
  | remove => exact .inl has.1
  | clear => exact has.elim

theorem Sound.change (sound : l.Sound brought) {brought' : List SocketId} (more : brought ⊆ brought')
    (new : ∀ socket, c.socket? = some socket → socket ∉ brought ∧ socket ∈ brought') :
    (l.change c).Sound brought' := by
  -- A stream that enters has a socket that no stream had before.
  have entering {r : StreamRef} {origin : Origin} (enters : c = .enter r origin) :=
    new r.socket (by rw [enters]; rfl)
  refine ⟨sorted_change sound.sorted c, ?_, ?_, ?_, ?_⟩
  · intro r r' has has' same
    rcases has_of_change has with before | ⟨origin, enters⟩ <;>
      rcases has_of_change has' with before' | ⟨origin', enters'⟩
    · exact sound.distinct r r' before before' same
    · exact absurd (same ▸ sound.owned r before) (entering enters').1
    · exact absurd (same ▸ sound.owned r' before') (entering enters).1
    · rw [enters] at enters'
      cases enters'
      rfl
  · intro r has
    rcases has_of_change has with before | ⟨origin, enters⟩
    · exact more (sound.owned r before)
    · exact (entering enters).2
  · intro socket mem
    rcases sound.mem_released_change mem with before | ⟨r, has, -, rfl⟩ | rfl
    · exact more (sound.released socket before)
    · exact more (sound.owned r has)
    · exact (new socket rfl).2
  · intro r has mem
    rcases has_of_change has with before | ⟨origin, enters⟩
    · rcases sound.mem_released_change mem with early | ⟨r', has', left, same⟩ | rfl
      · exact sound.live r before early
      · exact left (sound.distinct r' r has' before same ▸ has)
      · exact (new r.socket rfl).1 (sound.owned r before)
    · rcases sound.mem_released_change mem with early | ⟨r', has', -, same⟩ | spares
      · exact (entering enters).1 (sound.released _ early)
      · exact (entering enters).1 (same ▸ sound.owned r' has')
      · rw [enters] at spares
        cases spares

end Roll

def MuxEvent.socketsOf (events : List MuxEvent) : List SocketId :=
  events.filterMap socket?

namespace Station

variable {σ β : Type} {out : Outlet σ} {s first : Station σ} {r : StreamRef} {events : List MuxEvent}

/-- A handle is closed when the socket of its stream is let go. -/
def Cancelled (r : StreamRef) (s : Station σ) : Prop :=
  .release r.socket ∈ s.actions

/-- A client is given its handle when it is taken in. Later a handle is found by the id of its stream. -/
def HandedOut (out : Outlet σ) (s : Station σ) (events : List MuxEvent) (r : StreamRef) : Prop :=
  (∃ past socket drawn, events = past ++ [.act (.attach socket drawn)] ∧
    ((s.life out past).attach socket drawn).1 = some r) ∨
  ∃ id, (s.life out events).mux.lookup id = some r

def along (out : Outlet σ) (f : Station σ → Roll.Change → List β) : Station σ → List MuxEvent → List β
  | _, [] => []
  | s, e :: rest => f s (e.change out s) ++ along out f (s.happen out e) rest

def entered (origin : Origin) (_ : Station σ) : Roll.Change → List StreamRef
  | .enter r o => if o = origin then [r] else []
  | _ => []

/-- The answer to a removal, beside the stream that it found. What is sent before it finds the same. -/
def removal (s : Station σ) : Roll.Change → List (Bool × Option StreamRef)
  | .remove id => [((s.remove id).1, s.mux.lookup id)]
  | _ => []

def removed (out : Outlet σ) (s : Station σ) (events : List MuxEvent) : List StreamRef :=
  (along out removal s events).filterMap Prod.snd

def tornDown (s : Station σ) : Roll.Change → List StreamRef
  | .clear => s.roll.refs
  | _ => []

/-! ## One event -/

theorem cancelled_iff : s.Cancelled r ↔ r.socket ∈ s.roll.released := by
  simp only [Cancelled, roll, List.mem_filterMap]
  constructor
  · intro mem
    exact ⟨_, mem, rfl⟩
  · rintro ⟨action, mem, same⟩
    cases action with
    | write => cases same
    | release => exact Option.some.inj same ▸ mem

theorem isOpen_iff_has : s.mux.isOpen r = true ↔ s.roll.Has r :=
  Multiplexer.isOpen_iff

theorem free_of_change (out : Outlet σ) (s : Station σ) (e : MuxEvent) (r' : StreamRef) (origin : Origin)
    (enters : e.change out s = .enter r' origin) : s.roll.ref? r'.id = none := by
  have warrants := warrants_change out s e
  rw [enters] at warrants
  exact warrants.1

theorem socket?_of_change {e : MuxEvent} {socket : SocketId}
    (brings : (e.change out s).socket? = some socket) : e.socket? = some socket := by
  have warrants := warrants_change out s e
  generalize e.change out s = c at brings warrants
  cases c with
  | enter => exact warrants.2.trans brings
  | spare => exact warrants.trans brings
  | nothing | find | miss | remove | clear => cases brings

theorem knows_happen (knows : s.roll.Knows r) (e : MuxEvent) : (s.happen out e).roll.Knows r := by
  rw [roll_happen]
  exact knows.change (free_of_change out s e)

theorem released_subset_happen (e : MuxEvent) : s.roll.released ⊆ (s.happen out e).roll.released := by
  rw [roll_happen]
  exact Roll.released_subset_change ..

theorem has_happen (has : s.roll.Has r) (e : MuxEvent) :
    (s.happen out e).roll.Has r ∨ (s.happen out e).mux.lookup r.id = none := by
  cases after : (s.happen out e).mux.lookup r.id with
  | none => exact .inr rfl
  | some r' =>
      -- Another stream could only have come if the id was free.
      have same : r'.id = r.id := Multiplexer.id_of_lookup after
      have there : (s.happen out e).roll.Has r' := Roll.has_of_ref? after
      rcases Roll.has_of_change (roll_happen out s e ▸ there) with before | ⟨origin, enters⟩
      · rw [Roll.Has, same, has] at before
        cases before
        exact .inl there
      · have free := free_of_change out s e r' origin enters
        rw [same, has] at free
        cases free

theorem fst_remove (id : StreamId) (s : Station σ) : (s.remove id).1 = (s.mux.lookup id).isSome := by
  rw [lookup_isSome, remove]
  cases s.mux.entries.get? id <;> rfl

theorem count_happen (sorted : s.roll.entries.keys.Pairwise (· < ·)) (out : Outlet σ) (e : MuxEvent) :
    (s.happen out e).mux.count + ((s.removal (e.change out s)).filterMap Prod.snd).length +
        (s.tornDown (e.change out s)).length =
      s.mux.count + (s.entered .accepted (e.change out s)).length +
        (s.entered .adopted (e.change out s)).length := by
  have free := free_of_change out s e
  have size : (s.happen out e).mux.count = (s.roll.change (e.change out s)).entries.size :=
    congrArg (fun l => l.entries.size) (roll_happen out s e)
  rw [size]
  generalize e.change out s = c at free
  cases c with
  | nothing | find | miss | spare => rfl
  | enter r' origin =>
      have new := Option.map_eq_none_iff.mp (free r' origin rfl)
      have grown : (s.roll.change (.enter r' origin)).entries.size = s.mux.count + 1 :=
        Table.size_insert new _
      rw [grown]
      cases origin <;> rfl
  | remove id =>
      have shrunk : (s.roll.change (.remove id)).entries.size + (s.mux.entries.get? id).toList.length =
          s.mux.count := Table.size_erase (Roll.nodup_keys sorted) id
      rw [← shrunk, removal, Multiplexer.lookup]
      cases s.mux.entries.get? id <;> rfl
  | clear =>
      have torn : (s.tornDown .clear).length = s.mux.count := List.length_map _
      rw [torn]
      exact Nat.zero_add _

/-! ## A whole life -/

theorem along_concat (out : Outlet σ) (f : Station σ → Roll.Change → List β) (s : Station σ)
    (events : List MuxEvent) (e : MuxEvent) :
    along out f s (events ++ [e]) =
      along out f s events ++ f (s.life out events) (e.change out (s.life out events)) := by
  induction events generalizing s with
  | nil => exact List.append_nil _
  | cons e' rest ih =>
      rw [List.cons_append, along, along, ih, List.append_assoc]
      rfl

theorem mem_along {f : Station σ → Roll.Change → List β} {x : β} (mem : x ∈ along out f s events) :
    ∃ s' c, x ∈ f s' c := by
  induction events generalizing s with
  | nil => cases mem
  | cons e rest ih =>
      rcases List.mem_append.mp mem with here | later
      · exact ⟨s, e.change out s, here⟩
      · exact ih later

theorem knows_life (knows : s.roll.Knows r) (later : List MuxEvent) :
    (s.life out later).roll.Knows r := by
  induction later generalizing s with
  | nil => exact knows
  | cons e rest ih => exact ih (knows_happen knows e)

theorem released_subset_life (later : List MuxEvent) :
    s.roll.released ⊆ (s.life out later).roll.released := by
  induction later generalizing s with
  | nil => exact List.Subset.refl _
  | cons e rest ih => exact List.Subset.trans (released_subset_happen e) ih

theorem has_life (has : s.roll.Has r) (later : List MuxEvent) :
    (s.life out later).roll.Has r ∨ ∃ mid, mid <+: later ∧ (s.life out mid).mux.lookup r.id = none := by
  induction later generalizing s with
  | nil => exact .inl has
  | cons e rest ih =>
      rcases has_happen has e with still | left
      · rcases ih still with atEnd | ⟨mid, before, left⟩
        · exact .inl atEnd
        · exact .inr ⟨e :: mid, List.cons_prefix_cons.mpr ⟨rfl, before⟩, left⟩
      · exact .inr ⟨[e], List.cons_prefix_cons.mpr ⟨rfl, List.nil_prefix⟩, left⟩

theorem removed_concat (out : Outlet σ) (s : Station σ) (events : List MuxEvent) (e : MuxEvent) :
    removed out s (events ++ [e]) =
      removed out s events ++
        ((s.life out events).removal (e.change out (s.life out events))).filterMap Prod.snd := by
  rw [removed, along_concat, List.filterMap_append]
  rfl

theorem mem_removal {c : Roll.Change} (mem : r ∈ (s.removal c).filterMap Prod.snd) :
    c = .remove r.id ∧ s.roll.Has r := by
  cases c with
  | remove id =>
      obtain ⟨call, here, found⟩ := List.mem_filterMap.mp mem
      cases List.mem_singleton.mp here
      have found : s.roll.ref? id = some r := found
      exact ⟨congrArg Roll.Change.remove (Roll.id_of_ref? found).symm, Roll.has_of_ref? found⟩
  | nothing | enter | find | miss | clear | spare => cases mem

theorem nodup_removal (s : Station σ) (c : Roll.Change) : ((s.removal c).filterMap Prod.snd).Nodup := by
  cases c with
  | remove id =>
      rw [removal]
      cases s.mux.lookup id <;> simp
  | nothing | enter | find | miss | clear | spare => exact List.nodup_nil

theorem released_of_removal {e : MuxEvent}
    (mem : r ∈ (s.removal (e.change out s)).filterMap Prod.snd) :
    r.socket ∈ (s.happen out e).roll.released := by
  obtain ⟨removes, has⟩ := mem_removal mem
  rcases knows_happen (.inl has) e with still | released
  · rw [roll_happen, removes, Roll.has_change] at still
    exact absurd rfl still.2
  · exact released

/-- The books of a life. No stream is taken out twice, for its socket was released the first time. -/
structure Booked (out : Outlet σ) (first : Station σ) (events : List MuxEvent) : Prop where
  sound : (first.life out events).roll.Sound (MuxEvent.socketsOf events)
  left : ∀ r ∈ removed out first events, r.socket ∈ (first.life out events).roll.released
  once : (removed out first events).Nodup
  balance : (first.life out events).mux.count + (removed out first events).length +
      (along out tornDown first events).length =
    (along out (entered .accepted) first events).length + (along out (entered .adopted) first events).length

theorem socketsOf_concat (events : List MuxEvent) (e : MuxEvent) :
    MuxEvent.socketsOf (events ++ [e]) = MuxEvent.socketsOf events ++ e.socket?.toList := by
  rw [MuxEvent.socketsOf, List.filterMap_append, List.filterMap_cons]
  cases e.socket? <;> rfl

theorem booked_start (out : Outlet σ) (settings : MuxSettings) (isHost : Bool) (outlet : σ) :
    Booked out { mux := .start settings isHost, outlet } [] where
  sound :=
    { sorted := List.Pairwise.nil
      distinct := by rintro r r' ⟨⟩
      owned := by rintro r ⟨⟩
      released := by rintro socket ⟨⟩
      live := by rintro r ⟨⟩ }
  left := by rintro r ⟨⟩
  once := List.nodup_nil
  balance := rfl

theorem Booked.concat (booked : Booked out first events) {e : MuxEvent}
    (new : (MuxEvent.socketsOf (events ++ [e])).Nodup) : Booked out first (events ++ [e]) := by
  obtain ⟨sound, left, once, balance⟩ := booked
  refine ⟨?_, ?_, ?_, ?_⟩
  · rw [life_concat, roll_happen]
    rw [socketsOf_concat] at new ⊢
    refine sound.change (List.subset_append_left _ _) ?_
    intro socket brings
    have here : socket ∈ e.socket?.toList := Option.mem_toList.mpr (socket?_of_change brings)
    refine ⟨fun before => ?_, List.mem_append_right _ here⟩
    exact (List.nodup_append.mp new).2.2 socket before socket here rfl
  · intro r mem
    rw [removed_concat, List.mem_append] at mem
    rw [life_concat]
    rcases mem with before | here
    · exact released_subset_happen e (left r before)
    · exact released_of_removal here
  · rw [removed_concat, List.nodup_append]
    refine ⟨once, nodup_removal _ _, ?_⟩
    rintro r before r' here rfl
    exact sound.live r (mem_removal here).2 (left r before)
  · have counted := count_happen sound.sorted out e
    rw [removed_concat, along_concat, along_concat, along_concat, life_concat]
    simp only [List.length_append]
    omega

theorem booked_life (out : Outlet σ) (settings : MuxSettings) (isHost : Bool) (outlet : σ)
    (new : (MuxEvent.socketsOf events).Nodup) :
    Booked out { mux := .start settings isHost, outlet } events := by
  induction events using List.reverseRecOn with
  | nil => exact booked_start out settings isHost outlet
  | append_singleton events e ih =>
      have before := new
      rw [socketsOf_concat] at before
      exact (ih (List.nodup_append.mp before).1).concat new

theorem has_of_handedOut (given : HandedOut out s events r) : (s.life out events).roll.Has r := by
  rcases given with ⟨past, socket, drawn, rfl, given⟩ | ⟨id, found⟩
  · rw [life_concat, roll_happen, MuxEvent.change, given, Roll.has_change]
    exact .inl rfl
  · exact Roll.has_of_ref? found

theorem cancelled_iff_not_isOpen {later : List MuxEvent} {brought : List SocketId}
    (sound : (s.life out later).roll.Sound brought) (has : s.roll.Has r) :
    (s.life out later).Cancelled r ↔ (s.life out later).mux.isOpen r = false := by
  rw [cancelled_iff, ← Bool.not_eq_true, isOpen_iff_has]
  constructor
  · intro released there
    exact sound.live r there released
  · intro gone
    exact (knows_life (.inl has) later).resolve_left gone

theorem cancelled_iff_exists {later : List MuxEvent} {brought : List SocketId}
    (sound : (s.life out later).roll.Sound brought) (has : s.roll.Has r) :
    (s.life out later).Cancelled r ↔
      ∃ mid, mid <+: later ∧ (s.life out mid).mux.lookup r.id = none := by
  rw [cancelled_iff]
  constructor
  · intro released
    exact (has_life has later).resolve_left fun there => sound.live r there released
  · rintro ⟨mid, ⟨rest, rfl⟩, free⟩
    have gone : ¬ (s.life out mid).roll.Has r := by
      rw [Roll.Has, ref?_roll, free]
      exact nofun
    rw [life_append]
    exact released_subset_life rest ((knows_life (.inl has) mid).resolve_left gone)

/-- However a life goes in which no socket is brought twice: a handle is closed exactly when its stream is
gone, which is so once there was no stream under its id, and then it stays closed. A removal answers that
there was a stream if there was one, and no stream is removed twice. The streams that are there are those that
came less those that left, and their ids are listed in order. -/
theorem handles_track_streams (out : Outlet σ) (settings : MuxSettings) (isHost : Bool) (outlet : σ)
    (events : List MuxEvent) (new : (MuxEvent.socketsOf events).Nodup) :
    let first : Station σ := { mux := .start settings isHost, outlet }
    let t := first.life out events
    (∀ before later r, events = before ++ later → HandedOut out first before r →
      (t.Cancelled r ↔ t.mux.isOpen r = false) ∧
      (t.Cancelled r ↔
        ∃ mid, mid <+: later ∧ (first.life out (before ++ mid)).mux.lookup r.id = none)) ∧
    (∀ before later r, events = before ++ later → (first.life out before).Cancelled r → t.Cancelled r) ∧
    (∀ call ∈ along out removal first events, call.1 = call.2.isSome) ∧
    (removed out first events).Nodup ∧ (∀ r ∈ removed out first events, t.Cancelled r) ∧
    t.mux.count + (removed out first events).length + (along out tornDown first events).length =
      (along out (entered .accepted) first events).length +
        (along out (entered .adopted) first events).length ∧
    t.mux.ids.Pairwise (· < ·) ∧
    ∀ id, id ∈ t.mux.ids ↔ (t.mux.lookup id).isSome := by
  intro first t
  obtain ⟨sound, left, once, balance⟩ := booked_life out settings isHost outlet new
  refine ⟨?_, ?_, ?_, once, fun r mem => cancelled_iff.mpr (left r mem), balance, sound.sorted, ?_⟩
  · rintro before later r rfl given
    have has := has_of_handedOut given
    rw [life_append] at sound
    simp only [t, life_append]
    exact ⟨cancelled_iff_not_isOpen sound has, cancelled_iff_exists sound has⟩
  · rintro before later r rfl cancelled
    rw [cancelled_iff] at cancelled ⊢
    simp only [t, life_append]
    exact released_subset_life later cancelled
  · intro call mem
    obtain ⟨s', c, here⟩ := mem_along mem
    cases c with
    | remove id =>
        cases List.mem_singleton.mp here
        exact fst_remove id s'
    | nothing | enter | find | miss | clear | spare => cases here
  · intro id
    rw [lookup_isSome]
    exact Table.contains_iff_mem_keys.symm

theorem handles_track_streams_of_same_id :
    let r : StreamRef := ⟨StreamId.ofNat 5, .client 1⟩
    let r' : StreamRef := ⟨StreamId.ofNat 5, .client 2⟩
    let events : List MuxEvent :=
      [.act (.attach r.socket [r.id]), .act (.remove r.id), .act (.attach r'.socket [r'.id])]
    let t := life .outbox { mux := .start {} false, outlet := {} } events
    (MuxEvent.socketsOf events).Nodup ∧ t.Cancelled r ∧ ¬ t.Cancelled r' ∧ t.mux.lookup r.id = some r' := by
  intro r r' events t
  have new : (MuxEvent.socketsOf events).Nodup := by decide
  have there : t.mux.lookup r'.id = some r' := by decide
  obtain ⟨closed, -⟩ := handles_track_streams .outbox {} false {} events new
  have handed : HandedOut .outbox { mux := .start {} false, outlet := {} } (events.take 1) r :=
    .inl ⟨[], r.socket, [r.id], rfl, rfl⟩
  have handed' : HandedOut .outbox { mux := .start {} false, outlet := {} } events r' := .inr ⟨_, there⟩
  refine ⟨new, ?_, ?_, there⟩
  · exact (closed (events.take 1) (events.drop 1) r rfl handed).1.mpr (by decide)
  · rw [(closed events [] r' rfl handed').1]
    decide

end Station
end StreamTunnel
