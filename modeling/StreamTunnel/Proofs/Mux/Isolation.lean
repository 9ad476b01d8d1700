import StreamTunnel.Proofs.Mux.Run
import StreamTunnel.Proofs.Mux.Turn

namespace StreamTunnel

def Outlet.choosing (takes : Bytes → Bool) : Outlet (List Bytes) where
  offer p sent := if takes p then (true, sent ++ [p]) else (false, sent)

def SocketAction.socket : SocketAction → SocketId
  | write socket _ | release socket => socket

/-- What one stream has of a multiplexer. -/
structure Share where
  settings : MuxSettings
  isHost : Bool
  entry : Option Entry
  isMissing : Bool
  packets : List Bytes
  asked : List SocketAction

namespace Station

def carries (id : StreamId) (raw : Bytes) : Bool :=
  (Packet.decode raw).toOption.map (·.stream) = some id

def share (id : StreamId) (own : List SocketId) (s : Station (List Bytes)) : Share where
  settings := s.mux.settings
  isHost := s.mux.isHost
  entry := s.mux.entries.get? id
  isMissing := s.mux.isMissing id
  packets := s.outlet.filter (carries id)
  asked := s.actions.filter (·.socket ∈ own)

variable {takes : Bytes → Bool} {id j : StreamId} {own : List SocketId} {s t : Station (List Bytes)}

theorem carries_encode (p : Packet) : carries id p.encode = decide (p.stream = id) := by
  simp only [carries, Packet.decode_encode_sent, Except.toOption, Option.map_some, Option.some.injEq]

theorem share_ask (a : SocketAction) :
    (s.ask a).share id own =
      { s.share id own with asked := (s.share id own).asked ++ if a.socket ∈ own then [a] else [] } := by
  by_cases mine : a.socket ∈ own <;> simp [share, ask, mine]

theorem share_offer (p : Packet) :
    (s.offer (.choosing takes) p).2.share id own =
      { s.share id own with
        packets := (s.share id own).packets ++
          if takes p.encode = true ∧ p.stream = id then [p.encode] else [] } := by
  by_cases taken : takes p.encode = true
  · by_cases mine : p.stream = id <;>
      simp [share, offer, Outlet.choosing, taken, carries_encode, mine]
  · simp [share, offer, Outlet.choosing, taken]

theorem share_register (e : Entry) :
    (s.register j e).share id own =
      if j = id then { s.share id own with entry := some e, isMissing := false }
      else s.share id own := by
  by_cases same : j = id
  · simp [share, register, update, Table.get?_insert, Multiplexer.isMissing, same]
  · simp [share, register, update, Table.get?_insert, Multiplexer.isMissing, same, Ne.symm same]

theorem share_erase :
    (s.update (fun m =>
      { m with entries := m.entries.erase j, missing := m.missing.filter (· ≠ j) })).share id own =
      if j = id then { s.share id own with entry := none, isMissing := false }
      else s.share id own := by
  by_cases same : j = id
  · simp [share, update, Table.get?_erase, Multiplexer.isMissing, same]
  · simp [share, update, Table.get?_erase, Multiplexer.isMissing, same, Ne.symm same]

theorem share_found :
    (s.update (fun m => { m with missing := m.missing.filter (· ≠ j) })).share id own =
      if j = id then { s.share id own with isMissing := false } else s.share id own := by
  by_cases same : j = id
  · simp [share, update, Multiplexer.isMissing, same]
  · simp [share, update, Multiplexer.isMissing, same, Ne.symm same]

theorem share_missed :
    (s.update (fun m => { m with missing := m.missing.insert j })).share id own =
      if j = id then { s.share id own with isMissing := true } else s.share id own := by
  by_cases same : j = id
  · simp [share, update, Multiplexer.isMissing, same]
  · simp [share, update, Multiplexer.isMissing, same, Ne.symm same]

/-! ## Acts of another stream -/

theorem share_ask_other {a : SocketAction} (other : a.socket ∉ own) :
    (s.ask a).share id own = s.share id own := by
  simp [share_ask, other]

theorem share_offer_other {p : Packet} (other : p.stream ≠ id) :
    (s.offer (.choosing takes) p).2.share id own = s.share id own := by
  simp [share_offer, other]

/-- The socket of the stream, if there is one, is not looked at. -/
def Elsewhere (own : List SocketId) (j : StreamId) (s : Station (List Bytes)) : Prop :=
  ∀ e, s.mux.entries.get? j = some e → e.socket ∉ own

theorem share_remove_other (other : j ≠ id) (elsewhere : Elsewhere own j s) :
    (s.remove j).2.share id own = s.share id own := by
  rw [remove]
  cases there : s.mux.entries.get? j with
  | none => simp only [share_erase, if_neg other]
  | some e =>
      dsimp only
      rw [share_ask_other (by exact elsewhere e there), share_erase, if_neg other]

theorem share_closeFromLocal_other (other : j ≠ id) (elsewhere : Elsewhere own j s) :
    (s.closeFromLocal (.choosing takes) j).share id own = s.share id own := by
  have removed := share_remove_other other elsewhere
  rw [closeFromLocal]
  split
  · next gone => rwa [gone] at removed
  · next found =>
    rw [found] at removed
    split
    · rw [sayGone, share_offer_other (by exact other), removed]
    · exact removed

theorem share_offerAll_other {packets : List Packet} (other : ∀ p ∈ packets, p.stream ≠ id) :
    (s.offerAll (.choosing takes) packets).2.share id own = s.share id own := by
  induction packets generalizing s with
  | nil => rfl
  | cons p rest ih =>
      rw [List.forall_mem_cons] at other
      have same : (s.offer (.choosing takes) p).2.share id own = s.share id own :=
        share_offer_other other.1
      rw [offerAll]
      split
      · next refused => rw [refused] at same; exact same
      · next taken =>
        rw [taken] at same
        exact (ih other.2).trans same

theorem stream_of_mem_framed {m : Multiplexer} {payload : Bytes} {kind : PacketKind} {p : Packet}
    (mem : p ∈ framed j payload kind m) : p.stream = j := by
  cases kind with
  | data =>
      obtain ⟨piece, -, rfl⟩ := List.mem_map.mp mem
      rfl
  | disconnect =>
      obtain rfl : p = .disconnect j := List.mem_singleton.mp mem
      rfl

theorem share_read_other {r : StreamRef} {piece : Bytes} (other : r.id ≠ id)
    (elsewhere : Elsewhere own r.id s) :
    (s.read (.choosing takes) r piece).share id own = s.share id own := by
  rw [read]
  split
  · rw [sendFramed]
    have sent : ∀ p ∈ framed r.id piece .data s.mux, p.stream ≠ id := by
      intro p mem
      rw [stream_of_mem_framed mem]
      exact other
    have same : (s.offerAll (.choosing takes) (framed r.id piece .data s.mux)).2.share id own =
        s.share id own := share_offerAll_other sent
    have mux := mux_offerAll (s := s) (.choosing takes) (framed r.id piece .data s.mux)
    generalize s.offerAll (.choosing takes) (framed r.id piece .data s.mux) = sending at same mux
    obtain ⟨⟨n, all⟩, s'⟩ := sending
    cases all with
    | true => exact same
    | false =>
        have elsewhere' : Elsewhere own r.id s' := by
          intro e there
          rw [mux] at there
          exact elsewhere e there
        exact (share_closeFromLocal_other other elsewhere').trans same
  · rfl

theorem share_readEnded_other {r : StreamRef} (other : r.id ≠ id)
    (elsewhere : Elsewhere own r.id s) :
    (s.readEnded (.choosing takes) r).share id own = s.share id own := by
  rw [readEnded]
  split
  · exact share_closeFromLocal_other other elsewhere
  · rfl

theorem share_deliver_other {payload : Bytes} {dialed : Option SocketId} (other : j ≠ id)
    (elsewhere : Elsewhere own j s) (brings : ∀ socket, dialed = some socket → socket ∉ own) :
    (s.deliver (.choosing takes) j payload dialed).share id own = s.share id own := by
  unfold deliver
  cases there : s.mux.entries.get? j with
  | some e =>
      dsimp only
      rw [share_ask_other (by exact elsewhere e there), share_found, if_neg other]
  | none =>
      dsimp only
      split
      · cases dialed with
        | none => exact share_offer_other other
        | some socket =>
            dsimp only
            rw [share_ask_other (by exact brings socket rfl), share_register, if_neg other]
      · rw [miss, sayGone, share_offer_other (by exact other), share_missed, if_neg other]

theorem share_step_other {a : MuxAct} (other : a.id? s.mux ≠ some id)
    (elsewhere : ∀ j ≠ id, Elsewhere own j s)
    (brings : ∀ socket, a.socket? = some socket → socket ∉ own) :
    (s.step (.choosing takes) a).share id own = s.share id own := by
  cases a with
  | attach socket drawn =>
      rw [step, attach]
      cases drawing : StreamId.firstFree s.mux.entries.contains drawn with
      | none => rfl
      | some found =>
          have apart : found.1 ≠ id := by simpa [MuxAct.id?, drawing] using other
          dsimp only
          rw [share_register, if_neg apart]
  | packet raw dialed =>
      rw [step, packet]
      split
      · rfl
      · next j payload read =>
        have apart : j ≠ id := by simpa [MuxAct.id?, read, Except.toOption] using other
        exact share_deliver_other apart (elsewhere j apart) brings
      · next j payload read =>
        have apart : j ≠ id := by simpa [MuxAct.id?, read, Except.toOption] using other
        exact share_remove_other apart (elsewhere j apart)
  | remove j =>
      have apart : j ≠ id := by simpa [MuxAct.id?] using other
      exact share_remove_other apart (elsewhere _ apart)
  | read r piece =>
      have apart : r.id ≠ id := by simpa [MuxAct.id?] using other
      rw [step]
      split
      · exact share_readEnded_other apart (elsewhere _ apart)
      · exact share_read_other apart (elsewhere _ apart)
  | ended r =>
      have apart : r.id ≠ id := by simpa [MuxAct.id?] using other
      exact share_readEnded_other apart (elsewhere _ apart)
  | failed r =>
      have apart : r.id ≠ id := by simpa [MuxAct.id?] using other
      exact share_closeFromLocal_other apart (elsewhere _ apart)

/-! ## Acts of the stream itself -/

theorem share_remove_own (same : s.share id own = t.share id own) :
    (s.remove id).1 = (t.remove id).1 ∧
      (s.remove id).2.share id own = (t.remove id).2.share id own := by
  have entry : s.mux.entries.get? id = t.mux.entries.get? id := congrArg Share.entry same
  simp only [remove, entry]
  cases t.mux.entries.get? id with
  | none => exact ⟨rfl, by simp only [share_erase, same]⟩
  | some e => exact ⟨rfl, by simp only [share_ask, share_erase, same]⟩

theorem share_closeFromLocal_own (same : s.share id own = t.share id own) :
    (s.closeFromLocal (.choosing takes) id).share id own =
      (t.closeFromLocal (.choosing takes) id).share id own := by
  obtain ⟨found, removed⟩ := share_remove_own same
  rw [closeFromLocal, closeFromLocal]
  generalize s.remove id = sr at found removed
  generalize t.remove id = tr at found removed
  obtain ⟨there, s'⟩ := sr
  obtain ⟨_, t'⟩ := tr
  obtain rfl := found
  cases there with
  | false => exact removed
  | true =>
      have settings : s'.mux.settings = t'.mux.settings := congrArg Share.settings removed
      dsimp only
      rw [settings]
      split
      · simp only [sayGone, share_offer, removed]
      · exact removed

theorem share_offerAll_own (takes : Bytes → Bool) (same : s.share id own = t.share id own)
    (packets : List Packet) :
    (s.offerAll (.choosing takes) packets).1 = (t.offerAll (.choosing takes) packets).1 ∧
      (s.offerAll (.choosing takes) packets).2.share id own =
        (t.offerAll (.choosing takes) packets).2.share id own := by
  induction packets generalizing s t with
  | nil => exact ⟨rfl, same⟩
  | cons p rest ih =>
      have offered : (s.offer (.choosing takes) p).2.share id own =
          (t.offer (.choosing takes) p).2.share id own := by simp only [share_offer, same]
      have verdict (s : Station (List Bytes)) : (s.offer (.choosing takes) p).1 = takes p.encode := by
        cases taken : takes p.encode <;> simp [offer, Outlet.choosing, taken]
      have first := verdict s
      have second := verdict t
      rw [offerAll, offerAll]
      generalize s.offer (.choosing takes) p = sp at offered first
      generalize t.offer (.choosing takes) p = tp at offered second
      obtain ⟨b, s'⟩ := sp
      obtain ⟨b', t'⟩ := tp
      obtain rfl : b = b' := first.trans second.symm
      cases b with
      | false => exact ⟨rfl, offered⟩
      | true =>
          obtain ⟨counted, later⟩ := ih offered
          exact ⟨by simp only [counted], later⟩

theorem isOpen_congr {r : StreamRef} (same : s.share r.id own = t.share r.id own) :
    s.mux.isOpen r = t.mux.isOpen r := by
  have entry : s.mux.entries.get? r.id = t.mux.entries.get? r.id := congrArg Share.entry same
  rw [Multiplexer.isOpen, Multiplexer.isOpen, Multiplexer.lookup, Multiplexer.lookup, entry]

theorem share_read_own {r : StreamRef} {piece : Bytes}
    (same : s.share r.id own = t.share r.id own) :
    (s.read (.choosing takes) r piece).share r.id own =
      (t.read (.choosing takes) r piece).share r.id own := by
  have settings : s.mux.settings = t.mux.settings := congrArg Share.settings same
  have packets : framed r.id piece .data s.mux = framed r.id piece .data t.mux := by
    simp only [framed, settings]
  obtain ⟨counted, sent⟩ := share_offerAll_own takes same (framed r.id piece .data t.mux)
  rw [read, read, isOpen_congr same]
  split
  · rw [sendFramed, sendFramed, packets]
    generalize s.offerAll (.choosing takes) (framed r.id piece .data t.mux) = sp at counted sent
    generalize t.offerAll (.choosing takes) (framed r.id piece .data t.mux) = tp at counted sent
    obtain ⟨⟨n, all⟩, s'⟩ := sp
    obtain ⟨_, t'⟩ := tp
    obtain rfl := counted
    cases all with
    | true => exact sent
    | false => exact share_closeFromLocal_own sent
  · exact same

theorem share_readEnded_own {r : StreamRef} (same : s.share r.id own = t.share r.id own) :
    (s.readEnded (.choosing takes) r).share r.id own =
      (t.readEnded (.choosing takes) r).share r.id own := by
  rw [readEnded, readEnded, isOpen_congr same]
  split
  · exact share_closeFromLocal_own same
  · exact same

theorem share_deliver_own {payload : Bytes} {dialed : Option SocketId}
    (same : s.share id own = t.share id own) :
    (s.deliver (.choosing takes) id payload dialed).share id own =
      (t.deliver (.choosing takes) id payload dialed).share id own := by
  have entry : s.mux.entries.get? id = t.mux.entries.get? id := congrArg Share.entry same
  have settings : s.mux.settings = t.mux.settings := congrArg Share.settings same
  have role : s.mux.isHost = t.mux.isHost := congrArg Share.isHost same
  have able : s.mux.canDial = t.mux.canDial := by
    rw [Multiplexer.canDial, Multiplexer.canDial, settings, role]
  unfold deliver
  rw [entry, able]
  cases t.mux.entries.get? id with
  | some e => simp only [share_ask, share_found, same]
  | none =>
      dsimp only
      split
      · cases dialed with
        | none => simp only [sayGone, share_offer, same]
        | some socket => simp only [share_ask, share_register, same]
      · simp only [miss, sayGone, share_offer, share_missed, same]

theorem share_step_own {a : MuxAct} (mine : a.id? s.mux = some id)
    (same : s.share id own = t.share id own) :
    (s.step (.choosing takes) a).share id own =
      (t.step (.choosing takes) (a.drawing id)).share id own := by
  cases a with
  | attach socket drawn =>
      obtain ⟨⟨j, n⟩, drew, is_id⟩ := Option.map_eq_some_iff.mp mine
      obtain rfl : j = id := is_id
      have free : t.mux.entries.contains j = false := by
        have entry : s.mux.entries.get? j = t.mux.entries.get? j := congrArg Share.entry same
        rw [Table.contains, ← entry]
        exact StreamId.not_taken_of_firstFree drew
      have redrawn : StreamId.firstFree t.mux.entries.contains [j] = some (j, 1) := by
        simp [StreamId.firstFree, free]
      simp only [step, MuxAct.drawing, attach, drew, redrawn, share_register, same]
  | packet raw dialed =>
      simp only [step, MuxAct.drawing, packet]
      split
      · exact same
      · next j payload read =>
        obtain rfl : j = id := by simpa [MuxAct.id?, read, Except.toOption] using mine
        exact share_deliver_own same
      · next j payload read =>
        obtain rfl : j = id := by simpa [MuxAct.id?, read, Except.toOption] using mine
        exact (share_remove_own same).2
  | remove j =>
      obtain rfl : j = id := Option.some.inj mine
      exact (share_remove_own same).2
  | read r piece =>
      obtain rfl : r.id = id := Option.some.inj mine
      simp only [step, MuxAct.drawing]
      split
      · exact share_readEnded_own same
      · exact share_read_own same
  | ended r =>
      obtain rfl : r.id = id := Option.some.inj mine
      exact share_readEnded_own same
  | failed r =>
      obtain rfl : r.id = id := Option.some.inj mine
      exact share_closeFromLocal_own same

/-- The sockets `own` are those that the acts of the stream bring. -/
def Allotted (out : Outlet (List Bytes)) (own : List SocketId) (id : StreamId) :
    Station (List Bytes) → List MuxAct → Prop
  | _, [] => True
  | s, a :: rest =>
      (∀ socket, a.socket? = some socket → (socket ∈ own ↔ a.id? s.mux = some id)) ∧
        Allotted out own id (s.step out a) rest

theorem allotted_of_nodup {out : Outlet (List Bytes)} {acts : List MuxAct}
    (new : (socketsOf acts).Nodup)
    (own_iff : ∀ socket ∈ socketsOf acts,
      (socket ∈ own ↔ socket ∈ socketsOf (about out id s acts))) :
    Allotted out own id s acts := by
  induction acts generalizing s with
  | nil => trivial
  | cons a rest ih =>
      -- A socket that this act brings comes with no later one.
      have once : ∀ socket, a.socket? = some socket → socket ∉ socketsOf rest := by
        intro socket brought
        rw [socketsOf, List.filterMap_cons_some brought, List.nodup_cons] at new
        exact new.1
      have new' : (socketsOf rest).Nodup := new.sublist ((List.sublist_cons_self a rest).filterMap _)
      refine ⟨?_, ih new' ?_⟩
      · intro socket brought
        rw [own_iff socket (mem_socketsOf_cons.mpr (.inl brought)), mem_socketsOf_about_cons]
        constructor
        · rintro (⟨mine, -⟩ | later)
          · exact mine
          · exact absurd (mem_socketsOf_of_about later) (once socket brought)
        · intro mine
          exact .inl ⟨mine, brought⟩
      · intro socket mem
        rw [own_iff socket (mem_socketsOf_cons.mpr (.inr mem)), mem_socketsOf_about_cons]
        constructor
        · rintro (⟨-, brought⟩ | later)
          · exact absurd mem (once socket brought)
          · exact later
        · exact .inr

/-! ## Runs -/

/-- No other stream has one of the sockets. -/
def Apart (own : List SocketId) (id : StreamId) (s : Station (List Bytes)) : Prop :=
  ∀ j ≠ id, Elsewhere own j s

theorem apart_step {a : MuxAct} (apart : Apart own id s)
    (brings : ∀ socket, a.socket? = some socket → (socket ∈ own ↔ a.id? s.mux = some id)) :
    Apart own id (s.step (.choosing takes) a) := by
  intro j other e there
  rcases entries_step there with before | ⟨mine, brought⟩
  · exact apart j other e before
  · rw [brings _ brought, mine, Option.some.injEq]
    exact other

theorem share_run {acts : List MuxAct} (apart : Apart own id s)
    (allotted : Allotted (.choosing takes) own id s acts)
    (same : s.share id own = t.share id own) :
    (s.run (.choosing takes) acts).share id own =
      (t.run (.choosing takes) (about (.choosing takes) id s acts)).share id own := by
  induction acts generalizing s t with
  | nil => exact same
  | cons a rest ih =>
      obtain ⟨brings, later⟩ := allotted
      have apart' : Apart own id (s.step (.choosing takes) a) := apart_step apart brings
      rw [about]
      split
      · next mine => exact ih apart' later (share_step_own mine same)
      · next other =>
        have elsewhere : ∀ socket, a.socket? = some socket → socket ∉ own := by
          intro socket brought
          rw [brings socket brought]
          exact other
        exact ih apart' later ((share_step_other other apart elsewhere).trans same)

theorem socket_mem_own {acts : List MuxAct} {e : Entry}
    (allotted : Allotted (.choosing takes) own id s acts)
    (first : ∀ e, s.mux.entries.get? id = some e → e.socket ∈ own)
    (there : (s.run (.choosing takes) acts).mux.entries.get? id = some e) : e.socket ∈ own := by
  induction acts generalizing s with
  | nil => exact first e there
  | cons a rest ih =>
      obtain ⟨brings, later⟩ := allotted
      apply ih later _ there
      intro e there
      rcases entries_step there with before | ⟨mine, brought⟩
      · exact first e before
      · exact (brings _ brought).mpr mine

/-- Nothing that is done to one stream shows in another: its entry, whether it is missing, its
packets and what is asked of its sockets are those of the run that keeps the acts on that stream
alone. A packet that cannot be read is about no stream and changes nothing. -/
theorem streams_isolated (settings : MuxSettings) (isHost : Bool) (takes : Bytes → Bool)
    (acts : List MuxAct) (id : StreamId) (new : (socketsOf acts).Nodup) :
    let out := Outlet.choosing takes
    let first : Station (List Bytes) := { mux := .start settings isHost, outlet := [] }
    let alone := first.about out id acts
    let s := first.run out acts
    let t := first.run out alone
    s.mux.entries.get? id = t.mux.entries.get? id ∧
    s.mux.isMissing id = t.mux.isMissing id ∧
    s.outlet.filter (carries id) = t.outlet.filter (carries id) ∧
    s.actions.filter (·.socket ∈ socketsOf alone) = t.actions.filter (·.socket ∈ socketsOf alone) ∧
    (∀ e, s.mux.entries.get? id = some e → e.socket ∈ socketsOf alone) ∧
    (∀ (s : Station (List Bytes)) raw dialed e, Packet.decode raw = .error e →
      (MuxAct.packet raw dialed).id? s.mux = none ∧ s.step out (.packet raw dialed) = s) := by
  intro out first alone s t
  have allotted : Allotted out (socketsOf alone) id first acts :=
    allotted_of_nodup new fun _ _ => Iff.rfl
  have apart : Apart (socketsOf alone) id first := by
    intro j _ e there
    cases there
  have same : s.share id (socketsOf alone) = t.share id (socketsOf alone) :=
    share_run apart allotted rfl
  refine ⟨congrArg Share.entry same, congrArg Share.isMissing same, congrArg Share.packets same,
    congrArg Share.asked same, ?_, ?_⟩
  · intro e there
    apply socket_mem_own allotted _ there
    intro e there
    cases there
  · intro s raw dialed e unread
    have unchanged : s.packet out raw dialed = s := by rw [packet, unread]
    exact ⟨by rw [MuxAct.id?, unread]; rfl, unchanged⟩

theorem streams_isolated_two_clients :
    let a := StreamId.ofNat 1
    let b := StreamId.ofNat 2
    let acts : List MuxAct := [.attach (.client 1) [a], .attach (.client 2) [a, b],
      .packet (Packet.data b [7]).encode none, .read ⟨b, .client 2⟩ [1, 2],
      .packet (Packet.data a [8]).encode none, .packet [0] none, .remove a, .ended ⟨b, .client 2⟩]
    let first : Station (List Bytes) := { mux := .start {} false, outlet := [] }
    let s := first.run (.choosing fun _ => true) acts
    let t := first.run (.choosing fun _ => true) [.attach (.client 2) [b],
      .packet (Packet.data b [7]).encode none, .read ⟨b, .client 2⟩ [1, 2], .ended ⟨b, .client 2⟩]
    (socketsOf acts).Nodup ∧
    s.outlet.filter (carries b) = t.outlet.filter (carries b) ∧
    s.actions.filter (·.socket ∈ [SocketId.client 2]) = [.write (.client 2) [7], .release (.client 2)] := by
  intro a b acts first s t
  have new : (socketsOf acts).Nodup := by decide
  have alone : first.about (.choosing fun _ => true) b acts = [.attach (.client 2) [b],
      .packet (Packet.data b [7]).encode none, .read ⟨b, .client 2⟩ [1, 2],
      .ended ⟨b, .client 2⟩] := by decide +kernel
  obtain ⟨-, -, sent, asked, -⟩ := streams_isolated {} false (fun _ => true) acts b new
  rw [alone] at sent asked
  refine ⟨new, sent, ?_⟩
  have own : socketsOf [.attach (.client 2) [b], .packet (Packet.data b [7]).encode none,
      .read ⟨b, .client 2⟩ [1, 2], .ended ⟨b, .client 2⟩] = [.client 2] := rfl
  rw [own] at asked
  rw [asked]
  decide +kernel

end Station
end StreamTunnel
