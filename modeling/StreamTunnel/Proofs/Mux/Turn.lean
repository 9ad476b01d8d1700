import Mathlib.Logic.Function.Basic
import StreamTunnel.Mux.Basic
import StreamTunnel.Proofs.Packet

namespace StreamTunnel

def Outlet.queue : Outlet (List Bytes) where
  offer p q := (true, q ++ [p])

abbrev Multiplexer.streams (m : Multiplexer) : StreamId → Option StreamRef :=
  fun id => m.lookup id

theorem Multiplexer.id_of_lookup {m : Multiplexer} {id : StreamId} {r : StreamRef}
    (h : m.lookup id = some r) : r.id = id := by
  simp only [lookup, Option.map_eq_some_iff] at h
  obtain ⟨e, -, rfl⟩ := h
  rfl

theorem Multiplexer.isOpen_iff {m : Multiplexer} {r : StreamRef} :
    m.isOpen r = true ↔ m.lookup r.id = some r := by
  simp [isOpen]

theorem StreamId.not_taken_of_firstFree {taken : StreamId → Bool} {l : List StreamId} {id : StreamId}
    {n : Nat} (h : firstFree taken l = some (id, n)) : taken id = false := by
  induction l generalizing n with
  | nil => simp [firstFree] at h
  | cons c rest ih =>
      simp only [firstFree] at h
      split at h
      · obtain ⟨⟨id', k⟩, found, same⟩ := Option.map_eq_some_iff.mp h
        simp only [Prod.mk.injEq] at same
        obtain ⟨rfl, -⟩ := same
        exact ih found
      · next free =>
        simp only [Option.some.injEq, Prod.mk.injEq] at h
        obtain ⟨rfl, -⟩ := h
        simpa using free

namespace Station

variable {s : Station (List Bytes)} {id : StreamId} {r : StreamRef} {payload raw : Bytes}

structure Turn (s s' : Station (List Bytes)) (streams : StreamId → Option StreamRef)
    (packets : List Packet) (asked : List SocketAction) : Prop where
  lookup_eq : ∀ id, s'.mux.lookup id = streams id
  outlet_eq : s'.outlet = s.outlet ++ packets.map Packet.encode
  actions_eq : s'.actions = s.actions ++ asked
  settings_eq : s'.mux.settings = s.mux.settings
  isHost_eq : s'.mux.isHost = s.mux.isHost

theorem Turn.idle (s : Station (List Bytes)) : Turn s s s.mux.streams [] [] := by
  constructor <;> simp

@[simp] theorem offer_queue (p : Packet) (s : Station (List Bytes)) :
    s.offer .queue p = (true, { s with outlet := s.outlet ++ [p.encode] }) := rfl

theorem lookup_insert (m : Multiplexer) (missing : List StreamId) (e : Entry) (j : StreamId) :
    ({ m with entries := m.entries.insert id e, missing } : Multiplexer).lookup j =
      Function.update m.streams id (some ⟨id, e.socket⟩) j := by
  simp only [Multiplexer.lookup, Table.get?_insert]
  by_cases same : j = id
  · subst same; simp
  · simp [same, Multiplexer.streams, Multiplexer.lookup]

theorem lookup_erase (m : Multiplexer) (missing : List StreamId) (j : StreamId) :
    ({ m with entries := m.entries.erase id, missing } : Multiplexer).lookup j =
      Function.update m.streams id none j := by
  simp only [Multiplexer.lookup, Table.get?_erase]
  by_cases same : j = id
  · subst same; simp
  · simp [same, Multiplexer.streams, Multiplexer.lookup]

theorem get?_entries_of_lookup (h : s.mux.lookup id = some r) :
    ∃ e, s.mux.entries.get? id = some e ∧ e.socket = r.socket := by
  simp only [Multiplexer.lookup, Option.map_eq_some_iff] at h
  obtain ⟨e, found, rfl⟩ := h
  exact ⟨e, found, rfl⟩

theorem get?_entries_of_lookup_none (h : s.mux.lookup id = none) :
    s.mux.entries.get? id = none := by
  simpa [Multiplexer.lookup] using h

theorem attach_turn {socket : SocketId} {drawn : List StreamId}
    (h : (s.attach socket drawn).1 = some r) :
    s.mux.lookup r.id = none ∧ r.socket = socket ∧
      Turn s (s.attach socket drawn).2 (Function.update s.mux.streams r.id (some r)) [] [] := by
  cases drawing : StreamId.firstFree s.mux.entries.contains drawn with
  | none => simp [attach, drawing] at h
  | some found =>
      obtain ⟨id, n⟩ := found
      simp only [attach, drawing, Option.some.injEq] at h ⊢
      subst h
      have free := StreamId.not_taken_of_firstFree drawing
      refine ⟨?_, rfl, ?_, ?_, ?_, rfl, rfl⟩
      · simpa [Multiplexer.lookup, Table.contains] using free
      · exact lookup_insert _ _ _
      · simp [register, Station.update]
      · simp [register, Station.update]

theorem attach_none {socket : SocketId} {drawn : List StreamId}
    (h : (s.attach socket drawn).1 = none) : (s.attach socket drawn).2 = s := by
  cases drawing : StreamId.firstFree s.mux.entries.contains drawn with
  | none => simp [attach, drawing]
  | some found => simp [attach, drawing] at h

def farewell (id : StreamId) (m : Multiplexer) : List Packet :=
  if m.settings.notifyPeer then [Packet.disconnect id] else []

theorem remove_turn_of_some (h : s.mux.lookup id = some r) :
    Turn s (s.remove id).2 (Function.update s.mux.streams id none) [] [.release r.socket] := by
  obtain ⟨e, found, same⟩ := get?_entries_of_lookup h
  simp only [remove, found, ask, Station.update, same]
  constructor
  · exact lookup_erase _ _
  all_goals simp

theorem remove_turn_of_none (h : s.mux.lookup id = none) :
    Turn s (s.remove id).2 s.mux.streams [] [] := by
  simp only [remove, get?_entries_of_lookup_none h, Station.update]
  constructor
  · intro j
    rw [lookup_erase]
    by_cases same : j = id
    · subst same; simp [h]
    · simp [same]
  all_goals simp

theorem closeFromLocal_turn_of_some (h : s.mux.lookup id = some r) :
    Turn s (s.closeFromLocal .queue id) (Function.update s.mux.streams id none) (farewell id s.mux)
      [.release r.socket] := by
  obtain ⟨e, found, same⟩ := get?_entries_of_lookup h
  cases notify : s.mux.settings.notifyPeer
  all_goals
    simp only [closeFromLocal, remove, found, ask, Station.update, same, notify, farewell, if_true,
      sayGone, offer_queue, Bool.false_eq_true, if_false]
    constructor
    · exact lookup_erase _ _
    all_goals simp

theorem closeFromLocal_turn_of_none (h : s.mux.lookup id = none) :
    Turn s (s.closeFromLocal .queue id) s.mux.streams [] [] := by
  have removed := remove_turn_of_none h
  have same : s.closeFromLocal .queue id = (s.remove id).2 := by
    simp [closeFromLocal, remove, get?_entries_of_lookup_none h]
  rwa [same]

theorem offerAll_queue (packets : List Packet) (s : Station (List Bytes)) :
    s.offerAll .queue packets = ((packets.length, true),
      { s with outlet := s.outlet ++ packets.map Packet.encode }) := by
  induction packets generalizing s with
  | nil => simp [offerAll]
  | cons p rest ih => simp [offerAll, ih]

theorem read_turn {piece : Bytes} (h : s.mux.lookup r.id = some r) :
    Turn s (s.read .queue r piece) s.mux.streams
      (Packet.chunked r.id piece s.mux.settings.chunkSize) [] := by
  simp only [read, Multiplexer.isOpen_iff.mpr h, sendFramed, framed, offerAll_queue, if_true]
  constructor <;> simp

theorem packet_turn_of_error {e : PacketError} {dialed : Option SocketId}
    (h : Packet.decode raw = .error e) : s.packet .queue raw dialed = s := by
  simp [packet, h]

theorem packet_turn_written {dialed : Option SocketId}
    (h : Packet.decode raw = .ok ⟨id, .data, payload⟩) (known : s.mux.lookup id = some r) :
    Turn s (s.packet .queue raw dialed) s.mux.streams [] [.write r.socket payload] := by
  obtain ⟨e, found, same⟩ := get?_entries_of_lookup known
  simp only [packet, h, deliver, found, ask, Station.update, same]
  constructor <;> simp [Multiplexer.lookup]

theorem packet_turn_adopted (socket : SocketId)
    (h : Packet.decode raw = .ok ⟨id, .data, payload⟩) (unknown : s.mux.lookup id = none)
    (able : s.mux.canDial = true) :
    Turn s (s.packet .queue raw (some socket)) (Function.update s.mux.streams id (some ⟨id, socket⟩)) []
      [.write socket payload] := by
  simp only [packet, h, deliver, get?_entries_of_lookup_none unknown, able, if_true, register, ask,
    Station.update]
  constructor
  · exact lookup_insert _ _ _
  all_goals simp

theorem packet_turn_refused {dialed : Option SocketId}
    (h : Packet.decode raw = .ok ⟨id, .data, payload⟩) (unknown : s.mux.lookup id = none)
    (unable : s.mux.canDial = false ∨ dialed = none) :
    Turn s (s.packet .queue raw dialed) s.mux.streams [Packet.disconnect id] [] := by
  simp only [packet, h, deliver, get?_entries_of_lookup_none unknown]
  cases able : s.mux.canDial with
  | false =>
      simp only [Bool.false_eq_true, if_false, miss, sayGone, offer_queue, Station.update]
      constructor <;> simp [Multiplexer.lookup]
  | true =>
      obtain rfl : dialed = none := by simpa [able] using unable
      simp only [if_true, sayGone, offer_queue]
      constructor <;> simp

theorem packet_turn_told {dialed : Option SocketId} {rest : Bytes}
    (h : Packet.decode raw = .ok ⟨id, .disconnect, rest⟩) (known : s.mux.lookup id = some r) :
    Turn s (s.packet .queue raw dialed) (Function.update s.mux.streams id none) []
      [.release r.socket] := by
  have removed := remove_turn_of_some known
  simpa only [packet, h] using removed

theorem packet_turn_told_of_none {dialed : Option SocketId} {rest : Bytes}
    (h : Packet.decode raw = .ok ⟨id, .disconnect, rest⟩) (unknown : s.mux.lookup id = none) :
    Turn s (s.packet .queue raw dialed) s.mux.streams [] [] := by
  have removed := remove_turn_of_none unknown
  simpa only [packet, h] using removed

end Station
end StreamTunnel
