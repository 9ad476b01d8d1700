import StreamTunnel.Mux.Basic

namespace StreamTunnel

inductive MuxAct where
  | attach (socket : SocketId) (drawn : List StreamId)
  | packet (raw : Bytes) (dialed : Option SocketId)
  | remove (id : StreamId)
  | read (r : StreamRef) (piece : Bytes)
  | ended (r : StreamRef)
  | failed (r : StreamRef)
deriving DecidableEq, Repr

namespace MuxAct

def id? (m : Multiplexer) : MuxAct → Option StreamId
  | attach _ drawn => (StreamId.firstFree m.entries.contains drawn).map Prod.fst
  | packet raw _ => (Packet.decode raw).toOption.map (·.stream)
  | remove id => some id
  | read r _ | ended r | failed r => some r.id

def socket? : MuxAct → Option SocketId
  | attach socket _ => some socket
  | packet _ dialed => dialed
  | _ => none

def drawing (id : StreamId) : MuxAct → MuxAct
  | attach socket _ => attach socket [id]
  | a => a

end MuxAct

namespace Station

variable {σ : Type}

def step (out : Outlet σ) (s : Station σ) : MuxAct → Station σ
  | .attach socket drawn => (s.attach socket drawn).2
  | .packet raw dialed => s.packet out raw dialed
  | .remove id => (s.remove id).2
  | .read r piece => if piece.isEmpty then s.readEnded out r else s.read out r piece
  | .ended r => s.readEnded out r
  | .failed r => s.writeFailed out r

def run (out : Outlet σ) (s : Station σ) (acts : List MuxAct) : Station σ :=
  acts.foldl (step out) s

def about (out : Outlet σ) (id : StreamId) : Station σ → List MuxAct → List MuxAct
  | _, [] => []
  | s, a :: rest =>
      if a.id? s.mux = some id then a.drawing id :: about out id (s.step out a) rest
      else about out id (s.step out a) rest

def socketsOf (acts : List MuxAct) : List SocketId :=
  acts.filterMap MuxAct.socket?

variable {out : Outlet σ} {s : Station σ} {id j : StreamId} {e : Entry}

theorem exists_offerAll_eq (out : Outlet σ) (packets : List Packet) (s : Station σ) :
    ∃ o, (s.offerAll out packets).2 = { s with outlet := o } := by
  induction packets generalizing s with
  | nil => exact ⟨s.outlet, rfl⟩
  | cons p rest ih =>
      have first : (s.offer out p).2 = { s with outlet := (s.offer out p).2.outlet } := rfl
      rw [offerAll]
      split
      · next refused =>
        rw [refused] at first
        exact ⟨_, first⟩
      · next s' taken =>
        have first : s' = { s with outlet := s'.outlet } := by rwa [taken] at first
        obtain ⟨o, later⟩ := ih s'
        refine ⟨o, later.trans ?_⟩
        rw [first]

theorem mux_offerAll (out : Outlet σ) (packets : List Packet) :
    (s.offerAll out packets).2.mux = s.mux := by
  obtain ⟨o, same⟩ := exists_offerAll_eq out packets s
  rw [same]

theorem entries_of_remove (there : (s.remove id).2.mux.entries.get? j = some e) :
    s.mux.entries.get? j = some e := by
  have erased : (s.remove id).2.mux.entries = s.mux.entries.erase id := by
    unfold remove
    cases s.mux.entries.get? id <;> rfl
  rw [erased, Table.get?_erase] at there
  split at there
  · cases there
  · exact there

theorem entries_of_closeFromLocal (there : (s.closeFromLocal out id).mux.entries.get? j = some e) :
    s.mux.entries.get? j = some e := by
  have same : (s.closeFromLocal out id).mux = (s.remove id).2.mux := by
    unfold closeFromLocal
    split
    · next gone => rw [gone]
    · next found =>
      rw [found]
      split <;> rfl
  rw [same] at there
  exact entries_of_remove there

theorem entries_of_readEnded {r : StreamRef}
    (there : (s.readEnded out r).mux.entries.get? j = some e) :
    s.mux.entries.get? j = some e := by
  unfold readEnded at there
  split at there
  · exact entries_of_closeFromLocal there
  · exact there

theorem entries_of_read {r : StreamRef} {piece : Bytes}
    (there : (s.read out r piece).mux.entries.get? j = some e) : s.mux.entries.get? j = some e := by
  have same := mux_offerAll (s := s) out (framed r.id piece .data s.mux)
  unfold read sendFramed at there
  split at there
  · generalize s.offerAll out (framed r.id piece .data s.mux) = sending at same there
    obtain ⟨⟨n, all⟩, s'⟩ := sending
    rw [← same]
    cases all with
    | true => exact there
    | false => exact entries_of_closeFromLocal there
  · exact there

theorem entries_of_register {e' : Entry} (there : (s.register id e').mux.entries.get? j = some e) :
    s.mux.entries.get? j = some e ∨ id = j ∧ e' = e := by
  rw [register, update, Table.get?_insert] at there
  split at there
  · next same => exact .inr ⟨same.symm, Option.some.inj there⟩
  · exact .inl there

theorem entries_of_attach {socket : SocketId} {drawn : List StreamId}
    (there : (s.attach socket drawn).2.mux.entries.get? j = some e) :
    s.mux.entries.get? j = some e ∨
      (MuxAct.attach socket drawn).id? s.mux = some j ∧ socket = e.socket := by
  unfold attach at there
  cases drawing : StreamId.firstFree s.mux.entries.contains drawn with
  | none =>
      rw [drawing] at there
      exact .inl there
  | some found =>
      rw [drawing] at there
      rcases entries_of_register there with before | ⟨rfl, rfl⟩
      · exact .inl before
      · exact .inr ⟨by rw [MuxAct.id?, drawing, Option.map_some], rfl⟩

theorem entries_of_deliver {payload : Bytes} {dialed : Option SocketId}
    (there : (s.deliver out id payload dialed).mux.entries.get? j = some e) :
    s.mux.entries.get? j = some e ∨ id = j ∧ dialed = some e.socket := by
  unfold deliver at there
  split at there
  · exact .inl there
  · split at there
    · cases dialed with
      | none => exact .inl there
      | some socket =>
          rcases entries_of_register there with before | ⟨rfl, rfl⟩
          · exact .inl before
          · exact .inr ⟨rfl, rfl⟩
    · exact .inl there

theorem entries_of_packet {raw : Bytes} {dialed : Option SocketId}
    (there : (s.packet out raw dialed).mux.entries.get? j = some e) :
    s.mux.entries.get? j = some e ∨
      (MuxAct.packet raw dialed).id? s.mux = some j ∧ dialed = some e.socket := by
  unfold packet at there
  split at there
  · exact .inl there
  · next k payload read =>
    rcases entries_of_deliver there with before | ⟨rfl, brought⟩
    · exact .inl before
    · exact .inr ⟨by rw [MuxAct.id?, read]; rfl, brought⟩
  · exact .inl (entries_of_remove there)

theorem entries_step {a : MuxAct} (there : (s.step out a).mux.entries.get? j = some e) :
    s.mux.entries.get? j = some e ∨ a.id? s.mux = some j ∧ a.socket? = some e.socket := by
  cases a with
  | attach socket drawn =>
      rcases entries_of_attach there with before | ⟨mine, brought⟩
      · exact .inl before
      · exact .inr ⟨mine, congrArg some brought⟩
  | packet raw dialed => exact entries_of_packet there
  | remove k => exact .inl (entries_of_remove there)
  | read r piece =>
      rw [step] at there
      split at there
      · exact .inl (entries_of_readEnded there)
      · exact .inl (entries_of_read there)
  | ended r => exact .inl (entries_of_readEnded there)
  | failed r => exact .inl (entries_of_closeFromLocal there)

theorem socket?_drawing (a : MuxAct) : (a.drawing id).socket? = a.socket? := by
  cases a <;> rfl

theorem mem_socketsOf_cons {a : MuxAct} {acts : List MuxAct} {socket : SocketId} :
    socket ∈ socketsOf (a :: acts) ↔ a.socket? = some socket ∨ socket ∈ socketsOf acts := by
  simp [socketsOf]

theorem mem_socketsOf_about_cons {a : MuxAct} {acts : List MuxAct}
    {socket : SocketId} :
    socket ∈ socketsOf (about out id s (a :: acts)) ↔
      (a.id? s.mux = some id ∧ a.socket? = some socket) ∨
        socket ∈ socketsOf (about out id (s.step out a) acts) := by
  rw [about]
  split
  · next mine => rw [mem_socketsOf_cons, socket?_drawing]; simp only [mine, true_and]
  · next other => simp only [other, false_and, false_or]

theorem mem_socketsOf_of_about {acts : List MuxAct} {socket : SocketId}
    (mem : socket ∈ socketsOf (about out id s acts)) : socket ∈ socketsOf acts := by
  induction acts generalizing s with
  | nil => exact mem
  | cons a rest ih =>
      rw [mem_socketsOf_cons]
      rcases mem_socketsOf_about_cons.mp mem with ⟨-, brought⟩ | later
      · exact .inl brought
      · exact .inr (ih later)

end Station
end StreamTunnel
