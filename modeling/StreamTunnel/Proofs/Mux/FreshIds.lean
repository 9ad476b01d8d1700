import StreamTunnel.Proofs.Mux.Drawing
import StreamTunnel.Proofs.Mux.Handles
import StreamTunnel.Proofs.Mux.Leaving

namespace StreamTunnel

namespace StreamId

variable {σ : Type} {taken : StreamId → Bool} {l : List StreamId}

/-- The search for a free id, by a question with a state of its own. -/
def searchFree (ask : StreamId → σ → Bool × σ) : List StreamId → σ → Option (StreamId × Nat) × σ
  | [], s => (none, s)
  | c :: rest, s =>
      match ask c s with
      | (true, s) =>
          let (found, s) := searchFree ask rest s
          (found.map (fun r => (r.1, r.2 + 1)), s)
      | (false, s) => (some (c, 1), s)

def noting (taken : StreamId → Bool) (c : StreamId) (asked : List StreamId) : Bool × List StreamId :=
  (taken c, asked ++ [c])

theorem fst_searchFree (taken : StreamId → Bool) (l asked : List StreamId) :
    (searchFree (noting taken) l asked).1 = firstFree taken l := by
  induction l generalizing asked with
  | nil => rfl
  | cons c rest ih =>
      rw [searchFree, firstFree, noting]
      cases taken c with
      | true => exact congrArg (Option.map _) (ih _)
      | false => rfl

theorem searchFree_noting (free : ∃ c ∈ l, taken c = false) (asked : List StreamId) :
    ∃ before id after, l = before ++ id :: after ∧ (∀ c ∈ before, taken c = true) ∧ taken id = false ∧
      searchFree (noting taken) l asked = (some (id, before.length + 1), asked ++ before ++ [id]) := by
  induction l generalizing asked with
  | nil => simp at free
  | cons c rest ih =>
      cases first : taken c with
      | false =>
          refine ⟨[], c, rest, rfl, List.forall_mem_nil _, first, ?_⟩
          simp [searchFree, noting, first]
      | true =>
          have later : ∃ c ∈ rest, taken c = false := by simpa [first] using free
          obtain ⟨before, id, after, rfl, all, unused, found⟩ := ih later (asked ++ [c])
          refine ⟨c :: before, id, after, rfl, List.forall_mem_cons.mpr ⟨first, all⟩, unused, ?_⟩
          simp [searchFree, noting, first, found]

theorem readable (id : StreamId) :
    ∀ b ∈ id.bytes, (0x30 ≤ b ∧ b ≤ 0x39) ∨ (0x41 ≤ b ∧ b ≤ 0x5A) ∨ (0x61 ≤ b ∧ b ≤ 0x7A) := by
  intro b mem
  simpa [isAlphanumeric, or_assoc] using List.all_eq_true.mp id.alphanumeric b mem

end StreamId

namespace Station

variable {σ : Type}

theorem contains_eq_false_iff {m : Multiplexer} {id : StreamId} :
    m.entries.contains id = false ↔ m.lookup id = none := by
  simp [Table.contains, Multiplexer.lookup]

theorem contains_iff {m : Multiplexer} {id : StreamId} :
    m.entries.contains id = true ↔ m.lookup id ≠ none := by
  rw [Ne, ← contains_eq_false_iff, Bool.not_eq_false]

/-- In any state, and with any ids drawn of which one has no stream: the first such id is the client's, after each
one before it was asked about once, in order. Its stream is there then, and nothing is different beside: the other
streams, their sockets and what was asked of these stay. A stream that is there stays under its id
until there is none under it, whatever comes. -/
theorem attach_under_fresh_id (s : Station σ) (socket : SocketId) (drawn : List StreamId)
    (free : ∃ c ∈ drawn, s.mux.lookup c = none) :
    ∃ before id after,
      drawn = before ++ id :: after ∧ (∀ c ∈ before, s.mux.lookup c ≠ none) ∧ s.mux.lookup id = none ∧
      StreamId.searchFree (StreamId.noting s.mux.entries.contains) drawn [] =
        (some (id, before.length + 1), before ++ [id]) ∧
      id.bytes.length = 6 ∧
      (∀ b ∈ id.bytes, (0x30 ≤ b ∧ b ≤ 0x39) ∨ (0x41 ≤ b ∧ b ≤ 0x5A) ∨ (0x61 ≤ b ∧ b ≤ 0x7A)) ∧
      let t := (s.attach socket drawn).2
      (s.attach socket drawn).1 = some ⟨id, socket⟩ ∧
      (∀ other, t.mux.entries.get? other =
        if other = id then some ⟨.accepted, socket⟩ else s.mux.entries.get? other) ∧
      t.mux.count = s.mux.count + 1 ∧
      (∀ other, t.mux.isMissing other = (s.mux.isMissing other && other ≠ id)) ∧
      t.actions = s.actions ∧ t.outlet = s.outlet ∧ (∀ r, t.Cancelled r ↔ s.Cancelled r) ∧
      ∀ r, s.mux.isOpen r = true →
        t.mux.isOpen r = true ∧
        ∀ (out : Outlet σ) later, (t.life out later).mux.isOpen r = true ∨
          ∃ mid, mid <+: later ∧ (t.life out mid).mux.lookup r.id = none := by
  simp only [← contains_eq_false_iff] at free
  obtain ⟨before, id, after, split, taken, unused, searched⟩ := StreamId.searchFree_noting free []
  have found := StreamId.fst_searchFree s.mux.entries.contains drawn []
  rw [searched] at found
  have vacant := contains_eq_false_iff.mp unused
  have attached : s.attach socket drawn = (some ⟨id, socket⟩, s.register id ⟨.accepted, socket⟩) := by
    rw [attach, ← found]
  refine ⟨before, id, after, split, fun c mem => contains_iff.mp (taken c mem), vacant, searched,
    id.length_eq, id.readable, ?_⟩
  rw [attached]
  have empty : s.mux.entries.get? id = none := Option.map_eq_none_iff.mp vacant
  have there (r : StreamRef) (isOpen : s.mux.isOpen r = true) :
      (s.register id ⟨.accepted, socket⟩).mux.isOpen r = true := isOpen_register empty _ isOpen
  refine ⟨rfl, fun other => Table.get?_insert .., Table.size_insert empty _, ?_, rfl, rfl, fun r => Iff.rfl,
    fun r isOpen => ⟨there r isOpen, fun out later => ?_⟩⟩
  · intro other
    simp [Multiplexer.isMissing, register, update]
  · have has := isOpen_iff_has.mp (there r isOpen)
    exact (has_life has later).imp_left isOpen_iff_has.mpr

theorem attach_beside_adopted :
    let id := StreamId.ofNat 5
    let drawn := [id, id, StreamId.ofNat 6, StreamId.ofNat 7]
    let s : Station Outbox :=
      life .outbox { mux := .start { targetPort := some 80 } true, outlet := {} }
        [.act (.packet (Packet.data id [7]).encode (some (.service 1)))]
    (∃ c ∈ drawn, s.mux.lookup c = none) ∧
      ∃ before fresh after, drawn = before ++ fresh :: after ∧
        (∀ c ∈ before, s.mux.lookup c ≠ none) ∧ s.mux.lookup fresh = none ∧
        (s.attach (.client 1) drawn).1 = some ⟨fresh, .client 1⟩ ∧
        (s.attach (.client 1) drawn).2.mux.isOpen ⟨id, .service 1⟩ = true := by
  intro id drawn s
  have free : ∃ c ∈ drawn, s.mux.lookup c = none := by decide +kernel
  have there : s.mux.isOpen ⟨id, .service 1⟩ = true := by decide +kernel
  obtain ⟨before, fresh, after, split, taken, vacant, -, -, -, given, -, -, -, -, -, -, stays⟩ :=
    attach_under_fresh_id s (.client 1) drawn free
  exact ⟨free, before, fresh, after, split, taken, vacant, given, (stays _ there).1⟩

end Station
end StreamTunnel
