import StreamTunnel.Proofs.Mux.Isolation
import StreamTunnel.Proofs.Packet

namespace StreamTunnel

namespace Packet

variable {size : Nat} {b : Bytes} {id : StreamId}

theorem cut_fuel {n k m : Nat} (enough : b.length ≤ k) (enough' : b.length ≤ m) :
    cut n k b = cut n m b := by
  induction k generalizing b m with
  | zero =>
      obtain rfl : b = [] := List.length_eq_zero_iff.mp (by omega)
      cases m <;> rfl
  | succ k ih =>
      cases b with
      | nil => cases m <;> rfl
      | cons x rest =>
          cases m with
          | zero => cases enough'
          | succ m =>
              have shorter : (rest.drop n).length ≤ rest.length := by simp
              rw [List.length_cons] at enough enough'
              rw [cut_cons, cut_cons, ih (m := m) (by omega) (by omega)]

theorem pieces_eq (positive : 0 < size) (b : Bytes) :
    pieces size b =
      b.take size :: if (b.drop size).isEmpty then [] else pieces size (b.drop size) := by
  obtain ⟨n, rfl⟩ : ∃ n, size = n + 1 := ⟨size - 1, by omega⟩
  cases b with
  | nil => rfl
  | cons x rest =>
      have first : pieces (n + 1) (x :: rest) =
          (x :: rest).take (n + 1) :: cut n rest.length (rest.drop n) := rfl
      rw [first, List.drop_succ_cons]
      split
      · next over' =>
        rw [List.isEmpty_iff.mp over']
        cases rest.length <;> rfl
      · next more =>
        rw [pieces, if_neg more, Nat.add_sub_cancel]
        exact congrArg _ (cut_fuel (by simp) (Nat.le_refl _))

theorem pieces_of_short (positive : 0 < size) (short : b.length ≤ size) : pieces size b = [b] := by
  rw [pieces_eq positive, List.drop_eq_nil_of_le short, List.take_of_length_le short]
  rfl

theorem pieces_of_long (positive : 0 < size) (long : size < b.length) :
    pieces size b = b.take size :: pieces size (b.drop size) := by
  have more : ¬ (b.drop size).isEmpty = true := by
    rw [List.isEmpty_iff, List.drop_eq_nil_iff]
    omega
  rw [pieces_eq positive, if_neg more]

theorem pieces_induction (positive : 0 < size) {P : Bytes → Prop}
    (short : ∀ b : Bytes, b.length ≤ size → P b)
    (long : ∀ b : Bytes, size < b.length → P (b.drop size) → P b) (b : Bytes) : P b := by
  induction more : b.length using Nat.strong_induction_on generalizing b with
  | _ n ih =>
      by_cases one : b.length ≤ size
      · exact short b one
      · have shorter : (b.drop size).length < n := by
          rw [List.length_drop]
          omega
        exact long b (by omega) (ih _ shorter _ rfl)

theorem length_pieces (positive : 0 < size) (b : Bytes) :
    (pieces size b).length = max 1 ((b.length + size - 1) / size) := by
  induction b using pieces_induction positive with
  | short b short =>
      have one : (b.length + size - 1) / size < 2 := by
        rw [Nat.div_lt_iff_lt_mul positive]
        omega
      rw [pieces_of_short positive short, List.length_singleton]
      omega
  | long b long ih =>
      have next : (b.length + size - 1) / size = (b.length - 1) / size + 1 := by
        rw [← Nat.add_div_right _ positive]
        congr 1
        omega
      have rest : b.length - size + size - 1 = b.length - 1 := by omega
      have some : 0 < (b.length - 1) / size := Nat.div_pos (by omega) positive
      rw [pieces_of_long positive long, List.length_cons, ih, List.length_drop, rest, next]
      omega

theorem pieces_ne_nil (positive : 0 < size) (b : Bytes) : pieces size b ≠ [] := by
  rw [pieces_eq positive]
  exact List.cons_ne_nil _ _

theorem length_of_mem_dropLast {piece : Bytes} (positive : 0 < size)
    (mem : piece ∈ (pieces size b).dropLast) : piece.length = size := by
  induction b using pieces_induction positive with
  | short b short => simp [pieces_of_short positive short] at mem
  | long b long ih =>
      rw [pieces_of_long positive long, List.dropLast_cons_of_ne_nil (pieces_ne_nil positive _)] at mem
      rcases List.mem_cons.mp mem with rfl | later
      · rw [List.length_take]
        omega
      · exact ih later

theorem chunked_max (id : StreamId) (b : Bytes) (size : Nat) :
    chunked id b (max size 1) = chunked id b size := by
  have same : max size 1 - 1 = size - 1 := by omega
  rw [chunked, chunked, pieces, pieces, same]

theorem length_pieces_le (positive : 0 < size) (b : Bytes) : (pieces size b).length ≤ b.length + 1 := by
  induction b using pieces_induction positive with
  | short b short => simp [pieces_of_short positive short]
  | long b long ih =>
      rw [List.length_drop] at ih
      rw [pieces_of_long positive long, List.length_cons]
      omega

namespace Chunks

def answers : Nat → Chunks → List (Option Packet)
  | 0, _ => []
  | k + 1, c => c.next.1 :: answers k c.next.2

/-- The next calls give these packets, and leave the iterator so. -/
inductive Gives : Chunks → List Packet → Chunks → Prop
  | nothing (c : Chunks) : Gives c [] c
  | first {c c' c'' : Chunks} {p : Packet} {rest : List Packet} (next : c.next = (some p, c'))
      (later : Gives c' rest c'') : Gives c (p :: rest) c''

variable {c c' : Chunks} {packets : List Packet}

theorem next_of_done (over' : c.done = true) : c.next = (none, c) := by
  rw [next, if_pos over']

theorem answers_of_done (over' : c.done = true) (k : Nat) : c.answers k = List.replicate k none := by
  induction k with
  | zero => rfl
  | succ k ih => rw [answers, next_of_done over', ih, List.replicate_succ]

theorem Gives.answers_eq (h : Gives c packets c') (k : Nat) :
    c.answers (packets.length + k) = packets.map some ++ c'.answers k := by
  induction h with
  | nothing c => rw [List.length_nil, Nat.zero_add, List.map_nil, List.nil_append]
  | first next later ih =>
      rw [List.length_cons, Nat.succ_add, answers, next, ih, List.map_cons, List.cons_append]

theorem Gives.drainWith_eq (h : Gives c packets c') (over' : c'.done = true) {fuel : Nat}
    (enough : packets.length ≤ fuel) : c.drainWith fuel = (packets, c') := by
  induction h generalizing fuel with
  | nothing c =>
      cases fuel with
      | zero => rfl
      | succ fuel => rw [drainWith, next_of_done over']
  | first next later ih =>
      cases fuel with
      | zero => cases enough
      | succ fuel =>
          have rest := ih over' (Nat.le_of_succ_le_succ enough)
          simp only [drainWith, next, rest]

theorem gives_pieces (positive : 0 < size) (id : StreamId) (b : Bytes) :
    Gives ⟨id, b, size, false⟩ ((pieces size b).map (data id)) ⟨id, [], size, true⟩ := by
  induction b using pieces_induction positive with
  | short b short =>
      rw [pieces_of_short positive short]
      refine .first ?_ (.nothing _)
      simp [next, List.drop_eq_nil_of_le short, List.take_of_length_le short]
  | long b long ih =>
      have more : (b.drop size).isEmpty = false := by
        rw [← Bool.not_eq_true, List.isEmpty_iff, List.drop_eq_nil_iff]
        omega
      rw [pieces_of_long positive long]
      exact .first (by simp [next, more]) ih

theorem gives_chunks (id : StreamId) (b : Bytes) (size : Nat) :
    Gives (chunks id b size) (chunked id b size) ⟨id, [], max size 1, true⟩ := by
  rw [← chunked_max]
  exact gives_pieces (by omega) id b

theorem drain_chunks (id : StreamId) (b : Bytes) (size : Nat) :
    (chunks id b size).drain = (chunked id b size, ⟨id, [], max size 1, true⟩) := by
  apply (gives_chunks id b size).drainWith_eq rfl
  rw [← chunked_max, chunked, List.length_map]
  exact length_pieces_le (by omega) b

end Chunks
end Packet

/-- The outlet takes these packets, one after the other, and is in the second state then. -/
inductive Outlet.Takes {σ : Type} (out : Outlet σ) : σ → List Packet → σ → Prop
  | nothing (o : σ) : Takes out o [] o
  | first {o o' o'' : σ} {p : Packet} {rest : List Packet} (taken : out.offer p.encode o = (true, o'))
      (later : Takes out o' rest o'') : Takes out o (p :: rest) o''

namespace Station

variable {σ : Type} {out : Outlet σ} {s : Station σ} {packets : List Packet} {o o' : σ}

theorem takes_or_refuses (out : Outlet σ) (packets : List Packet) (o : σ) :
    (∃ o', out.Takes o packets o') ∨ ∃ before p after o' o'', packets = before ++ p :: after ∧
      out.Takes o before o' ∧ out.offer p.encode o' = (false, o'') := by
  induction packets generalizing o with
  | nil => exact .inl ⟨o, .nothing o⟩
  | cons p rest ih =>
      obtain ⟨⟨taken, o'⟩, offered⟩ : ∃ r, out.offer p.encode o = r := ⟨_, rfl⟩
      cases taken with
      | false => exact .inr ⟨[], p, rest, o, o', rfl, .nothing o, offered⟩
      | true =>
          rcases ih o' with ⟨last, takes⟩ | ⟨before, q, after, o₁, o₂, rfl, takes, refused⟩
          · exact .inl ⟨last, .first offered takes⟩
          · exact .inr ⟨p :: before, q, after, o₁, o₂, rfl, .first offered takes, refused⟩

theorem offerAll_of_takes (takes : out.Takes o packets o') (mux : Multiplexer)
    (actions : List SocketAction) :
    offerAll out packets ⟨mux, o, actions⟩ = ((packets.length, true), ⟨mux, o', actions⟩) := by
  induction takes with
  | nothing o => rfl
  | first taken later ih => simp only [offerAll, offer, taken, ih, List.length_cons]

theorem offerAll_of_refused {before : List Packet} {p : Packet} {o'' : σ}
    (takes : out.Takes o before o') (refused : out.offer p.encode o' = (false, o''))
    (mux : Multiplexer) (actions : List SocketAction) (after : List Packet) :
    offerAll out (before ++ p :: after) ⟨mux, o, actions⟩ =
      ((before.length, false), ⟨mux, o'', actions⟩) := by
  induction takes with
  | nothing o => simp only [List.nil_append, offerAll, offer, refused, List.length_nil]
  | first taken later ih =>
      simp only [List.cons_append, offerAll, offer, taken, ih refused, List.length_cons]

theorem sendFramed_data {id : StreamId} {payload : Bytes} {n : Nat} {all : Bool} {s' : Station σ}
    (sent : s.offerAll out (Packet.chunked id payload s.mux.settings.chunkSize) = ((n, all), s')) :
    s.sendFramed out id payload .data = (if all then some n else none, s') := by
  simp only [sendFramed, framed, sent]

/-- A payload goes out in packets of its stream that are full but for the last one, at least one packet
and no empty one unless it is the only one. The iterator gives the same packets and then no more. Sending
hands them to the outlet in order, up to the first one that is refused. -/
theorem sent_in_chunks (id : StreamId) (payload : Bytes) (size : Nat) :
    let c := max size 1
    let packets := Packet.chunked id payload size
    packets.length = max 1 ((payload.length + c - 1) / c) ∧
    (∀ p ∈ packets, p.kind = .data ∧ p.stream = id) ∧
    (∀ p ∈ packets.dropLast, p.payload.length = c) ∧
    (∀ p ∈ packets.getLast?, p.payload.length ≤ c ∧ (p.payload.length = 0 → payload = [])) ∧
    packets.flatMap (·.payload) = payload ∧
    (∀ k, (Packet.chunks id payload size).answers (packets.length + k) =
      packets.map some ++ List.replicate k none) ∧
    (Packet.chunks id payload size).drain.1 = packets ∧
    ∀ {σ : Type} (out : Outlet σ) (s : Station σ), s.mux.settings.chunkSize = size →
      (∀ o, out.Takes s.outlet packets o →
        s.sendFramed out id payload .data = (some packets.length, { s with outlet := o })) ∧
      (∀ before p after o o', packets = before ++ p :: after → out.Takes s.outlet before o →
        out.offer p.encode o = (false, o') →
          s.sendFramed out id payload .data = (none, { s with outlet := o' })) ∧
      ((∃ o, out.Takes s.outlet packets o) ∨ ∃ before p after o o', packets = before ++ p :: after ∧
        out.Takes s.outlet before o ∧ out.offer p.encode o = (false, o')) := by
  intro c packets
  have positive : 0 < c := by omega
  have all : packets = (Packet.pieces c payload).map (Packet.data id) := (Packet.chunked_max id payload size).symm
  refine ⟨?_, ?_, ?_, ?_, ?_, ?_, ?_, ?_⟩
  · rw [all, List.length_map, Packet.length_pieces positive]
  · intro p mem
    obtain ⟨piece, -, rfl⟩ := List.mem_map.mp mem
    exact ⟨rfl, rfl⟩
  · intro p mem
    rw [all, ← List.map_dropLast] at mem
    obtain ⟨piece, mem', rfl⟩ := List.mem_map.mp mem
    have full : piece.length = c := Packet.length_of_mem_dropLast positive mem'
    exact full
  · intro p last
    have mem : p ∈ packets := List.mem_of_mem_getLast? last
    rw [all] at mem
    obtain ⟨piece, mem', rfl⟩ := List.mem_map.mp mem
    have short : piece.length ≤ c := Packet.length_of_mem_pieces positive mem'
    refine ⟨short, fun empty => ?_⟩
    have nothing : piece = [] := List.length_eq_zero_iff.mp empty
    apply by_contra
    intro something
    exact Packet.ne_nil_of_mem_pieces something mem' nothing
  · rw [all, List.flatMap_map]
    exact List.flatMap_id'.trans (Packet.flatten_pieces c payload)
  · intro k
    rw [(Packet.Chunks.gives_chunks id payload size).answers_eq, Packet.Chunks.answers_of_done rfl]
  · rw [Packet.Chunks.drain_chunks]
  · rintro σ out ⟨mux, o, actions⟩ rfl
    refine ⟨?_, ?_, takes_or_refuses out packets o⟩
    · intro o' takes
      exact sendFramed_data (offerAll_of_takes takes mux actions)
    · intro before p after o₁ o₂ cut takes refused
      have stops := offerAll_of_refused takes refused mux actions
      exact sendFramed_data (cut ▸ stops after)

theorem sent_in_chunks_seven_bytes :
    let id := StreamId.ofNat 5
    let packets := [Packet.data id [1, 2, 3], Packet.data id [4, 5, 6], Packet.data id [7]]
    let s : Station (List Bytes) := { mux := .start { chunkSize := 3 } false, outlet := [] }
    (Packet.chunks id [1, 2, 3, 4, 5, 6, 7] 3).answers 5 = packets.map some ++ [none, none] ∧
    s.sendFramed .queue id [1, 2, 3, 4, 5, 6, 7] .data =
      (some 3, { s with outlet := packets.map Packet.encode }) ∧
    s.sendFramed (.choosing (·.length ≠ 12)) id [1, 2, 3, 4, 5, 6, 7] .data =
      (none, { s with outlet := (packets.take 2).map Packet.encode }) := by
  intro id packets s
  obtain ⟨-, -, -, -, -, given, -, sent⟩ := sent_in_chunks id [1, 2, 3, 4, 5, 6, 7] 3
  obtain ⟨taken, -⟩ := sent .queue s rfl
  obtain ⟨-, refused, -⟩ := sent (.choosing (·.length ≠ 12)) s rfl
  refine ⟨given 2, ?_, ?_⟩
  · exact taken _ (.first rfl (.first rfl (.first rfl (.nothing _))))
  · exact refused (packets.take 2) (Packet.data id [7]) [] _ _ rfl
      (.first rfl (.first rfl (.nothing _))) rfl

end Station
end StreamTunnel
