import Mathlib.Data.Nat.Digits.Defs
import StreamTunnel.Packet
import StreamTunnel.Proofs.StreamId

namespace StreamTunnel.Packet

variable {b : Bytes}

/-- A packet as it is sent: only data carry a payload. -/
def Canonical (p : Packet) : Prop :=
  p.kind = .disconnect → p.payload = []

theorem canonical_data (id : StreamId) (payload : Bytes) : (data id payload).Canonical := by
  simp [Canonical, data]

theorem canonical_disconnect (id : StreamId) : (disconnect id).Canonical := by
  simp [Canonical, disconnect]

theorem ofNat?_toNat (k : PacketKind) : PacketKind.ofNat? k.toNat = some k := by
  cases k <;> rfl

theorem length_header (p : Packet) : p.header.length = headerLength := by
  simp [header, headerLength, p.stream.length_eq]

theorem take_header (p : Packet) : p.header.take 6 = p.stream.bytes := by
  rw [header, List.take_left' p.stream.length_eq]

theorem ofLittle_drop_header (p : Packet) : Bytes.ofLittle (p.header.drop 7) = p.kind.toNat := by
  have front : p.header = (p.stream.bytes ++ [0]) ++ Bytes.little 4 p.kind.toNat := by
    simp [header]
  rw [front, List.drop_left' (by simp [p.stream.length_eq]), Bytes.ofLittle_little]
  cases p.kind <;> rfl

theorem decode_encode {p : Packet} (h : p.Canonical) : decode p.encode = .ok p := by
  have cut (body : Bytes) : Bytes.split? headerLength (p.header ++ body) = some (p.header, body) := by
    rw [← length_header p]
    exact Bytes.split?_append _ _
  obtain ⟨id, kind, payload⟩ := p
  cases kind with
  | data =>
      simp only [encode, decode, cut, take_header, StreamId.ofBytes_bytes, ofLittle_drop_header, ofNat?_toNat]
      rfl
  | disconnect =>
      obtain rfl : payload = [] := h rfl
      simp only [encode, decode, cut, take_header, StreamId.ofBytes_bytes, ofLittle_drop_header, ofNat?_toNat]
      rfl

@[simp] theorem decode_encode_data (id : StreamId) (payload : Bytes) :
    decode (data id payload).encode = .ok (data id payload) :=
  decode_encode (canonical_data id payload)

@[simp] theorem decode_encode_disconnect (id : StreamId) :
    decode (disconnect id).encode = .ok (disconnect id) :=
  decode_encode (canonical_disconnect id)

def kindNumber (b : Bytes) : Nat :=
  Nat.ofDigits 256 (((b.drop 7).take 4).map UInt8.toNat)

def IsNamed (b : Bytes) : Prop :=
  ∀ c ∈ b.take 6, isAlphanumeric c = true

/-- Some packet is written like this, up to the terminator and what may follow a disconnect. -/
structure Legible (b : Bytes) : Prop where
  long : 11 ≤ b.length
  named : IsNamed b
  kind : kindNumber b = 0 ∨ kindNumber b = 1

/-- The first thing that is wrong with a byte string. -/
inductive FirstFault : Bytes → PacketError → Prop
  | tooShort {b : Bytes} (short : b.length < 11) : FirstFault b (.tooShort b.length)
  | invalidId {b : Bytes} (long : 11 ≤ b.length) (unnamed : ¬ IsNamed b) :
      FirstFault b (.invalidId ⟨Utf8.lossy (b.take 6)⟩)
  | unknownKind {b : Bytes} (long : 11 ≤ b.length) (named : IsNamed b) (unknown : 1 < kindNumber b) :
      FirstFault b (.unknownKind (kindNumber b))

/-- The wire form that says the same: the terminator is zero, and a disconnect has no more. -/
def rewritten (kind : PacketKind) (b : Bytes) : Bytes :=
  match kind with
  | .data => b.set 6 0
  | .disconnect => (b.take 11).set 6 0

theorem ofLittle_eq_ofDigits (b : Bytes) : Bytes.ofLittle b = Nat.ofDigits 256 (b.map UInt8.toNat) := by
  induction b with
  | nil => rfl
  | cons x rest ih => rw [Bytes.ofLittle, ih, List.map_cons, Nat.ofDigits_cons]

theorem exists_fields (long : 11 ≤ b.length) :
    ∃ (name : Bytes) (terminator : UInt8) (kind body : Bytes),
      b = name ++ terminator :: (kind ++ body) ∧ name.length = 6 ∧ kind.length = 4 := by
  refine ⟨b.take 6, b[6], (b.drop 7).take 4, (b.drop 7).drop 4, ?_, ?_, ?_⟩
  · rw [List.take_append_drop, List.getElem_cons_drop, List.take_append_drop]
  · rw [List.length_take]
    omega
  · rw [List.length_take, List.length_drop]
    omega

section Fields

variable {name kind body : Bytes} {terminator : UInt8}

theorem decode_fields (six : name.length = 6) (four : kind.length = 4) :
    decode (name ++ terminator :: (kind ++ body)) =
      match StreamId.ofBytes name with
      | .error e => .error (.invalidId e)
      | .ok id =>
          match PacketKind.ofNat? (Bytes.ofLittle kind) with
          | none => .error (.unknownKind (Bytes.ofLittle kind))
          | some .data => .ok (data id body)
          | some .disconnect => .ok (disconnect id) := by
  have whole : name ++ terminator :: (kind ++ body) = (name ++ terminator :: kind) ++ body := by simp
  have eleven : (name ++ terminator :: kind).length = headerLength := by
    simp [six, four, headerLength]
  have cut : Bytes.split? headerLength ((name ++ terminator :: kind) ++ body) =
      some (name ++ terminator :: kind, body) := by
    rw [← eleven]
    exact Bytes.split?_append _ _
  have front : (name ++ terminator :: kind).take 6 = name := List.take_left' six
  have back : (name ++ terminator :: kind).drop 7 = kind := by
    rw [← List.singleton_append, ← List.append_assoc]
    exact List.drop_left' (by simp [six])
  rw [whole, decode, cut]
  dsimp only
  rewrite [front, back]
  rfl

theorem isNamed_fields (six : name.length = 6) :
    IsNamed (name ++ terminator :: (kind ++ body)) ↔ name.all isAlphanumeric = true := by
  rw [IsNamed, List.take_left' six, List.all_eq_true]

theorem kindNumber_fields (six : name.length = 6) (four : kind.length = 4) :
    kindNumber (name ++ terminator :: (kind ++ body)) = Bytes.ofLittle kind := by
  have back : (name ++ terminator :: (kind ++ body)).drop 7 = kind ++ body := by
    rw [← List.singleton_append, ← List.append_assoc]
    exact List.drop_left' (by simp [six])
  rw [kindNumber, back, List.take_left' four, ofLittle_eq_ofDigits]

theorem rewritten_fields (six : name.length = 6) (four : kind.length = 4) (k : PacketKind) :
    rewritten k (name ++ terminator :: (kind ++ body)) =
      name ++ 0 :: (kind ++ match k with
        | .data => body
        | .disconnect => []) := by
  cases k with
  | data => simp [rewritten, six]
  | disconnect =>
      have whole : name ++ terminator :: (kind ++ body) = (name ++ terminator :: kind) ++ body := by simp
      rw [rewritten, whole, List.take_left' (by simp [six, four])]
      simp [six]

end Fields

theorem ofNat?_eq_none_iff {n : Nat} : PacketKind.ofNat? n = none ↔ 1 < n := by
  match n with
  | 0 | 1 | n + 2 => simp [PacketKind.ofNat?]

theorem encode_of_toNat {id : StreamId} {kind body : Bytes} {k : PacketKind} (four : kind.length = 4)
    (known : k.toNat = Bytes.ofLittle kind) :
    encode ⟨id, k, body⟩ = id.bytes ++ 0 :: (kind ++ match k with
      | .data => body
      | .disconnect => []) := by
  have same : Bytes.little 4 k.toNat = kind := by rw [known, ← four, Bytes.little_ofLittle]
  cases k with
  | data | disconnect => rw [encode, header, same, List.append_assoc, List.cons_append]

theorem decode_of_firstFault {e : PacketError} (h : FirstFault b e) : decode b = .error e := by
  cases h with
  | tooShort short =>
      have uncut : Bytes.split? headerLength b = none := by
        simp [Bytes.split?, headerLength, Nat.not_le_of_lt short]
      rw [decode, uncut]
  | invalidId long unnamed =>
      obtain ⟨name, terminator, kind, body, rfl, six, four⟩ := exists_fields long
      rw [isNamed_fields six] at unnamed
      have refused : StreamId.ofBytes name = .error ⟨Utf8.lossy name⟩ := by
        simp [StreamId.ofBytes, StreamId.ofBytes?, unnamed]
      rw [decode_fields six four, refused, List.take_left' six]
  | unknownKind long named unknown =>
      obtain ⟨name, terminator, kind, body, rfl, six, four⟩ := exists_fields long
      rw [isNamed_fields six] at named
      rw [kindNumber_fields six four] at unknown ⊢
      have read : StreamId.ofBytes name = .ok ⟨name, six, named⟩ := StreamId.ofBytes_bytes ⟨name, six, named⟩
      rw [decode_fields six four, read, ofNat?_eq_none_iff.mpr unknown]

theorem decode_of_legible (h : Legible b) :
    ∃ q, decode b = .ok q ∧ q.encode = rewritten q.kind b := by
  obtain ⟨long, named, number⟩ := h
  obtain ⟨name, terminator, kind, body, rfl, six, four⟩ := exists_fields long
  rw [isNamed_fields six] at named
  rw [kindNumber_fields six four] at number
  have read : StreamId.ofBytes name = .ok ⟨name, six, named⟩ := StreamId.ofBytes_bytes ⟨name, six, named⟩
  rcases number with number | number
  · refine ⟨data ⟨name, six, named⟩ body, ?_, ?_⟩
    · rw [decode_fields six four, read, number]
      rfl
    · rw [rewritten_fields six four]
      exact encode_of_toNat four number.symm
  · refine ⟨disconnect ⟨name, six, named⟩, ?_, ?_⟩
    · rw [decode_fields six four, read, number]
      rfl
    · rw [rewritten_fields six four]
      exact encode_of_toNat four number.symm

theorem legible_or_firstFault (b : Bytes) : Legible b ∨ ∃ e, FirstFault b e := by
  by_cases long : 11 ≤ b.length
  case neg => exact .inr ⟨_, .tooShort (Nat.lt_of_not_le long)⟩
  by_cases named : IsNamed b
  case neg => exact .inr ⟨_, .invalidId long named⟩
  by_cases unknown : 1 < kindNumber b
  case pos => exact .inr ⟨_, .unknownKind long named unknown⟩
  exact .inl ⟨long, named, by omega⟩

theorem FirstFault.not_legible {e : PacketError} (h : FirstFault b e) : ¬ Legible b := by
  intro legible
  obtain ⟨q, read, -⟩ := decode_of_legible legible
  rw [decode_of_firstFault h] at read
  cases read

theorem decode_encode_sent (p : Packet) :
    decode p.encode = .ok { p with payload := if p.kind = .disconnect then [] else p.payload } := by
  have sent : p.encode =
      encode { p with payload := if p.kind = .disconnect then [] else p.payload } := by
    obtain ⟨id, kind, payload⟩ := p
    cases kind <;> rfl
  rw [sent]
  exact decode_encode fun gone => if_pos gone

/-- Reading inverts writing, and a byte string is read just when it is legible. Written again it is
the same but for the terminator and the end of a disconnect. Otherwise its first fault is reported. -/
theorem decode_inverts_encode (p : Packet) (b : Bytes) :
    decode p.encode = .ok { p with payload := if p.kind = .disconnect then [] else p.payload } ∧
    ((∃ q, decode b = .ok q) ↔ Legible b) ∧
    (∀ q, decode b = .ok q → q.encode = rewritten q.kind b) ∧
    (∀ e, decode b = .error e ↔ FirstFault b e) := by
  refine ⟨?_, ?_⟩
  · exact decode_encode_sent p
  · rcases legible_or_firstFault b with legible | ⟨e, fault⟩
    · obtain ⟨q, read, wire⟩ := decode_of_legible legible
      refine ⟨⟨fun _ => legible, fun _ => ⟨q, read⟩⟩, ?_, ?_⟩
      · intro q' read'
        rw [read] at read'
        cases read'
        exact wire
      · intro e
        refine ⟨?_, fun fault => absurd legible fault.not_legible⟩
        intro refused
        rw [read] at refused
        cases refused
    · have refused := decode_of_firstFault fault
      refine ⟨⟨?_, fun legible => absurd legible fault.not_legible⟩, ?_, ?_⟩
      · rintro ⟨q, read⟩
        rw [refused] at read
        cases read
      · intro q read
        rw [refused] at read
        cases read
      · intro e'
        refine ⟨?_, decode_of_firstFault⟩
        intro refused'
        rw [refused] at refused'
        cases refused'
        exact fault

theorem decode_inverts_encode_stray_tail :
    let p : Packet := ⟨StreamId.ofNat 5, .disconnect, [1]⟩
    let b := (disconnect (StreamId.ofNat 5)).encode.set 6 7 ++ [9, 9]
    decode p.encode = .ok (disconnect (StreamId.ofNat 5)) ∧
    (∃ q, decode b = .ok q ∧ q.encode = rewritten q.kind b) ∧
    decode (b.take 10) = .error (.tooShort 10) := by
  intro p b
  obtain ⟨sent, legible, wire, -⟩ := decode_inverts_encode p b
  have reads : Legible b := ⟨by decide, List.all_eq_true.mp (by decide), .inr (by decide +kernel)⟩
  obtain ⟨q, read⟩ := legible.mpr reads
  refine ⟨sent, ⟨q, read, wire q read⟩, ?_⟩
  exact ((decode_inverts_encode p (b.take 10)).2.2.2 _).mpr (.tooShort (by decide))

theorem cut_cons (n fuel : Nat) (x : UInt8) (rest : Bytes) :
    cut n (fuel + 1) (x :: rest) = (x :: rest).take (n + 1) :: cut n fuel (rest.drop n) := rfl

theorem flatten_cut (n fuel : Nat) (b : Bytes) (enough : b.length ≤ fuel) :
    (cut n fuel b).flatten = b := by
  induction fuel generalizing b with
  | zero =>
      have empty : b = [] := List.length_eq_zero_iff.mp (by omega)
      simp [cut, empty]
  | succ fuel ih =>
      cases b with
      | nil => rfl
      | cons x rest =>
          simp only [List.length_cons] at enough
          have short : (rest.drop n).length ≤ fuel := by simp; omega
          rw [cut_cons, List.flatten_cons, ih _ short, List.take_succ_cons, List.cons_append,
            List.take_append_drop]

theorem flatten_pieces (size : Nat) (b : Bytes) : (pieces size b).flatten = b := by
  rw [pieces]
  split
  · next empty => simp [List.isEmpty_iff.mp empty]
  · exact flatten_cut _ _ _ (Nat.le_refl _)

theorem ne_nil_of_mem_cut {n fuel : Nat} {b piece : Bytes} (h : piece ∈ cut n fuel b) :
    piece ≠ [] := by
  induction fuel generalizing b with
  | zero => simp [cut] at h
  | succ fuel ih =>
      cases b with
      | nil => simp [cut] at h
      | cons x rest =>
          rw [cut_cons, List.mem_cons] at h
          rcases h with rfl | later
          · simp
          · exact ih later

theorem ne_nil_of_mem_pieces {size : Nat} {b piece : Bytes} (something : b ≠ [])
    (h : piece ∈ pieces size b) : piece ≠ [] := by
  rw [pieces, if_neg (by simpa using something)] at h
  exact ne_nil_of_mem_cut h

theorem length_of_mem_cut {n fuel : Nat} {b piece : Bytes} (h : piece ∈ cut n fuel b) :
    piece.length ≤ n + 1 := by
  induction fuel generalizing b with
  | zero => simp [cut] at h
  | succ fuel ih =>
      cases b with
      | nil => simp [cut] at h
      | cons x rest =>
          rw [cut_cons, List.mem_cons] at h
          rcases h with rfl | later
          · exact List.length_take_le ..
          · exact ih later

theorem length_of_mem_pieces {size : Nat} {b piece : Bytes} (positive : 0 < size) (h : piece ∈ pieces size b) :
    piece.length ≤ size := by
  rw [pieces] at h
  split at h
  · rw [List.mem_singleton] at h
    simp [h]
  · have := length_of_mem_cut h
    omega

end StreamTunnel.Packet
