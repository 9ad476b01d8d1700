import StreamTunnel.Text.Utf8

namespace StreamTunnel.Utf8

variable {found : List Piece} {b : UInt8} {p : Partial} {s : Scan} {read : Bytes}

theorem toNat_ofNat_lt {n : Nat} (h : n < 256) : (UInt8.ofNat n).toNat = n := by
  rw [UInt8.toNat_ofNat']
  exact Nat.mod_eq_of_lt h

theorem step_ascii (h : b.toNat < 0x80) :
    Scan.step ⟨found, none⟩ b = ⟨.char (Char.ofNat b.toNat) :: found, none⟩ := by
  have small : b < 0x80 := UInt8.lt_iff_toNat_lt.mpr (by simpa using h)
  rw [Scan.step, Scan.lead, if_pos small]

theorem step_open (high : 0x80 ≤ b.toNat) (h : Partial.ofLead? b = some p) :
    Scan.step ⟨found, none⟩ b = ⟨found, some p⟩ := by
  have large : ¬ b < 0x80 := by
    rw [UInt8.lt_iff_toNat_lt]
    simpa using high
  rw [Scan.step, Scan.lead, if_neg large, h]

theorem step_more {taken missing code : Nat} {low high : UInt8} (above : low.toNat ≤ b.toNat)
    (below : b.toNat ≤ high.toNat) :
    Scan.step ⟨found, some ⟨taken, missing + 2, low, high, code⟩⟩ b =
      ⟨found, some ⟨taken + 1, missing + 1, 0x80, 0xBF, code * 0x40 + b.toNat % 0x40⟩⟩ := by
  have within : low ≤ b ∧ b ≤ high :=
    ⟨UInt8.le_iff_toNat_le.mpr above, UInt8.le_iff_toNat_le.mpr below⟩
  simp [Scan.step, within]

theorem step_last {taken code : Nat} {low high : UInt8} (above : low.toNat ≤ b.toNat)
    (below : b.toNat ≤ high.toNat) :
    Scan.step ⟨found, some ⟨taken, 1, low, high, code⟩⟩ b =
      ⟨.char (Char.ofNat (code * 0x40 + b.toNat % 0x40)) :: found, none⟩ := by
  have within : low ≤ b ∧ b ≤ high :=
    ⟨UInt8.le_iff_toNat_le.mpr above, UInt8.le_iff_toNat_le.mpr below⟩
  simp [Scan.step, within]

theorem ofLead?_two (low : 0xC2 ≤ b.toNat) (high : b.toNat ≤ 0xDF) :
    Partial.ofLead? b = some ⟨1, 1, 0x80, 0xBF, b.toNat % 0x20⟩ := by
  simp [Partial.ofLead?, low, high]

theorem ofLead?_three (low : 0xE0 ≤ b.toNat) (high : b.toNat ≤ 0xEF) :
    Partial.ofLead? b = some ⟨1, 2, if b.toNat = 0xE0 then 0xA0 else 0x80,
      if b.toNat = 0xED then 0x9F else 0xBF, b.toNat % 0x10⟩ := by
  have notTwo : ¬ b.toNat ≤ 0xDF := by omega
  simp [Partial.ofLead?, low, high, notTwo]

theorem ofLead?_four (low : 0xF0 ≤ b.toNat) (high : b.toNat ≤ 0xF4) :
    Partial.ofLead? b = some ⟨1, 3, if b.toNat = 0xF0 then 0x90 else 0x80,
      if b.toNat = 0xF4 then 0x8F else 0xBF, b.toNat % 0x08⟩ := by
  have notTwo : ¬ b.toNat ≤ 0xDF := by omega
  have notThree : ¬ b.toNat ≤ 0xEF := by omega
  simp [Partial.ofLead?, low, high, notTwo, notThree]

section Sequences

variable {b₀ b₁ b₂ b₃ : UInt8}

def IsTail (b : UInt8) : Prop :=
  0x80 ≤ b.toNat ∧ b.toNat ≤ 0xBF

theorem scan_two (lead : 0xC2 ≤ b₀.toNat ∧ b₀.toNat ≤ 0xDF) (tail : IsTail b₁) :
    [b₀, b₁].foldl Scan.step ⟨found, none⟩ =
      ⟨.char (Char.ofNat (b₀.toNat % 0x20 * 0x40 + b₁.toNat % 0x40)) :: found, none⟩ := by
  rw [List.foldl_cons, step_open (by omega) (ofLead?_two lead.1 lead.2), List.foldl_cons,
    step_last (by exact tail.1) (by exact tail.2), List.foldl_nil]

theorem scan_three (lead : 0xE0 ≤ b₀.toNat ∧ b₀.toNat ≤ 0xEF) (second : IsTail b₁)
    (overlong : b₀.toNat = 0xE0 → 0xA0 ≤ b₁.toNat) (surrogate : b₀.toNat = 0xED → b₁.toNat ≤ 0x9F)
    (third : IsTail b₂) :
    [b₀, b₁, b₂].foldl Scan.step ⟨found, none⟩ =
      ⟨.char (Char.ofNat ((b₀.toNat % 0x10 * 0x40 + b₁.toNat % 0x40) * 0x40 + b₂.toNat % 0x40)) ::
        found, none⟩ := by
  rw [List.foldl_cons, step_open (by omega) (ofLead?_three lead.1 lead.2), List.foldl_cons,
    step_more, List.foldl_cons, step_last (by exact third.1) (by exact third.2), List.foldl_nil]
  · split
    · next first => exact overlong first
    · exact second.1
  · split
    · next first => exact surrogate first
    · exact second.2

theorem scan_four (lead : 0xF0 ≤ b₀.toNat ∧ b₀.toNat ≤ 0xF4) (second : IsTail b₁)
    (overlong : b₀.toNat = 0xF0 → 0x90 ≤ b₁.toNat) (beyond : b₀.toNat = 0xF4 → b₁.toNat ≤ 0x8F)
    (third : IsTail b₂) (fourth : IsTail b₃) :
    [b₀, b₁, b₂, b₃].foldl Scan.step ⟨found, none⟩ =
      ⟨.char (Char.ofNat (((b₀.toNat % 0x08 * 0x40 + b₁.toNat % 0x40) * 0x40 +
        b₂.toNat % 0x40) * 0x40 + b₃.toNat % 0x40)) :: found, none⟩ := by
  rw [List.foldl_cons, step_open (by omega) (ofLead?_four lead.1 lead.2), List.foldl_cons,
    step_more, List.foldl_cons, step_more (by exact third.1) (by exact third.2), List.foldl_cons,
    step_last (by exact fourth.1) (by exact fourth.2), List.foldl_nil]
  · split
    · next first => exact overlong first
    · exact second.1
  · split
    · next first => exact beyond first
    · exact second.2

end Sequences

theorem toNat_valid (c : Char) :
    c.val.toNat < 0xD800 ∨ 0xDFFF < c.val.toNat ∧ c.val.toNat < 0x110000 :=
  c.valid

theorem scan_encodeChar (c : Char) :
    (String.utf8EncodeChar c).foldl Scan.step ⟨found, none⟩ = ⟨.char c :: found, none⟩ := by
  have valid := toNat_valid c
  have back : Char.ofNat c.val.toNat = c := Char.ofNat_toNat c
  rw [String.utf8EncodeChar]
  generalize c.val.toNat = v at valid back
  split
  · next one =>
    have n₀ := toNat_ofNat_lt (n := v) (by omega)
    rw [List.foldl_cons, step_ascii (by omega), List.foldl_nil, n₀, back]
  split
  · next more two =>
    have n₀ := toNat_ofNat_lt (n := v / 64 % 32 + 192) (by omega)
    have n₁ := toNat_ofNat_lt (n := v % 64 + 128) (by omega)
    have code : (v / 64 % 32 + 192) % 0x20 * 0x40 + (v % 64 + 128) % 0x40 = v := by omega
    rw [scan_two (by omega) (by rw [IsTail]; omega), n₀, n₁, code, back]
  split
  · next more three =>
    have n₀ := toNat_ofNat_lt (n := v / 4096 % 16 + 224) (by omega)
    have n₁ := toNat_ofNat_lt (n := v / 64 % 64 + 128) (by omega)
    have n₂ := toNat_ofNat_lt (n := v % 64 + 128) (by omega)
    have code : ((v / 4096 % 16 + 224) % 0x10 * 0x40 + (v / 64 % 64 + 128) % 0x40) * 0x40 +
        (v % 64 + 128) % 0x40 = v := by omega
    rw [scan_three (by omega) (by rw [IsTail]; omega) (by omega) (by omega)
      (by rw [IsTail]; omega), n₀, n₁, n₂, code, back]
  · next more =>
    have n₀ := toNat_ofNat_lt (n := v / 262144 % 8 + 240) (by omega)
    have n₁ := toNat_ofNat_lt (n := v / 4096 % 64 + 128) (by omega)
    have n₂ := toNat_ofNat_lt (n := v / 64 % 64 + 128) (by omega)
    have n₃ := toNat_ofNat_lt (n := v % 64 + 128) (by omega)
    have code : (((v / 262144 % 8 + 240) % 0x08 * 0x40 + (v / 4096 % 64 + 128) % 0x40) * 0x40 +
        (v / 64 % 64 + 128) % 0x40) * 0x40 + (v % 64 + 128) % 0x40 = v := by omega
    rw [scan_four (by omega) (by rw [IsTail]; omega) (by omega) (by omega) (by rw [IsTail]; omega)
      (by rw [IsTail]; omega), n₀, n₁, n₂, n₃, code, back]

theorem encode_eq (s : String) : encode s = s.toList.flatMap String.utf8EncodeChar := by
  rw [encode, String.toUTF8, ← String.utf8Encode_toList, List.utf8Encode, List.data_toByteArray]

theorem scan_flatMap (chars : List Char) :
    (chars.flatMap String.utf8EncodeChar).foldl Scan.step ⟨found, none⟩ =
      ⟨(chars.map Piece.char).reverse ++ found, none⟩ := by
  induction chars generalizing found with
  | nil => rfl
  | cons c rest ih =>
      rw [List.flatMap_cons, List.foldl_append, scan_encodeChar, ih]
      simp

theorem pieces_encode (s : String) : pieces (encode s) = s.toList.map Piece.char := by
  rw [pieces, encode_eq, scan_flatMap]
  simp [Scan.finish]

theorem collect_chars (index : Nat) (done chars : List Char) :
    collect index done (chars.map Piece.char) = .ok (done.reverse ++ chars) := by
  induction chars generalizing index done with
  | nil => simp [collect]
  | cons c rest ih => simp [collect, ih]

theorem decode_encode (s : String) : decode (encode s) = .ok s := by
  rw [decode, pieces_encode, collect_chars]
  simp [Except.map]

theorem encode_inj {s t : String} (same : encode s = encode t) : s = t := by
  have read := decode_encode s
  rw [same, decode_encode] at read
  exact (Except.ok.inj read).symm

theorem lossy_encode (s : String) : lossy (encode s) = s := by
  have whole : Piece.lossy ∘ Piece.char = id := rfl
  rw [lossy, pieces_encode, List.map_map, whole, List.map_id, String.ofList_toList]

theorem val_ofNat {v : Nat} (valid : v.isValidChar) : (Char.ofNat v).val.toNat = v := by
  rw [Char.ofNat, dif_pos valid]
  rfl

theorem ofNat_eq {n : Nat} (h : n = b.toNat) : UInt8.ofNat n = b := by
  rw [h, UInt8.ofNat_toNat]

theorem encodeChar_ascii (h : b.toNat < 0x80) : String.utf8EncodeChar (Char.ofNat b.toNat) = [b] := by
  rw [String.utf8EncodeChar, val_ofNat (.inl (by omega)), if_pos (by omega), UInt8.ofNat_toNat]

section Sequences

variable {b₀ b₁ b₂ b₃ : UInt8}

theorem encodeChar_two (lead : 0xC2 ≤ b₀.toNat ∧ b₀.toNat ≤ 0xDF) (tail : IsTail b₁) :
    String.utf8EncodeChar (Char.ofNat (b₀.toNat % 0x20 * 0x40 + b₁.toNat % 0x40)) = [b₀, b₁] := by
  obtain ⟨low, high⟩ := tail
  rw [String.utf8EncodeChar, val_ofNat (.inl (by omega)), if_neg (by omega), if_pos (by omega),
    ofNat_eq (b := b₀) (by omega), ofNat_eq (b := b₁) (by omega)]

theorem encodeChar_three (lead : 0xE0 ≤ b₀.toNat ∧ b₀.toNat ≤ 0xEF) (second : IsTail b₁)
    (overlong : b₀.toNat = 0xE0 → 0xA0 ≤ b₁.toNat) (surrogate : b₀.toNat = 0xED → b₁.toNat ≤ 0x9F)
    (third : IsTail b₂) :
    String.utf8EncodeChar (Char.ofNat
      ((b₀.toNat % 0x10 * 0x40 + b₁.toNat % 0x40) * 0x40 + b₂.toNat % 0x40)) = [b₀, b₁, b₂] := by
  obtain ⟨low, high⟩ := second
  obtain ⟨low', high'⟩ := third
  have valid : ((b₀.toNat % 0x10 * 0x40 + b₁.toNat % 0x40) * 0x40 + b₂.toNat % 0x40).isValidChar := by
    rw [Nat.isValidChar]
    omega
  rw [String.utf8EncodeChar, val_ofNat valid, if_neg (by omega), if_neg (by omega), if_pos (by omega),
    ofNat_eq (b := b₀) (by omega), ofNat_eq (b := b₁) (by omega), ofNat_eq (b := b₂) (by omega)]

theorem encodeChar_four (lead : 0xF0 ≤ b₀.toNat ∧ b₀.toNat ≤ 0xF4) (second : IsTail b₁)
    (overlong : b₀.toNat = 0xF0 → 0x90 ≤ b₁.toNat) (beyond : b₀.toNat = 0xF4 → b₁.toNat ≤ 0x8F)
    (third : IsTail b₂) (fourth : IsTail b₃) :
    String.utf8EncodeChar (Char.ofNat
      (((b₀.toNat % 0x08 * 0x40 + b₁.toNat % 0x40) * 0x40 + b₂.toNat % 0x40) * 0x40 +
        b₃.toNat % 0x40)) = [b₀, b₁, b₂, b₃] := by
  obtain ⟨low, high⟩ := second
  obtain ⟨low', high'⟩ := third
  obtain ⟨low'', high''⟩ := fourth
  have valid : (((b₀.toNat % 0x08 * 0x40 + b₁.toNat % 0x40) * 0x40 + b₂.toNat % 0x40) * 0x40 +
      b₃.toNat % 0x40).isValidChar := by
    rw [Nat.isValidChar]
    omega
  rw [String.utf8EncodeChar, val_ofNat valid, if_neg (by omega), if_neg (by omega), if_neg (by omega),
    ofNat_eq (b := b₀) (by omega), ofNat_eq (b := b₁) (by omega), ofNat_eq (b := b₂) (by omega),
    ofNat_eq (b := b₃) (by omega)]

end Sequences

theorem ofLead?_cases (h : Partial.ofLead? b = some p) :
    (0xC2 ≤ b.toNat ∧ b.toNat ≤ 0xDF) ∧ p = ⟨1, 1, 0x80, 0xBF, b.toNat % 0x20⟩ ∨
    (0xE0 ≤ b.toNat ∧ b.toNat ≤ 0xEF) ∧ p = ⟨1, 2, if b.toNat = 0xE0 then 0xA0 else 0x80,
      if b.toNat = 0xED then 0x9F else 0xBF, b.toNat % 0x10⟩ ∨
    (0xF0 ≤ b.toNat ∧ b.toNat ≤ 0xF4) ∧ p = ⟨1, 3, if b.toNat = 0xF0 then 0x90 else 0x80,
      if b.toNat = 0xF4 then 0x8F else 0xBF, b.toNat % 0x08⟩ := by
  rw [Partial.ofLead?] at h
  split at h
  · next two => exact .inl ⟨two, (Option.some.inj h).symm⟩
  split at h
  · next three => exact .inr (.inl ⟨three, (Option.some.inj h).symm⟩)
  split at h
  · next four => exact .inr (.inr ⟨four, (Option.some.inj h).symm⟩)
  · cases h

theorem second_of_three {b₀ b₁ : UInt8}
    (above : (if b₀.toNat = 0xE0 then 0xA0 else 0x80) ≤ b₁)
    (below : b₁ ≤ (if b₀.toNat = 0xED then 0x9F else 0xBF)) :
    IsTail b₁ ∧ (b₀.toNat = 0xE0 → 0xA0 ≤ b₁.toNat) ∧ (b₀.toNat = 0xED → b₁.toNat ≤ 0x9F) := by
  split at above <;> split at below <;>
  · simp only [UInt8.le_iff_toNat_le, UInt8.reduceToNat] at above below
    simp only [IsTail]
    omega

theorem second_of_four {b₀ b₁ : UInt8}
    (above : (if b₀.toNat = 0xF0 then 0x90 else 0x80) ≤ b₁)
    (below : b₁ ≤ (if b₀.toNat = 0xF4 then 0x8F else 0xBF)) :
    IsTail b₁ ∧ (b₀.toNat = 0xF0 → 0x90 ≤ b₁.toNat) ∧ (b₀.toNat = 0xF4 → b₁.toNat ≤ 0x8F) := by
  split at above <;> split at below <;>
  · simp only [UInt8.le_iff_toNat_le, UInt8.reduceToNat] at above below
    simp only [IsTail]
    omega

/-- The bytes of a character that is not complete, and what the scan knows of it. -/
inductive Begun : Bytes → Partial → Prop
  | one {b₀ : UInt8} {p : Partial} (starts : Partial.ofLead? b₀ = some p) : Begun [b₀] p
  | two {b₀ b₁ : UInt8} {p : Partial} (starts : Partial.ofLead? b₀ = some p)
      (second : p.low ≤ b₁ ∧ b₁ ≤ p.high) (more : p.missing ≠ 1) :
      Begun [b₀, b₁] ⟨2, p.missing - 1, 0x80, 0xBF, p.code * 0x40 + b₁.toNat % 0x40⟩
  | three {b₀ b₁ b₂ : UInt8} {p : Partial} (starts : Partial.ofLead? b₀ = some p)
      (second : p.low ≤ b₁ ∧ b₁ ≤ p.high) (third : 0x80 ≤ b₂ ∧ b₂ ≤ 0xBF) (more : p.missing = 3) :
      Begun [b₀, b₁, b₂] ⟨3, 1, 0x80, 0xBF,
        (p.code * 0x40 + b₁.toNat % 0x40) * 0x40 + b₂.toNat % 0x40⟩

theorem Begun.complete (h : Begun read p) (next : p.low ≤ b ∧ b ≤ p.high) (last : p.missing = 1) :
    String.utf8EncodeChar (Char.ofNat (p.code * 0x40 + b.toNat % 0x40)) = read ++ [b] := by
  cases h with
  | one starts =>
      rcases ofLead?_cases starts with ⟨range, rfl⟩ | ⟨range, rfl⟩ | ⟨range, rfl⟩
      · exact encodeChar_two range next
      · cases last
      · cases last
  | two starts second more =>
      rcases ofLead?_cases starts with ⟨range, rfl⟩ | ⟨range, rfl⟩ | ⟨range, rfl⟩
      · cases more rfl
      · obtain ⟨tail, overlong, surrogate⟩ := second_of_three second.1 second.2
        exact encodeChar_three range tail overlong surrogate next
      · cases last
  | three starts second third more =>
      rcases ofLead?_cases starts with ⟨range, rfl⟩ | ⟨range, rfl⟩ | ⟨range, rfl⟩
      · cases more
      · cases more
      · obtain ⟨tail, overlong, beyond⟩ := second_of_four second.1 second.2
        exact encodeChar_four range tail overlong beyond third next

theorem Begun.more (h : Begun read p) (next : p.low ≤ b ∧ b ≤ p.high) (more : p.missing ≠ 1) :
    Begun (read ++ [b]) ⟨p.taken + 1, p.missing - 1, 0x80, 0xBF, p.code * 0x40 + b.toNat % 0x40⟩ := by
  cases h with
  | one starts =>
      have first : p.taken = 1 := by
        rcases ofLead?_cases starts with ⟨-, rfl⟩ | ⟨-, rfl⟩ | ⟨-, rfl⟩ <;> rfl
      rw [first]
      exact .two starts next more
  | two starts second unfinished =>
      rcases ofLead?_cases starts with ⟨-, rfl⟩ | ⟨-, rfl⟩ | ⟨-, rfl⟩
      · cases unfinished rfl
      · cases more rfl
      · exact .three starts second next rfl
  | three => cases more rfl

def Spells (read : Bytes) (s : Scan) : Prop :=
  ∃ (chars : List Char) (rest : Bytes), s.pieces.reverse = chars.map .char ∧
    read = chars.flatMap String.utf8EncodeChar ++ rest ∧
    match s.open? with
    | none => rest = []
    | some p => Begun rest p

def Faulty (s : Scan) : Prop :=
  ∃ width, .bad width ∈ s.pieces

theorem spells_lead {chars : List Char} (reads : found.reverse = chars.map .char) (b : UInt8) :
    Spells (chars.flatMap String.utf8EncodeChar ++ [b]) (Scan.lead found b) ∨
      Faulty (Scan.lead found b) := by
  rw [Scan.lead]
  split
  · next ascii =>
    rw [UInt8.lt_iff_toNat_lt] at ascii
    left
    refine ⟨chars ++ [Char.ofNat b.toNat], [], ?_, ?_, rfl⟩
    · simp [reads]
    · simp [encodeChar_ascii ascii]
  · split
    · next p starts => exact .inl ⟨chars, [b], reads, rfl, .one starts⟩
    · exact .inr ⟨1, List.mem_cons_self⟩

theorem faulty_lead {found : List Piece} {width : Nat} (bad : .bad width ∈ found) (b : UInt8) :
    Faulty (Scan.lead found b) := by
  rw [Scan.lead]
  split
  · exact ⟨width, List.mem_cons_of_mem _ bad⟩
  · split
    · exact ⟨width, bad⟩
    · exact ⟨width, List.mem_cons_of_mem _ bad⟩

theorem Faulty.step (h : Faulty s) (b : UInt8) : Faulty (s.step b) := by
  obtain ⟨width, bad⟩ := h
  rw [Scan.step]
  split
  · exact faulty_lead bad b
  · split
    · dsimp only
      split
      · exact ⟨width, List.mem_cons_of_mem _ bad⟩
      · exact ⟨width, bad⟩
    · exact faulty_lead (List.mem_cons_of_mem _ bad) b

theorem Spells.step (h : Spells read s) (b : UInt8) :
    Spells (read ++ [b]) (s.step b) ∨ Faulty (s.step b) := by
  obtain ⟨found, opened⟩ := s
  obtain ⟨chars, rest, reads, rfl, tail⟩ := h
  cases opened with
  | none =>
      obtain rfl : rest = [] := tail
      rw [List.append_nil]
      exact spells_lead reads b
  | some p =>
      rw [Scan.step]
      dsimp only at tail ⊢
      split
      · next next =>
        split
        · next last =>
          left
          have whole := tail.complete next last
          refine ⟨chars ++ [Char.ofNat (p.code * 0x40 + b.toNat % 0x40)], [], ?_, ?_, rfl⟩
          · simpa using reads
          · rw [List.flatMap_append, List.flatMap_singleton, whole]
            simp
        · next more => exact .inl ⟨chars, rest ++ [b], reads, by simp, tail.more next more⟩
      · exact .inr (faulty_lead List.mem_cons_self b)

theorem spells_foldl (h : Spells read s ∨ Faulty s) (b : Bytes) :
    Spells (read ++ b) (b.foldl Scan.step s) ∨ Faulty (b.foldl Scan.step s) := by
  induction b generalizing read s with
  | nil => simpa using h
  | cons x later ih =>
      rw [List.foldl_cons, List.append_cons]
      apply ih
      rcases h with spells | faulty
      · exact spells.step x
      · exact .inr (faulty.step x)

theorem spells_scan (b : Bytes) : Spells b (b.foldl Scan.step {}) ∨ Faulty (b.foldl Scan.step {}) := by
  have start : Spells [] {} := ⟨[], [], rfl, rfl, rfl⟩
  exact spells_foldl (.inl start) b

theorem eq_chars_of_collect {index : Nat} {done chars : List Char} {pieces : List Piece}
    (h : collect index done pieces = .ok chars) :
    ∃ rest, pieces = rest.map .char ∧ chars = done.reverse ++ rest := by
  induction pieces generalizing index done with
  | nil => exact ⟨[], rfl, by simpa [collect] using h.symm⟩
  | cons piece later ih =>
      cases piece with
      | char c =>
          obtain ⟨rest, rfl, rfl⟩ := ih h
          exact ⟨c :: rest, rfl, by simp⟩
      | bad | cut => cases h

theorem encode_of_decode {b : Bytes} {text : String} (h : decode b = .ok text) : encode text = b := by
  rw [decode] at h
  cases collected : collect 0 [] (pieces b) with
  | error fault =>
      rw [collected] at h
      cases h
  | ok chars =>
      rw [collected] at h
      obtain rfl : String.ofList chars = text := Except.ok.inj h
      obtain ⟨_, found, rfl⟩ := eq_chars_of_collect collected
      rw [pieces, Scan.finish] at found
      rcases spells_scan b with ⟨known, rest, reads, whole, tail⟩ | ⟨width, bad⟩
      · cases opened : (b.foldl Scan.step {}).open? with
        | none =>
            rw [opened] at found tail
            obtain rfl : rest = [] := tail
            obtain rfl : known = chars :=
              (List.map_inj_right fun _ _ => Piece.char.inj).mp (reads.symm.trans found)
            rw [whole, encode_eq]
            simp
        | some p =>
            rw [opened] at found
            have cut : Piece.cut p.taken ∈ chars.map Piece.char := by
              rw [← found]
              simp
            simp at cut
      · have mem : Piece.bad width ∈ chars.map Piece.char := by
          rw [← found]
          split <;> simp [bad]
        simp at mem

end StreamTunnel.Utf8
