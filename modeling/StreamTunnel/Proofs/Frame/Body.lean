import StreamTunnel.Frame.Body
import StreamTunnel.Proofs.Text.Utf8

namespace StreamTunnel.Frame

variable {b rest : Bytes} {f : Frame}

theorem readNat_little {width n : Nat} (h : n < Nat.pow 256 width) :
    readNat width (Bytes.little width n ++ rest) = .ok (n, rest) := by
  have cut := Bytes.split?_append (Bytes.little width n) rest
  rw [Bytes.length_little] at cut
  rw [readNat, cut]
  simp only [Bytes.ofLittle_little, Nat.mod_eq_of_lt h]

theorem readBytes_writeString {b : Bytes} (h : b.length < Nat.pow 256 8) :
    readBytes (writeString b ++ rest) = .ok (b, rest) := by
  rw [readBytes, writeString, List.append_assoc, readNat_little h]
  simp only [Bytes.split?_append]

theorem readString_writeString {s : String} (h : (Utf8.encode s).length < Nat.pow 256 8) :
    readString (writeString (Utf8.encode s) ++ rest) = .ok (s, rest) := by
  rw [readString, readBytes_writeString h]
  simp only [Utf8.decode_encode]

/-- Every text and byte string in the frame has a length that its eight bytes can hold. -/
def Fits : Frame → Prop
  | hello identity _ => (Utf8.encode identity).length < Nat.pow 256 8
  | message data => data.length < Nat.pow 256 8
  | close reason => (Utf8.encode reason).length < Nat.pow 256 8
  | _ => True

theorem fits_of_length_lt {f : Frame} (h : f.body.length < Nat.pow 256 8) : f.Fits := by
  cases f with
  | helloAck | ping | pong => trivial
  | hello | message | close =>
      simp only [body, writeFields, writeString, List.length_append] at h
      simp only [Fits]
      omega

theorem length_body_message (data : Bytes) : (message data).body.length = 12 + data.length := by
  simp only [body, writeFields, writeString, List.length_append, Bytes.length_little]
  omega

theorem length_body_close (reason : String) :
    (close reason).body.length = 12 + (Utf8.encode reason).length := by
  simp only [body, writeFields, writeString, List.length_append, Bytes.length_little]
  omega

theorem readFields_writeFields {f : Frame} (h : f.Fits) :
    readFields f.variant (f.writeFields ++ rest) = .ok (f, rest) := by
  cases f with
  | hello identity port =>
      have small : port.toNat < Nat.pow 256 4 := port.toNat_lt
      rw [variant, readFields, readHello, writeFields, List.append_assoc, readString_writeString h]
      simp only [readNat_little small, UInt32.ofNat_toNat]
  | helloAck => rfl
  | ping t =>
      have small : t.toNat < Nat.pow 256 8 := t.toNat_lt
      rw [variant, readFields, writeFields, readNat_little small, mapRead, UInt64.ofNat_toNat]
  | pong t =>
      have small : t.toNat < Nat.pow 256 8 := t.toNat_lt
      rw [variant, readFields, writeFields, readNat_little small, mapRead, UInt64.ofNat_toNat]
  | message data => rw [variant, readFields, writeFields, readBytes_writeString h, mapRead]
  | close reason => rw [variant, readFields, writeFields, readString_writeString h, mapRead]

theorem variant_lt (f : Frame) : f.variant < Nat.pow 256 4 := by
  cases f <;> simp [variant]

theorem ofBody_body_append {f : Frame} (h : f.Fits) (rest : Bytes) :
    ofBody (f.body ++ rest) = .ok f := by
  rw [ofBody, body, List.append_assoc, readNat_little f.variant_lt]
  simp only [readFields_writeFields h]
  rfl

theorem ofBody_body {f : Frame} (h : f.Fits) : ofBody f.body = .ok f := by
  simpa using ofBody_body_append h []

theorem eq_little_of_readNat {width n : Nat} (h : readNat width b = .ok (n, rest)) :
    b = Bytes.little width n ++ rest ∧ n < Nat.pow 256 width := by
  rw [readNat] at h
  split at h
  · cases h
  · next front rest' cut =>
    cases h
    obtain ⟨rfl, rfl⟩ := Bytes.eq_append_of_split? cut
    have again := Bytes.little_ofLittle front
    have value := Bytes.ofLittle_little front.length (Bytes.ofLittle front)
    rw [again] at value ⊢
    refine ⟨rfl, ?_⟩
    rw [value]
    exact Nat.mod_lt _ (Nat.pow_pos (by decide))

theorem eq_writeString_of_readBytes {data : Bytes} (h : readBytes b = .ok (data, rest)) :
    b = writeString data ++ rest ∧ data.length < Nat.pow 256 8 := by
  rw [readBytes] at h
  split at h
  · cases h
  · next n later number =>
    obtain ⟨rfl, small⟩ := eq_little_of_readNat number
    split at h
    · cases h
    · next cut =>
      cases h
      obtain ⟨rfl, rfl⟩ := Bytes.eq_append_of_split? cut
      exact ⟨by rw [writeString, List.append_assoc], small⟩

theorem eq_writeString_of_readString {s : String} (h : readString b = .ok (s, rest)) :
    b = writeString (Utf8.encode s) ++ rest ∧ (Utf8.encode s).length < Nat.pow 256 8 := by
  rw [readString] at h
  split at h
  · cases h
  · next front later found =>
    split at h
    · cases h
    · next decoded =>
      cases h
      rw [Utf8.encode_of_decode decoded]
      exact eq_writeString_of_readBytes found

theorem eq_of_mapRead {α β : Type} {g : α → β} {r : Reads α} {y : β} (h : mapRead g r = .ok (y, rest)) :
    ∃ x, r = .ok (x, rest) ∧ g x = y := by
  rw [mapRead.eq_def] at h
  split at h
  · cases h
  · cases h
    exact ⟨_, rfl, rfl⟩

theorem eq_writeFields_of_readFields {n : Nat} (h : readFields n b = .ok (f, rest)) :
    b = f.writeFields ++ rest ∧ f.variant = n ∧ f.Fits := by
  rw [readFields.eq_def] at h
  split at h
  · rw [readHello] at h
    split at h
    · cases h
    · next identity later text =>
      obtain ⟨rfl, fits⟩ := eq_writeString_of_readString text
      split at h
      · cases h
      · next port later' number =>
        obtain ⟨rfl, small⟩ := eq_little_of_readNat number
        cases h
        have same : (UInt32.ofNat port).toNat = port := UInt32.toNat_ofNat_of_lt' small
        exact ⟨by rw [writeFields, same, List.append_assoc], rfl, fits⟩
  · cases h
    exact ⟨rfl, rfl, trivial⟩
  · obtain ⟨t, number, rfl⟩ := eq_of_mapRead h
    obtain ⟨rfl, small⟩ := eq_little_of_readNat number
    have same : (UInt64.ofNat t).toNat = t := UInt64.toNat_ofNat_of_lt' small
    exact ⟨by rw [writeFields, same], rfl, trivial⟩
  · obtain ⟨t, number, rfl⟩ := eq_of_mapRead h
    obtain ⟨rfl, small⟩ := eq_little_of_readNat number
    have same : (UInt64.ofNat t).toNat = t := UInt64.toNat_ofNat_of_lt' small
    exact ⟨by rw [writeFields, same], rfl, trivial⟩
  · obtain ⟨data, found, rfl⟩ := eq_of_mapRead h
    obtain ⟨rfl, fits⟩ := eq_writeString_of_readBytes found
    exact ⟨rfl, rfl, fits⟩
  · obtain ⟨reason, found, rfl⟩ := eq_of_mapRead h
    obtain ⟨rfl, fits⟩ := eq_writeString_of_readString found
    exact ⟨rfl, rfl, fits⟩
  · cases h

theorem body_prefix_of_ofBody (h : ofBody b = .ok f) : f.Fits ∧ f.body <+: b := by
  rw [ofBody] at h
  split at h
  · cases h
  · next n later number =>
    obtain ⟨rfl, -⟩ := eq_little_of_readNat number
    cases read : readFields n later with
    | error e =>
        rw [read] at h
        cases h
    | ok found =>
        obtain ⟨g, rest⟩ := found
        rw [read] at h
        obtain rfl : g = f := Except.ok.inj h
        obtain ⟨rfl, rfl, fits⟩ := eq_writeFields_of_readFields read
        exact ⟨fits, rest, by rw [body, List.append_assoc]⟩

theorem eq_of_body_prefix {g : Frame} (fits : f.Fits) (fits' : g.Fits) (within : f.body <+: g.body) :
    f = g := by
  obtain ⟨t, whole⟩ := within
  have first := ofBody_body_append fits t
  rw [whole, ofBody_body fits'] at first
  exact (Except.ok.inj first).symm

/-- A body that was written is read back whatever comes after it, and nothing else is read. So two
frames have two bodies, neither of which begins the other. -/
theorem body_canonical :
    (∀ f : Frame, f.Fits → ∀ rest, ofBody (f.body ++ rest) = .ok f) ∧
    (∀ b f, ofBody b = .ok f → f.Fits ∧ f.body <+: b) ∧
    (∀ f g : Frame, f.Fits → g.Fits → f.body <+: g.body → f = g) ∧
    (∀ b, (∃ f, ofBody b = .ok f) ↔ ∃ f : Frame, f.Fits ∧ f.body <+: b) ∧
    (∀ b, (∃ e, ofBody b = .error e) ↔ ∀ f : Frame, f.Fits → ¬ f.body <+: b) := by
  have read (f : Frame) (fits : f.Fits) (rest : Bytes) : ofBody (f.body ++ rest) = .ok f :=
    ofBody_body_append fits rest
  have written (b : Bytes) (f : Frame) (h : ofBody b = .ok f) : f.Fits ∧ f.body <+: b :=
    body_prefix_of_ofBody h
  refine ⟨read, written, fun f g => eq_of_body_prefix, ?_, ?_⟩
  · intro b
    constructor
    · rintro ⟨f, h⟩
      exact ⟨f, written b f h⟩
    · rintro ⟨f, fits, rest, rfl⟩
      exact ⟨f, read f fits rest⟩
  · intro b
    constructor
    · rintro ⟨e, refused⟩ f fits ⟨rest, rfl⟩
      rw [read f fits rest] at refused
      cases refused
    · intro foreign
      cases h : ofBody b with
      | error e => exact ⟨e, rfl⟩
      | ok f =>
          obtain ⟨fits, within⟩ := written b f h
          exact absurd within (foreign f fits)

theorem body_canonical_stray_bytes :
    let f : Frame := .hello "é" 7
    f.Fits ∧ ofBody (f.body ++ [1, 2]) = .ok f ∧ f.body <+: f.body ++ [1, 2] := by
  intro f
  have fits : f.Fits := by
    unfold Fits
    decide +kernel
  have read := body_canonical.1 f fits [1, 2]
  exact ⟨fits, read, (body_canonical.2.1 _ f read).2⟩

end StreamTunnel.Frame
