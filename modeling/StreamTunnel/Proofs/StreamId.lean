import Mathlib.Data.List.Basic
import StreamTunnel.Proofs.Text.Utf8
import StreamTunnel.StreamId

namespace StreamTunnel

theorem isAlphanumeric_iff {b : UInt8} : isAlphanumeric b = true ↔ (Char.ofUInt8 b).isAlphanum = true := by
  let c := Char.ofUInt8 b
  have code : c.val.toNat = b.toNat := b.toNat_toUInt32
  have ranges : c.isAlphanum = (decide ('A'.val ≤ c.val ∧ c.val ≤ 'Z'.val) ||
      (decide ('a'.val ≤ c.val) && decide (c.val ≤ 'z'.val)) ||
      (decide ('0'.val ≤ c.val) && decide (c.val ≤ '9'.val))) := rfl
  rw [ranges]
  simp only [isAlphanumeric, Bool.or_eq_true, Bool.and_eq_true, decide_eq_true_eq, UInt8.le_iff_toNat_le,
    UInt32.le_iff_toNat_le, code, UInt8.toNat_ofNat]
  have digits : '0'.val.toNat = 48 ∧ '9'.val.toNat = 57 := ⟨rfl, rfl⟩
  have capitals : 'A'.val.toNat = 65 ∧ 'Z'.val.toNat = 90 := ⟨rfl, rfl⟩
  have small : 'a'.val.toNat = 97 ∧ 'z'.val.toNat = 122 := ⟨rfl, rfl⟩
  omega

theorem toNat_lt_of_isAlphanumeric {b : UInt8} (h : isAlphanumeric b = true) : b.toNat < 0x80 := by
  simp only [isAlphanumeric, Bool.or_eq_true, Bool.and_eq_true, decide_eq_true_eq, UInt8.le_iff_toNat_le,
    UInt8.toNat_ofNat] at h
  omega

namespace StreamId

variable {s t : String} {id a b : StreamId}

theorem ofBytes_bytes (id : StreamId) : ofBytes id.bytes = .ok id := by
  simp [ofBytes, ofBytes?, id.length_eq, id.alphanumeric]

theorem encode_toString (id : StreamId) : Utf8.encode id.toString = id.bytes := by
  have ascii (x : UInt8) (mem : x ∈ id.bytes) : String.utf8EncodeChar (Char.ofNat x.toNat) = [x] :=
    Utf8.encodeChar_ascii (toNat_lt_of_isAlphanumeric (List.all_eq_true.mp id.alphanumeric x mem))
  rw [toString, Utf8.encode_eq, String.toList_ofList, List.flatMap_map]
  exact (List.flatMap_congr ascii).trans (List.flatMap_singleton' id.bytes)

def Names (s : String) : Prop :=
  (Utf8.encode s).length = 6 ∧ ∀ x ∈ Utf8.encode s, isAlphanumeric x = true

theorem parse_toString (id : StreamId) : parse id.toString = .ok id := by
  simp only [parse, encode_toString, id.length_eq, length, if_true]
  exact ofBytes_bytes id

theorem exists_toString (names : Names s) : ∃ id : StreamId, id.toString = s := by
  let id : StreamId := ⟨Utf8.encode s, names.1, List.all_eq_true.mpr names.2⟩
  exact ⟨id, Utf8.encode_inj (encode_toString id)⟩

theorem names_toString (id : StreamId) : Names id.toString := by
  rw [Names, encode_toString]
  exact ⟨id.length_eq, List.all_eq_true.mp id.alphanumeric⟩

theorem parse_eq_error (unnamed : ¬ Names s) : parse s = .error ⟨s⟩ := by
  have refused : ofBytes? (Utf8.encode s) = none :=
    dif_neg fun named => unnamed ⟨named.1, List.all_eq_true.mp named.2⟩
  simp only [parse, ofBytes, refused, Utf8.lossy_encode, ite_self]

theorem parse_eq_ok_iff : parse s = .ok id ↔ id.toString = s := by
  constructor
  · intro read
    by_cases names : Names s
    · obtain ⟨id', rfl⟩ := exists_toString names
      rw [parse_toString] at read
      rw [Except.ok.inj read]
    · rw [parse_eq_error names] at read
      cases read
  · rintro rfl
    exact parse_toString id

/-- A text is read as a stream id just when its UTF-8 form is six letters and digits, and the id is written as
that text. Any other text is refused, and is itself what the error shows. Ids that were read are equal and in
order just when the bytes of their texts are. -/
theorem parse_reads_names (s : String) :
    ((∃ id, parse s = .ok id) ↔
      (Utf8.encode s).length = 6 ∧ ∀ x ∈ Utf8.encode s, (Char.ofUInt8 x).isAlphanum = true) ∧
    (∀ id, parse s = .ok id → id.toString = s) ∧
    (∀ e, parse s = .error e → e = ⟨s⟩) ∧
    Utf8.lossy (Utf8.encode s) = s ∧
    ∀ t a b, parse s = .ok a → parse t = .ok b →
      (a < b ↔ Utf8.encode s < Utf8.encode t) ∧ (a = b ↔ s = t) := by
  have named : Names s ↔
      (Utf8.encode s).length = 6 ∧ ∀ x ∈ Utf8.encode s, (Char.ofUInt8 x).isAlphanum = true := by
    simp only [Names, isAlphanumeric_iff]
  refine ⟨?_, fun id read => parse_eq_ok_iff.mp read, fun e refused => ?_, Utf8.lossy_encode s, ?_⟩
  · rw [← named]
    constructor
    · rintro ⟨id, read⟩
      rw [← parse_eq_ok_iff.mp read]
      exact names_toString id
    · intro names
      obtain ⟨id, rfl⟩ := exists_toString names
      exact ⟨id, parse_toString id⟩
  · have unnamed : ¬ Names s := by
      intro names
      obtain ⟨id, rfl⟩ := exists_toString names
      rw [parse_toString] at refused
      cases refused
    rw [parse_eq_error unnamed] at refused
    exact (Except.error.inj refused).symm
  · intro t a b readA readB
    obtain rfl := parse_eq_ok_iff.mp readA
    obtain rfl := parse_eq_ok_iff.mp readB
    refine ⟨by rw [encode_toString, encode_toString]; rfl, fun same => same ▸ rfl, fun same => ?_⟩
    rw [same, parse_toString] at readA
    exact (Except.ok.inj readA).symm

theorem parse_reads_names_of_six_bytes :
    (Utf8.encode "äöü").length = 6 ∧ parse "äöü" = .error ⟨"äöü"⟩ ∧
      ∃ a b, parse "AB12cd" = .ok a ∧ parse "AB12cz" = .ok b ∧ a < b ∧ a ≠ b := by
  obtain ⟨reads, -, refuses, -⟩ := parse_reads_names "äöü"
  obtain ⟨-, -, -, -, orders⟩ := parse_reads_names "AB12cd"
  have first : parse "AB12cd" = .ok (ofNat 9324116427) := by decide +kernel
  have second : parse "AB12cz" = .ok (ofNat 9324116449) := by decide +kernel
  refine ⟨by decide +kernel, ?_, _, _, first, second, ?_⟩
  · cases read : parse "äöü" with
    | error e => rw [refuses e read]
    | ok id => exact absurd (reads.mp ⟨id, read⟩) (by decide +kernel)
  · obtain ⟨before, same⟩ := orders "AB12cz" _ _ first second
    exact ⟨before.mpr (by decide +kernel), fun equal => absurd (same.mp equal) (by decide)⟩

end StreamId
end StreamTunnel
