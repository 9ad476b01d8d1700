namespace StreamTunnel

abbrev Bytes := List UInt8

namespace Bytes

def little : Nat → Nat → Bytes
  | 0, _ => []
  | n + 1, v => UInt8.ofNat v :: little n (v / 256)

def ofLittle : Bytes → Nat
  | [] => 0
  | b :: rest => b.toNat + 256 * ofLittle rest

def big (n v : Nat) : Bytes :=
  (little n v).reverse

def ofBig (b : Bytes) : Nat :=
  ofLittle b.reverse

def split? (n : Nat) (b : Bytes) : Option (Bytes × Bytes) :=
  let front := b.take n
  if front.length = n then some (front, b.drop n) else none

@[simp] theorem length_little (n v : Nat) : (little n v).length = n := by
  induction n generalizing v with
  | zero => rfl
  | succ n ih => simp [little, ih]

@[simp] theorem length_big (n v : Nat) : (big n v).length = n := by
  simp [big]

theorem ofLittle_little (n v : Nat) : ofLittle (little n v) = v % Nat.pow 256 n := by
  induction n generalizing v with
  | zero => simp [little, ofLittle, Nat.mod_one]
  | succ n ih =>
      have byte : (UInt8.ofNat v).toNat = v % 256 := by simp
      have power : Nat.pow 256 (n + 1) = 256 * Nat.pow 256 n := Nat.mul_comm _ _
      rw [little, ofLittle, ih, byte, power, Nat.mod_mul]

theorem ofBig_big (n v : Nat) : ofBig (big n v) = v % Nat.pow 256 n := by
  simp [ofBig, big, ofLittle_little]

theorem little_ofLittle (b : Bytes) : little b.length (ofLittle b) = b := by
  induction b with
  | nil => rfl
  | cons x rest ih =>
      have hx := x.toNat_lt
      have hd : (x.toNat + 256 * ofLittle rest) / 256 = ofLittle rest := by omega
      have hm : UInt8.ofNat (x.toNat + 256 * ofLittle rest) = x := by
        apply UInt8.toNat_inj.mp
        simp only [UInt8.toNat_ofNat']
        omega
      simp [little, ofLittle, hd, hm, ih]

theorem big_ofBig (b : Bytes) : big b.length (ofBig b) = b := by
  have h := little_ofLittle b.reverse
  simp only [List.length_reverse] at h
  simp [big, ofBig, h]

theorem split?_append (a b : Bytes) : split? a.length (a ++ b) = some (a, b) := by
  simp [split?]

theorem eq_append_of_split? {n : Nat} {b front rest : Bytes}
    (h : split? n b = some (front, rest)) : front.length = n ∧ b = front ++ rest := by
  simp only [split?] at h
  split at h
  · next hn =>
    simp only [Option.some.injEq, Prod.mk.injEq] at h
    obtain ⟨rfl, rfl⟩ := h
    exact ⟨hn, (List.take_append_drop n b).symm⟩
  · exact absurd h (by simp)

end Bytes
end StreamTunnel
