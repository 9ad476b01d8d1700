import StreamTunnel.Bytes
import StreamTunnel.Text.Quoted
import StreamTunnel.Text.Utf8

namespace StreamTunnel

def isAlphanumeric (b : UInt8) : Bool :=
  (0x30 ≤ b && b ≤ 0x39) || (0x41 ≤ b && b ≤ 0x5A) || (0x61 ≤ b && b ≤ 0x7A)

structure StreamId where
  bytes : Bytes
  length_eq : bytes.length = 6
  alphanumeric : bytes.all isAlphanumeric = true
deriving DecidableEq, Repr

namespace StreamId

def length : Nat := 6

instance : LT StreamId := ⟨fun a b => a.bytes < b.bytes⟩

instance : DecidableLT StreamId := fun a b => inferInstanceAs (Decidable (a.bytes < b.bytes))

theorem lt_trans {a b c : StreamId} (ab : a < b) (bc : b < c) : a < c :=
  List.lt_trans ab bc

theorem lt_of_not_lt {a b : StreamId} (other : a ≠ b) (not : ¬ a < b) : b < a := by
  rcases List.le_iff_lt_or_eq.mp (List.not_lt.mp not) with before | same
  · exact before
  · cases a
    cases b
    cases same
    exact absurd rfl other

structure Invalid where
  text : String
deriving DecidableEq, Repr

def Invalid.message (e : Invalid) : String :=
  "Invalid stream id: " ++ Text.quote e.text

def ofBytes? (b : Bytes) : Option StreamId :=
  if h : b.length = 6 ∧ b.all isAlphanumeric = true then some ⟨b, h.1, h.2⟩ else none

def ofBytes (b : Bytes) : Except Invalid StreamId :=
  match ofBytes? b with
  | some id => .ok id
  | none => .error ⟨Utf8.lossy b⟩

def parse (s : String) : Except Invalid StreamId :=
  let b := Utf8.encode s
  if b.length = length then ofBytes b else .error ⟨s⟩

def toString (id : StreamId) : String :=
  String.ofList (id.bytes.map (fun b => Char.ofNat b.toNat))

def debug (id : StreamId) : String :=
  "StreamId(" ++ id.toString ++ ")"

def firstFree (taken : StreamId → Bool) : List StreamId → Option (StreamId × Nat)
  | [] => none
  | c :: rest =>
      if taken c then (firstFree taken rest).map (fun r => (r.1, r.2 + 1)) else some (c, 1)

def symbol (n : Nat) : UInt8 :=
  let k := n % 62
  if k < 10 then UInt8.ofNat (0x30 + k)
  else if k < 36 then UInt8.ofNat (0x41 + (k - 10))
  else UInt8.ofNat (0x61 + (k - 36))

theorem isAlphanumeric_symbol (n : Nat) : isAlphanumeric (symbol n) = true := by
  have h : ∀ k, k < 62 → isAlphanumeric (symbol k) = true := by decide
  have hs : symbol n = symbol (n % 62) := by simp [symbol]
  rw [hs]
  exact h _ (Nat.mod_lt _ (by decide))

def ofNat (n : Nat) : StreamId where
  bytes := [symbol (n / 62 / 62 / 62 / 62 / 62), symbol (n / 62 / 62 / 62 / 62),
    symbol (n / 62 / 62 / 62), symbol (n / 62 / 62), symbol (n / 62), symbol n]
  length_eq := rfl
  alphanumeric := by simp [isAlphanumeric_symbol]

/-- A sequence of ids that runs through all of them in a scattered order: the step is prime to
62, so none comes twice before all have come. -/
def scattered (n : Nat) : StreamId :=
  ofNat ((n * 48271840193 + 31640625377) % Nat.pow 62 6)

end StreamId
end StreamTunnel
