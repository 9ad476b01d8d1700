namespace StreamTunnel

structure Span where
  nanos : Nat
deriving DecidableEq, Repr, Inhabited

namespace Span

def second : Nat := 1000000000

def millisecond : Nat := 1000000

def zero : Span := ⟨0⟩

def ofSecs (n : Nat) : Span := ⟨n * second⟩

def ofMillis (n : Nat) : Span := ⟨n * millisecond⟩

def ofParts (secs nanos : Nat) : Span := ⟨secs * second + nanos⟩

def secs (s : Span) : Nat := s.nanos / second

def subsec (s : Span) : Nat := s.nanos % second

def millis (s : Span) : Nat := s.nanos / millisecond

def isZero (s : Span) : Bool := s.nanos = 0

def min (a b : Span) : Span := ⟨Nat.min a.nanos b.nanos⟩

def toFloat (s : Span) : Float :=
  s.secs.toUInt64.toFloat + s.subsec.toUInt64.toFloat / 1000000000.0

inductive Fault where
  | negative
  | tooBig
deriving DecidableEq, Repr

def Fault.message : Fault → String
  | .negative => "cannot convert float seconds to Duration: value is negative"
  | .tooBig => "cannot convert float seconds to Duration: value is either too big or NaN"

def roundDiv (num den : Nat) : Nat :=
  let q := num / den
  let r := num % den
  if 2 * r < den then q
  else if den < 2 * r then q + 1
  else if q % 2 = 0 then q else q + 1

/-- The span nearest to a number of seconds. Numbers below zero have none, nor have those from
2^64 on; a negative zero is zero. -/
def ofFloat (x : Float) : Except Fault Span :=
  let bits := x.toBits.toNat
  let negative := bits / (1 <<< 63) = 1
  let exponent := bits / (1 <<< 52) % (1 <<< 11)
  let fraction := bits % (1 <<< 52)
  let isNaN := exponent = 2047 ∧ fraction ≠ 0
  if negative ∧ ¬ isNaN ∧ ¬ (exponent = 0 ∧ fraction = 0) then .error .negative
  else if 1023 + 64 ≤ exponent then .error .tooBig
  else
    let mantissa := if exponent = 0 then fraction else fraction + (1 <<< 52)
    let shift := if exponent = 0 then 1 else exponent
    let scaled := mantissa * second
    .ok ⟨if 1075 ≤ shift then scaled <<< (shift - 1075)
      else roundDiv scaled (1 <<< (1075 - shift))⟩

def scale (s : Span) (factor : Float) : Except Fault Span :=
  ofFloat (s.toFloat * factor)

end Span
end StreamTunnel
