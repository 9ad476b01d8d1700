namespace StreamTunnel

inductive IpAddress where
  | v4 (parts : List Nat)
  | v6 (groups : List Nat)
deriving DecidableEq, Repr

structure SocketAddress where
  ip : IpAddress
  port : Nat
  scope : Nat := 0
deriving DecidableEq, Repr

namespace Address

abbrev Reads (α : Type) := List Char → Option (α × List Char)

def digit? (radix : Nat) (c : Char) : Option Nat :=
  let v := c.toNat
  let d :=
    if 0x30 ≤ v ∧ v ≤ 0x39 then v - 0x30
    else if 0x61 ≤ v ∧ v ≤ 0x66 then v - 0x61 + 10
    else if 0x41 ≤ v ∧ v ≤ 0x46 then v - 0x41 + 10
    else radix
  if d < radix then some d else none

def digits (radix : Nat) : Nat → Nat → List Char → Nat × Nat × List Char
  | count, value, [] => (count, value, [])
  | count, value, c :: rest =>
      match digit? radix c with
      | some d => digits radix (count + 1) (value * radix + d) rest
      | none => (count, value, c :: rest)

def whole? (radix : Nat) (s : List Char) : Option Nat :=
  match digits radix 0 0 s with
  | (0, _, _) => none
  | (_, n, []) => some n
  | _ => none

def number (radix bound : Nat) (most : Option Nat) (zeros : Bool) : Reads Nat := fun s =>
  let (count, value, rest) := digits radix 0 0 s
  let tooMany := match most with
    | some n => n < count
    | none => false
  let padded := !zeros && s.head? = some '0' && 1 < count
  if count = 0 || tooMany || padded || bound ≤ value then none else some (value, rest)

def char (c : Char) : Reads Unit
  | [] => none
  | d :: rest => if c = d then some ((), rest) else none

def separated {α : Type} (sep : Char) (index : Nat) (inner : Reads α) : Reads α := fun s =>
  if index = 0 then inner s else
    match char sep s with
    | none => none
    | some ((), rest) => inner rest

def decimalParts : Nat → Nat → Reads (List Nat)
  | 0, _, s => some ([], s)
  | n + 1, index, s =>
      match separated '.' index (number 10 256 (some 3) false) s with
      | none => none
      | some (p, rest) =>
          match decimalParts n (index + 1) rest with
          | none => none
          | some (ps, rest) => some (p :: ps, rest)

def ipv4 : Reads (List Nat) :=
  decimalParts 4 0

/-- Up to `n` groups, and whether an IPv4 address, which counts for two, was the last of them. -/
def groups : Nat → Nat → List Char → List Nat × Bool × List Char
  | 0, _, s => ([], false, s)
  | n + 1, index, s =>
      let embedded := if 1 ≤ n then separated ':' index ipv4 s else none
      match embedded with
      | some ([a, b, c, d], rest) => ([a * 256 + b, c * 256 + d], true, rest)
      | _ =>
          match separated ':' index (number 16 65536 (some 4) true) s with
          | none => ([], false, s)
          | some (g, rest) =>
              let (gs, v4, rest) := groups n (index + 1) rest
              (g :: gs, v4, rest)

def ipv6 : Reads (List Nat) := fun s =>
  let (front, v4, rest) := groups 8 0 s
  if front.length = 8 then some (front, rest)
  else if v4 then none
  else match rest with
    | ':' :: ':' :: rest =>
        let (back, _, rest) := groups (7 - front.length) 0 rest
        some (front ++ List.replicate (8 - front.length - back.length) 0 ++ back, rest)
    | _ => none

def port : Reads Nat := fun s =>
  match char ':' s with
  | none => none
  | some ((), rest) => number 10 65536 none true rest

def scope (s : List Char) : Nat × List Char :=
  match s with
  | '%' :: rest => (number 10 (1 <<< 32) none true rest).getD (0, s)
  | _ => (0, s)

def socket4 : Reads SocketAddress := fun s =>
  match ipv4 s with
  | none => none
  | some (parts, rest) => (port rest).map (fun (p, rest) => (⟨.v4 parts, p, 0⟩, rest))

def socket6 : Reads SocketAddress := fun s =>
  match s with
  | '[' :: rest =>
      match ipv6 rest with
      | none => none
      | some (gs, rest) =>
          let (scope, rest) := scope rest
          match char ']' rest with
          | none => none
          | some ((), rest) => (port rest).map (fun (p, rest) => (⟨.v6 gs, p, scope⟩, rest))
  | _ => none

def whole {α : Type} (reader : Reads α) (s : String) : Option α :=
  match reader s.toList with
  | some (x, []) => some x
  | _ => none

def dotted (parts : List Nat) : String :=
  ".".intercalate (parts.map Nat.repr)

def hexGroups (gs : List Nat) : String :=
  ":".intercalate (gs.map (fun g => String.ofList (Nat.toDigits 16 g)))

def zeroRun : Nat → Nat → Nat × Nat → List Nat → Nat × Nat
  | _, _, best, [] => best
  | i, run, best, g :: rest =>
      if g = 0 then
        let run := run + 1
        zeroRun (i + 1) run (if best.2 < run then (i + 1 - run, run) else best) rest
      else zeroRun (i + 1) 0 best rest

def printGroups (gs : List Nat) : String :=
  match gs with
  | [0, 0, 0, 0, 0, 0xFFFF, a, b] =>
      "::ffff:" ++ dotted [a / 256, a % 256, b / 256, b % 256]
  | _ =>
      let (start, length) := zeroRun 0 0 (0, 0) gs
      if 1 < length then hexGroups (gs.take start) ++ "::" ++ hexGroups (gs.drop (start + length))
      else hexGroups gs

end Address

namespace IpAddress

def parse (s : String) : Option IpAddress :=
  match Address.whole Address.ipv4 s with
  | some parts => some (.v4 parts)
  | none => (Address.whole Address.ipv6 s).map .v6

def toString : IpAddress → String
  | v4 parts => Address.dotted parts
  | v6 gs => Address.printGroups gs

end IpAddress

namespace SocketAddress

def parse (s : String) : Option SocketAddress :=
  (Address.whole Address.socket4 s).or (Address.whole Address.socket6 s)

def toString (a : SocketAddress) : String :=
  match a.ip with
  | .v4 parts => Address.dotted parts ++ ":" ++ Nat.repr a.port
  | .v6 gs =>
      let scope := if a.scope = 0 then "" else "%" ++ Nat.repr a.scope
      "[" ++ Address.printGroups gs ++ scope ++ "]:" ++ Nat.repr a.port

inductive HostFault where
  | noPort
  | badPort
deriving DecidableEq, Repr

def HostFault.message : HostFault → String
  | .noPort => "invalid socket address"
  | .badPort => "invalid port value"

def afterColon (s : List Char) : Option (List Char) :=
  if s.contains ':' then some (s.reverse.takeWhile (· ≠ ':')).reverse else none

def checkHost (s : String) : Except HostFault Unit :=
  match afterColon s.toList with
  | none => .error .noPort
  | some port =>
      let ds := match port with
        | '+' :: rest => rest
        | _ => port
      let (count, value, rest) := Address.digits 10 0 0 ds
      if count ≠ 0 ∧ rest = [] ∧ value < 65536 then .ok () else .error .badPort

end SocketAddress
end StreamTunnel
