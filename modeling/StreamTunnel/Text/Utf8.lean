import StreamTunnel.Bytes

namespace StreamTunnel.Utf8

def encode (s : String) : Bytes :=
  s.toUTF8.data.toList

inductive Piece where
  | char (c : Char)
  | bad (width : Nat)
  | cut (width : Nat)
deriving DecidableEq, Repr

structure Partial where
  taken : Nat
  missing : Nat
  low : UInt8
  high : UInt8
  code : Nat
deriving DecidableEq, Repr

structure Scan where
  pieces : List Piece := []
  open? : Option Partial := none
deriving DecidableEq, Repr

def Partial.ofLead? (b : UInt8) : Option Partial :=
  let v := b.toNat
  if 0xC2 ≤ v ∧ v ≤ 0xDF then some ⟨1, 1, 0x80, 0xBF, v % 0x20⟩
  else if 0xE0 ≤ v ∧ v ≤ 0xEF then
    some ⟨1, 2, if v = 0xE0 then 0xA0 else 0x80, if v = 0xED then 0x9F else 0xBF, v % 0x10⟩
  else if 0xF0 ≤ v ∧ v ≤ 0xF4 then
    some ⟨1, 3, if v = 0xF0 then 0x90 else 0x80, if v = 0xF4 then 0x8F else 0xBF, v % 0x08⟩
  else none

def Scan.lead (pieces : List Piece) (b : UInt8) : Scan :=
  if b < 0x80 then ⟨.char (Char.ofNat b.toNat) :: pieces, none⟩
  else match Partial.ofLead? b with
    | some p => ⟨pieces, some p⟩
    | none => ⟨.bad 1 :: pieces, none⟩

def Scan.step (s : Scan) (b : UInt8) : Scan :=
  match s.open? with
  | none => Scan.lead s.pieces b
  | some p =>
      if p.low ≤ b ∧ b ≤ p.high then
        let code := p.code * 0x40 + b.toNat % 0x40
        if p.missing = 1 then ⟨.char (Char.ofNat code) :: s.pieces, none⟩
        else ⟨s.pieces, some ⟨p.taken + 1, p.missing - 1, 0x80, 0xBF, code⟩⟩
      else Scan.lead (.bad p.taken :: s.pieces) b

def Scan.finish (s : Scan) : List Piece :=
  match s.open? with
  | none => s.pieces.reverse
  | some p => (.cut p.taken :: s.pieces).reverse

def pieces (b : Bytes) : List Piece :=
  (b.foldl Scan.step {}).finish

structure Fault where
  index : Nat
  width : Option Nat
deriving DecidableEq, Repr

def Fault.message (f : Fault) : String :=
  match f.width with
  | some k => s!"invalid utf-8 sequence of {k} bytes from index {f.index}"
  | none => s!"incomplete utf-8 byte sequence from index {f.index}"

def charWidth (c : Char) : Nat :=
  c.utf8Size

def collect (index : Nat) (done : List Char) : List Piece → Except Fault (List Char)
  | [] => .ok done.reverse
  | .char c :: rest => collect (index + charWidth c) (c :: done) rest
  | .bad k :: _ => .error ⟨index, some k⟩
  | .cut _ :: _ => .error ⟨index, none⟩

def decode (b : Bytes) : Except Fault String :=
  (collect 0 [] (pieces b)).map String.ofList

def Piece.lossy : Piece → Char
  | .char c => c
  | _ => '\uFFFD'

def lossy (b : Bytes) : String :=
  String.ofList ((pieces b).map Piece.lossy)

end StreamTunnel.Utf8
