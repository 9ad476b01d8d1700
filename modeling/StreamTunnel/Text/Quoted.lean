import StreamTunnel.Bytes
import StreamTunnel.Text.Printable

namespace StreamTunnel.Text

def hexDigits (n : Nat) : List Char :=
  Nat.toDigits 16 n

def hexByte (b : UInt8) : List Char :=
  [Nat.digitChar (b.toNat / 16), Nat.digitChar (b.toNat % 16)]

def escapeChar (c : Char) : List Char :=
  if c = '"' then ['\\', '"']
  else if c = '\\' then ['\\', '\\']
  else if c = '\t' then ['\\', 't']
  else if c = '\r' then ['\\', 'r']
  else if c = '\n' then ['\\', 'n']
  else if c = '\x00' then ['\\', '0']
  else if isExtending c || !isPrintable c then
    ['\\', 'u', '\x7b'] ++ hexDigits c.toNat ++ ['\x7d']
  else [c]

def quote (s : String) : String :=
  String.ofList ('"' :: s.toList.flatMap escapeChar ++ ['"'])

def escapeByte (b : UInt8) : List Char :=
  let c := Char.ofNat b.toNat
  if c = '"' then ['\\', '"']
  else if c = '\\' then ['\\', '\\']
  else if c = '\t' then ['\\', 't']
  else if c = '\r' then ['\\', 'r']
  else if c = '\n' then ['\\', 'n']
  else if b = 0 then ['\\', '0']
  else if 0x20 ≤ b ∧ b ≤ 0x7E then [c]
  else '\\' :: 'x' :: hexByte b

def quoteBytes (bytes : Bytes) : String :=
  String.ofList ('b' :: '"' :: bytes.flatMap escapeByte ++ ['"'])

end StreamTunnel.Text
