import StreamTunnel.Net.Address
import StreamTunnel.Text.Quoted

namespace StreamTunnel.Config

inductive Json where
  | null
  | bool (b : Bool)
  | natural (n : Nat)
  | number
  | text (s : Option String)
  | list (items : List Json)
  | object (members : List (Option String × Json))

namespace Json

inductive Token where
  | openList
  | closeList
  | openObject
  | closeObject
  | comma
  | colon
  | text (s : Option String)
  | value (v : Json)

structure Spelling where
  chars : List Char := []
  half : Option Nat := none
  isWhole : Bool := true

namespace Spelling

def settle (s : Spelling) : Spelling :=
  { s with half := none, isWhole := s.isWhole && s.half.isNone }

def char (c : Char) (s : Spelling) : Spelling :=
  let s := s.settle
  { s with chars := c :: s.chars }

def unit (u : Nat) (s : Spelling) : Spelling :=
  if 0xD800 ≤ u ∧ u < 0xDC00 then { s.settle with half := some u }
  else if 0xDC00 ≤ u ∧ u < 0xE000 then
    match s.half with
    | some h =>
        { s with
          chars := Char.ofNat (0x10000 + (h - 0xD800) * 0x400 + (u - 0xDC00)) :: s.chars
          half := none }
    | none => { s with isWhole := false }
  else s.char (Char.ofNat u)

def finish (s : Spelling) : Option String :=
  let s := s.settle
  if s.isWhole then some (String.ofList s.chars.reverse) else none

end Spelling

def unit? (a b c d : Char) : Option Nat :=
  [a, b, c, d].foldl
    (fun value ch => match value, Address.digit? 16 ch with
      | some v, some n => some (v * 16 + n)
      | _, _ => none)
    (some 0)

def escaped? (c : Char) : Option Char :=
  match c with
  | '"' => some '"'
  | '\\' => some '\\'
  | '/' => some '/'
  | 'b' => some '\x08'
  | 'f' => some '\x0c'
  | 'n' => some '\n'
  | 'r' => some '\r'
  | 't' => some '\t'
  | _ => none

def readText : List Char → Spelling → Option (Option String × List Char)
  | [], _ => none
  | '"' :: rest, s => some (s.finish, rest)
  | '\\' :: 'u' :: a :: b :: c :: d :: rest, s =>
      match unit? a b c d with
      | some u => readText rest (s.unit u)
      | none => none
  | '\\' :: c :: rest, s =>
      match escaped? c with
      | some c => readText rest (s.char c)
      | none => none
  | c :: rest, s => if c.toNat < 0x20 then none else readText rest (s.char c)

def readDigits (s : List Char) : Option (Nat × List Char) :=
  match Address.digits 10 0 0 s with
  | (0, _, _) => none
  | (_, n, rest) => some (n, rest)

def readWhole (s : List Char) : Option (Nat × List Char) :=
  match s with
  | '0' :: rest => some (0, rest)
  | _ => readDigits s

def readFraction (s : List Char) : Option (Bool × List Char) :=
  match s with
  | '.' :: rest => (readDigits rest).map (fun (_, rest) => (true, rest))
  | _ => some (false, s)

def readExponent (s : List Char) : Option (Bool × List Char) :=
  match s with
  | c :: rest =>
      if c = 'e' ∨ c = 'E' then
        let rest := match rest with
          | '+' :: rest => rest
          | '-' :: rest => rest
          | _ => rest
        (readDigits rest).map (fun (_, rest) => (true, rest))
      else some (false, s)
  | [] => some (false, s)

def readNumber (s : List Char) : Option (Json × List Char) :=
  let (negative, s) := match s with
    | '-' :: rest => (true, rest)
    | _ => (false, s)
  match readWhole s with
  | none => none
  | some (n, rest) =>
      match readFraction rest with
      | none => none
      | some (hasFraction, rest) =>
          match readExponent rest with
          | none => none
          | some (hasExponent, rest) =>
              some (if negative || hasFraction || hasExponent then number else natural n, rest)

def readToken (s : List Char) : Option (Token × List Char) :=
  match s with
  | '[' :: rest => some (.openList, rest)
  | ']' :: rest => some (.closeList, rest)
  | '\x7b' :: rest => some (.openObject, rest)
  | '\x7d' :: rest => some (.closeObject, rest)
  | ',' :: rest => some (.comma, rest)
  | ':' :: rest => some (.colon, rest)
  | '"' :: rest => (readText rest {}).map (fun (s, rest) => (.text s, rest))
  | 'n' :: 'u' :: 'l' :: 'l' :: rest => some (.value null, rest)
  | 't' :: 'r' :: 'u' :: 'e' :: rest => some (.value (bool true), rest)
  | 'f' :: 'a' :: 'l' :: 's' :: 'e' :: rest => some (.value (bool false), rest)
  | _ => (readNumber s).map (fun (v, rest) => (.value v, rest))

def isSpace (c : Char) : Bool :=
  c = ' ' || c = '\n' || c = '\t' || c = '\r'

def tokensWith : Nat → List Char → List Token → Option (List Token)
  | 0, _, _ => none
  | fuel + 1, s, acc =>
      match s.dropWhile isSpace with
      | [] => some acc.reverse
      | c :: rest =>
          match readToken (c :: rest) with
          | none => none
          | some (t, rest) => tokensWith fuel rest (t :: acc)

/-- Each token takes a character at least. -/
def tokens (s : List Char) : Option (List Token) :=
  tokensWith (s.length + 1) s []

inductive Frame where
  | items (done : List Json)
  | members (done : List (Option String × Json))
  | member (done : List (Option String × Json)) (name : Option String)

inductive Due where
  | value
  | firstValue
  | name
  | firstName
  | colon
  | separator
  | nothing

structure Builder where
  frames : List Frame := []
  due : Due := .value
  result : Json := null

namespace Builder

def complete (v : Json) (b : Builder) : Builder :=
  match b.frames with
  | .items done :: rest => { b with frames := .items (v :: done) :: rest, due := .separator }
  | .member done name :: rest =>
      { b with frames := .members ((name, v) :: done) :: rest, due := .separator }
  | _ => { b with due := .nothing, result := v }

def push (f : Frame) (due : Due) (b : Builder) : Builder :=
  { b with frames := f :: b.frames, due }

def value (t : Token) (b : Builder) : Option Builder :=
  match t with
  | .value v => some (b.complete v)
  | .text s => some (b.complete (.text s))
  | .openList => some (b.push (.items []) .firstValue)
  | .openObject => some (b.push (.members []) .firstName)
  | _ => none

def name (t : Token) (b : Builder) : Option Builder :=
  match t, b.frames with
  | .text s, .members done :: rest =>
      some { b with frames := .member done s :: rest, due := .colon }
  | _, _ => none

def close (t : Token) (b : Builder) : Option Builder :=
  match t, b.frames with
  | .closeList, .items done :: rest =>
      some ({ b with frames := rest }.complete (.list done.reverse))
  | .closeObject, .members done :: rest =>
      some ({ b with frames := rest }.complete (.object done.reverse))
  | _, _ => none

def separator (t : Token) (b : Builder) : Option Builder :=
  match t, b.frames with
  | .comma, .items _ :: _ => some { b with due := .value }
  | .comma, .members _ :: _ => some { b with due := .name }
  | _, _ => b.close t

def step (t : Token) (b : Builder) : Option Builder :=
  match b.due with
  | .value => b.value t
  | .firstValue => (b.close t).or (b.value t)
  | .name => b.name t
  | .firstName => (b.close t).or (b.name t)
  | .colon =>
      match t with
      | .colon => some { b with due := .value }
      | _ => none
  | .separator => b.separator t
  | .nothing => none

end Builder

def build : List Token → Builder → Option Json
  | [], b =>
      match b.due with
      | .nothing => some b.result
      | _ => none
  | t :: rest, b =>
      match b.step t with
      | some b => build rest b
      | none => none

def parse (s : String) : Option Json :=
  match tokens s.toList with
  | some ts => build ts {}
  | none => none

def quote (s : String) : String :=
  let escape (c : Char) : List Char :=
    match c with
    | '"' => ['\\', '"']
    | '\\' => ['\\', '\\']
    | '\x08' => ['\\', 'b']
    | '\x0c' => ['\\', 'f']
    | '\n' => ['\\', 'n']
    | '\r' => ['\\', 'r']
    | '\t' => ['\\', 't']
    | _ =>
        if c.toNat < 0x20 then ['\\', 'u', '0', '0'] ++ Text.hexByte (UInt8.ofNat c.toNat)
        else [c]
  String.ofList ('"' :: s.toList.flatMap escape ++ ['"'])

end Json
end StreamTunnel.Config
