import StreamTunnel.Net.Address

namespace StreamTunnel.Config.Yaml

inductive Token where
  | documentStart
  | documentEnd
  | openBlockList
  | openBlockMap
  | closeBlock
  | openFlowList
  | closeFlowList
  | openFlowMap
  | closeFlowMap
  | item
  | comma
  | key
  | value
  | scalar (text : String) (isPlain : Bool)
deriving DecidableEq, Repr

structure Position where
  index : Nat := 0
  line : Nat := 0
  column : Nat := 0
deriving DecidableEq, Repr

def lineSeparator : Char := Char.ofNat 0x2028

def paragraphSeparator : Char := Char.ofNat 0x2029

def byteOrderMark : Char := Char.ofNat 0xFEFF

def isBreak (c : Char) : Bool :=
  c = '\n' || c = lineSeparator || c = paragraphSeparator

def isBlank (c : Char) : Bool :=
  c = ' ' || c = '\t'

def blankFollows (s : List Char) : Bool :=
  match s with
  | [] => true
  | c :: _ => isBlank c || isBreak c

def Position.past (c : Char) (p : Position) : Position :=
  if isBreak c then { index := p.index + 1, line := p.line + 1, column := 0 }
  else { p with index := p.index + 1, column := p.column + 1 }

structure Cursor where
  rest : List Char
  position : Position := {}

def Cursor.skip (n : Nat) (c : Cursor) : Cursor :=
  { rest := c.rest.drop n, position := (c.rest.take n).foldl (fun p ch => p.past ch) c.position }

def isDocumentMark (s : List Char) (p : Position) : Bool :=
  p.column = 0 && (s.take 3 = ['-', '-', '-'] || s.take 3 = ['.', '.', '.']) &&
    blankFollows (s.drop 3)

def plainBreaks : List Char → List Char
  | [] => []
  | '\r' :: '\n' :: rest => '\n' :: plainBreaks rest
  | c :: rest => (if c = '\r' || c = '\x85' then '\n' else c) :: plainBreaks rest

def isAllowed (c : Char) : Bool :=
  let v := c.toNat
  v = 0x09 || v = 0x0A || v = 0x0D || (0x20 ≤ v && v ≤ 0x7E) || v = 0x85 ||
    (0xA0 ≤ v && v ≤ 0xFFFD) || 0x10000 ≤ v

/-- Blanks and line breaks inside a scalar. On one line they stand for themselves; a single line
break is a space, and of several the first is left out. -/
structure Gap where
  spaces : List Char := []
  isBroken : Bool := false
  first : Option Char := none
  further : List Char := []

namespace Gap

def isEmpty (g : Gap) : Bool :=
  g.spaces.isEmpty && !g.isBroken

def add (c : Char) (g : Gap) : Gap :=
  if isBreak c then
    if g.isBroken then { g with further := c :: g.further }
    else { isBroken := true, first := some c }
  else if g.isBroken then g
  else { g with spaces := c :: g.spaces }

def folded (g : Gap) : List Char :=
  if g.isBroken then
    match g.first with
    | some '\n' => if g.further.isEmpty then [' '] else g.further
    | some c => g.further ++ [c]
    | none => g.further
  else g.spaces

def escapedBreak : Gap := { isBroken := true }

end Gap

/-- Goes over blanks, comments and line breaks between tokens. A line break outside flow collections
lets a key begin; a tab is no indentation. -/
def skipSpace (inFlow : Bool) : List Char → Position → Bool → Bool → Cursor × Bool
  | [], p, keyAllowed, _ => (⟨[], p⟩, keyAllowed)
  | c :: rest, p, keyAllowed, inComment =>
      if isBreak c then skipSpace inFlow rest (p.past c) (keyAllowed || !inFlow) false
      else if inComment || c = ' ' || (c = '\t' && (inFlow || !keyAllowed)) then
        skipSpace inFlow rest (p.past c) keyAllowed inComment
      else if c = '#' then skipSpace inFlow rest (p.past c) keyAllowed true
      else (⟨c :: rest, p⟩, keyAllowed)

def escaped? (c : Char) : Option Char :=
  match c with
  | '0' => some '\x00'
  | 'a' => some '\x07'
  | 'b' => some '\x08'
  | 't' => some '\t'
  | '\t' => some '\t'
  | 'n' => some '\n'
  | 'v' => some '\x0b'
  | 'f' => some '\x0c'
  | 'r' => some '\r'
  | 'e' => some '\x1b'
  | ' ' => some ' '
  | '"' => some '"'
  | '/' => some '/'
  | '\\' => some '\\'
  | 'N' => some '\x85'
  | '_' => some '\xa0'
  | 'L' => some lineSeparator
  | 'P' => some paragraphSeparator
  | _ => none

def codeLength? (c : Char) : Option Nat :=
  match c with
  | 'x' => some 2
  | 'u' => some 4
  | 'U' => some 8
  | _ => none

def charOfNat? (n : Nat) : Option Char :=
  if n.isValidChar then some (Char.ofNat n) else none

inductive Within where
  | text
  | escape
  | code (left value : Nat)
  | quote

def quoted (isDouble : Bool) : List Char → Position → Within → List Char → Gap →
    Option (String × Cursor)
  | [], p, within, acc, _ =>
      match within with
      | .quote => some (String.ofList acc.reverse, ⟨[], p⟩)
      | _ => none
  | c :: rest, p, within, acc, gap =>
      let next := p.past c
      match within with
      | .text =>
          if isBlank c || isBreak c then quoted isDouble rest next .text acc (gap.add c)
          else if isDocumentMark (c :: rest) p then none
          else
            let acc := gap.folded ++ acc
            if isDouble && c = '"' then some (String.ofList acc.reverse, ⟨rest, next⟩)
            else if isDouble && c = '\\' then quoted isDouble rest next .escape acc {}
            else if !isDouble && c = '\x27' then quoted isDouble rest next .quote acc {}
            else quoted isDouble rest next .text (c :: acc) {}
      | .escape =>
          if isBreak c then quoted isDouble rest next .text acc .escapedBreak
          else match escaped? c, codeLength? c with
            | some e, _ => quoted isDouble rest next .text (e :: acc) {}
            | none, some n => quoted isDouble rest next (.code n 0) acc {}
            | none, none => none
      | .code left value =>
          match Address.digit? 16 c with
          | none => none
          | some d =>
              if left ≤ 1 then
                match charOfNat? (value * 16 + d) with
                | some e => quoted isDouble rest next .text (e :: acc) {}
                | none => none
              else quoted isDouble rest next (.code (left - 1) (value * 16 + d)) acc {}
      | .quote =>
          if c = '\x27' then quoted isDouble rest next .text (c :: acc) {}
          else some (String.ofList acc.reverse, ⟨c :: rest, p⟩)

def isFlowMark (c : Char) : Bool :=
  c = ',' || c = '[' || c = ']' || c = '\x7b' || c = '\x7d'

def isLooseColon (c : Char) (rest : List Char) : Bool :=
  c = ':' && match rest with
    | d :: _ => d = '?' || isFlowMark d
    | [] => false

/-- Reads a plain scalar, which goes on over lines that are indented enough. Says also whether a
line break came after it. -/
def plain (inFlow : Bool) (indent : Nat) : List Char → Position → List Char → Gap →
    Option (String × Cursor × Bool)
  | [], p, acc, gap => some (String.ofList acc.reverse, ⟨[], p⟩, gap.isBroken)
  | c :: rest, p, acc, gap =>
      let stop := some (String.ofList acc.reverse, ⟨c :: rest, p⟩, gap.isBroken)
      if isBlank c || isBreak c then
        if c = '\t' && gap.isBroken && p.column < indent then none
        else plain inFlow indent rest (p.past c) acc (gap.add c)
      else if !gap.isEmpty && (c = '#' || (!inFlow && p.column < indent)) then stop
      else if isDocumentMark (c :: rest) p then stop
      else if inFlow && isLooseColon c rest then none
      else if (c = ':' && blankFollows rest) || (inFlow && isFlowMark c) then stop
      else plain inFlow indent rest (p.past c) (c :: (gap.folded ++ acc)) {}

def beginsPlain (inFlow : Bool) (c : Char) (rest : List Char) : Bool :=
  if c = '-' then match rest with
    | d :: _ => !isBlank d
    | [] => true
  else if c = '?' || c = ':' then !inFlow && !blankFollows rest
  else !(isBlank c || isFlowMark c ||
    ['#', '&', '*', '!', '|', '>', '\x27', '"', '%', '@', '\x60'].contains c)

structure Candidate where
  place : Nat
  position : Position
  isRequired : Bool

inductive Slot where
  | token (t : Token)
  | place (n : Nat)

structure Scan where
  cursor : Cursor
  slots : List Slot := []
  places : Nat := 0
  filled : List (Nat × List Token) := []
  indents : List Nat := []
  candidates : List (Option Candidate) := [none]
  keyAllowed : Bool := true

namespace Scan

def inFlow (s : Scan) : Bool :=
  1 < s.candidates.length

def column (s : Scan) : Nat :=
  s.cursor.position.column

def emit (t : Token) (s : Scan) : Scan :=
  { s with slots := .token t :: s.slots }

def take (n : Nat) (t : Token) (s : Scan) : Scan :=
  { s.emit t with cursor := s.cursor.skip n }

def allowKey (b : Bool) (s : Scan) : Scan :=
  { s with keyAllowed := b }

def indentTo (column : Nat) (s : Scan) : Option Scan :=
  let deeper := match s.indents with
    | [] => true
    | i :: _ => i < column
  if !s.inFlow && deeper then some { s with indents := column :: s.indents } else none

def unindent (column : Option Nat) (s : Scan) : Scan :=
  if s.inFlow then s
  else
    let deeper (i : Nat) : Bool := column.elim true (· < i)
    { s with
      slots := (s.indents.takeWhile deeper).map (fun _ => .token .closeBlock) ++ s.slots
      indents := s.indents.dropWhile deeper }

/-- A key has to be on one line with its colon, and at most 1024 characters before it. -/
def isStale (p : Position) (c : Candidate) : Bool :=
  c.position.line < p.line || c.position.index + 1024 < p.index

def dropStale (s : Scan) : Option Scan :=
  let stale := s.candidates.filter (·.any (isStale s.cursor.position))
  if stale.any (·.any (·.isRequired)) then none
  else some { s with
    candidates := s.candidates.map (·.filter (fun c => !isStale s.cursor.position c)) }

def dropCandidate (s : Scan) : Option Scan :=
  match s.candidates with
  | some c :: rest => if c.isRequired then none else some { s with candidates := none :: rest }
  | _ => some s

def noteCandidate (s : Scan) : Option Scan :=
  if s.keyAllowed then
    let isRequired := !s.inFlow && s.indents.head? = some s.column
    s.dropCandidate.map (fun s =>
      { s with
        candidates := some ⟨s.places, s.cursor.position, isRequired⟩ :: s.candidates.tail
        slots := .place s.places :: s.slots
        places := s.places + 1 })
  else some s

def beginBlock (t : Token) (s : Scan) : Option Scan :=
  if s.inFlow then some s
  else if s.keyAllowed then some ((s.indentTo s.column).elim s (·.emit t))
  else none

def documentMark (s : Scan) : Option Scan :=
  let t := if s.cursor.rest.head? = some '-' then Token.documentStart else .documentEnd
  ((s.unindent none).dropCandidate).map (fun s => (s.allowKey false).take 3 t)

def openFlow (t : Token) (s : Scan) : Option Scan :=
  s.noteCandidate.map (fun s =>
    ({ s with candidates := none :: s.candidates }.allowKey true).take 1 t)

def closeFlow (t : Token) (s : Scan) : Option Scan :=
  s.dropCandidate.map (fun s =>
    let s := if s.inFlow then { s with candidates := s.candidates.tail } else s
    (s.allowKey false).take 1 t)

def comma (s : Scan) : Option Scan :=
  s.dropCandidate.map (fun s => (s.allowKey true).take 1 .comma)

def item (s : Scan) : Option Scan :=
  match s.beginBlock .openBlockList with
  | none => none
  | some s => s.dropCandidate.map (fun s => (s.allowKey true).take 1 .item)

def key (s : Scan) : Option Scan :=
  match s.beginBlock .openBlockMap with
  | none => none
  | some s => s.dropCandidate.map (fun s => (s.allowKey !s.inFlow).take 1 .key)

def value (s : Scan) : Option Scan :=
  match s.candidates with
  | some c :: rest =>
      let s := { s with candidates := none :: rest }
      let s := match s.indentTo c.position.column with
        | some s => { s with filled := (c.place, [.openBlockMap, .key]) :: s.filled }
        | none => { s with filled := (c.place, [.key]) :: s.filled }
      some ((s.allowKey false).take 1 .value)
  | _ => (s.beginBlock .openBlockMap).map (fun s => (s.allowKey !s.inFlow).take 1 .value)

def quotedScalar (isDouble : Bool) (s : Scan) : Option Scan :=
  match s.noteCandidate with
  | none => none
  | some s =>
      let inside := s.cursor.skip 1
      (quoted isDouble inside.rest inside.position .text [] {}).map (fun (text, cursor) =>
        { (s.allowKey false).emit (.scalar text false) with cursor })

def plainScalar (s : Scan) : Option Scan :=
  match s.noteCandidate with
  | none => none
  | some s =>
      let indent := s.indents.head?.elim 0 (· + 1)
      (plain s.inFlow indent s.cursor.rest s.cursor.position [] {}).map
        (fun (text, cursor, isBroken) =>
          { (s.allowKey isBroken).emit (.scalar text true) with cursor })

def fetch (c : Char) (rest : List Char) (s : Scan) : Option Scan :=
  if c = '%' && s.column = 0 then none
  else if isDocumentMark (c :: rest) s.cursor.position then s.documentMark
  else if c = '[' then s.openFlow .openFlowList
  else if c = '\x7b' then s.openFlow .openFlowMap
  else if c = ']' then s.closeFlow .closeFlowList
  else if c = '\x7d' then s.closeFlow .closeFlowMap
  else if c = ',' then s.comma
  else if c = '-' && blankFollows rest then s.item
  else if c = '?' && (s.inFlow || blankFollows rest) then s.key
  else if c = ':' && (s.inFlow || blankFollows rest) then s.value
  else if c = '\x27' then s.quotedScalar false
  else if c = '"' then s.quotedScalar true
  else if beginsPlain s.inFlow c rest then s.plainScalar
  else none

def advance (s : Scan) : Option Scan :=
  let (cursor, keyAllowed) :=
    skipSpace s.inFlow s.cursor.rest s.cursor.position s.keyAllowed false
  { s with cursor, keyAllowed }.dropStale.map (fun (s : Scan) => s.unindent (some s.column))

def run : Nat → Scan → Option Scan
  | 0, _ => none
  | fuel + 1, s =>
      match s.advance with
      | none => none
      | some s =>
          match s.cursor.rest with
          | [] => (s.unindent none).dropCandidate
          | c :: rest =>
              match s.fetch c rest with
              | none => none
              | some s => run fuel s

def tokens (s : Scan) : List Token :=
  s.slots.reverse.flatMap (fun slot =>
    match slot with
    | .token t => [t]
    | .place n => (s.filled.lookup n).getD [])

end Scan

/-- The tokens of a text; `none` if it cannot be cut into tokens. Anchors, aliases, tags, directives
and block scalars are refused. Each token takes a character at least. -/
def tokens (s : String) : Option (List Token) :=
  if s.toList.all isAllowed then
    let text := plainBreaks s.toList
    let start : Cursor := { rest := text }
    let start := if text.head? = some byteOrderMark then start.skip 1 else start
    (Scan.run (text.length + 1) { cursor := start }).map Scan.tokens
  else none

end StreamTunnel.Config.Yaml
