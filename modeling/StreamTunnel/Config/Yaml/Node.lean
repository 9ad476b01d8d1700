import StreamTunnel.Config.Yaml.Token

namespace StreamTunnel.Config.Yaml

inductive Node where
  | scalar (text : String) (isPlain : Bool)
  | list (items : List Node)
  | map (entries : List (Node × Node))

namespace Node

def empty : Node := .scalar "" true

inductive Shape where
  | blockList
  | openList
  | blockMap
  | flowList
  | flowMap
  | pair

structure Frame where
  shape : Shape
  items : List Node := []
  entries : List (Node × Node) := []
  key : Option Node := none
  isBare : Bool := false
  isFresh : Bool := true

inductive Action where
  | keep (f : Frame)
  | read (block mayBeOpen : Bool) (f : Frame)
  | enter (inner f : Frame)
  | finish (n : Node)

def follows (p : Token → Bool) (ts : List Token) : Bool :=
  ts.head?.any p

namespace Frame

def accept (n : Node) (f : Frame) : Frame :=
  match f.shape with
  | .blockList | .openList | .flowList => { f with items := n :: f.items, isFresh := false }
  | .blockMap | .flowMap | .pair =>
      match f.key with
      | some k => { f with entries := (k, n) :: f.entries, key := none, isFresh := false }
      | none =>
          if f.isBare then
            { f with entries := (n, Node.empty) :: f.entries, isBare := false, isFresh := false }
          else { f with key := some n, isFresh := false }

def node (f : Frame) : Node :=
  match f.shape with
  | .blockList | .openList | .flowList => .list f.items.reverse
  | .blockMap | .flowMap | .pair => .map f.entries.reverse

def readUnless (omitted : Token → Bool) (block mayBeOpen : Bool) (f : Frame) (ts : List Token) :
    Action × List Token :=
  if follows omitted ts then (.keep (f.accept Node.empty), ts)
  else (.read block mayBeOpen f, ts)

def readValue (omitted : Token → Bool) (block : Bool) (f : Frame) (ts : List Token) :
    Action × List Token :=
  match ts with
  | .value :: ts => f.readUnless omitted block block ts
  | _ => (.keep (f.accept Node.empty), ts)

def endsItem (t : Token) : Bool :=
  t = .item || t = .closeBlock

def endsOpenItem (t : Token) : Bool :=
  t = .item || t = .key || t = .value || t = .closeBlock

def endsBlockEntry (t : Token) : Bool :=
  t = .key || t = .value || t = .closeBlock

def endsFlowKey (close t : Token) : Bool :=
  t = .value || t = .comma || t = close

def endsFlowValue (close t : Token) : Bool :=
  t = .comma || t = close

def afterComma (f : Frame) (ts : List Token) : Option (List Token) :=
  if f.isFresh then some ts
  else match ts with
    | .comma :: ts => some ts
    | _ => none

def nextInFlowList (f : Frame) (ts : List Token) : Option (Action × List Token) :=
  match ts with
  | .closeFlowList :: ts => some (.finish f.node, ts)
  | _ =>
      match f.afterComma ts with
      | none => none
      | some (.closeFlowList :: ts) => some (.finish f.node, ts)
      | some (.key :: ts) => some (.enter { shape := .pair } f, ts)
      | some ts => some (.read false false f, ts)

def nextInFlowMap (f : Frame) (ts : List Token) : Option (Action × List Token) :=
  if f.key.isSome then some (f.readValue (endsFlowValue .closeFlowMap) false ts)
  else match ts with
    | .closeFlowMap :: ts => some (.finish f.node, ts)
    | _ =>
        match f.afterComma ts with
        | none => none
        | some (.closeFlowMap :: ts) => some (.finish f.node, ts)
        | some (.key :: ts) => some (f.readUnless (endsFlowKey .closeFlowMap) false false ts)
        | some ts => some (.read false false { f with isBare := true }, ts)

def next (f : Frame) (ts : List Token) : Option (Action × List Token) :=
  match f.shape with
  | .blockList =>
      match ts with
      | .item :: ts => some (f.readUnless endsItem true false ts)
      | .closeBlock :: ts => some (.finish f.node, ts)
      | _ => none
  | .openList =>
      match ts with
      | .item :: ts => some (f.readUnless endsOpenItem true false ts)
      | _ => some (.finish f.node, ts)
  | .blockMap =>
      if f.key.isSome then some (f.readValue endsBlockEntry true ts)
      else match ts with
        | .key :: ts => some (f.readUnless endsBlockEntry true true ts)
        | .closeBlock :: ts => some (.finish f.node, ts)
        | _ => none
  | .flowList => f.nextInFlowList ts
  | .flowMap => f.nextInFlowMap ts
  | .pair =>
      if f.key.isSome then some (f.readValue (endsFlowValue .closeFlowList) false ts)
      else if f.isFresh then some (f.readUnless (endsFlowKey .closeFlowList) false false ts)
      else some (.finish f.node, ts)

end Frame

def begin? (block mayBeOpen : Bool) (ts : List Token) : Option ((Node ⊕ Frame) × List Token) :=
  match ts with
  | .scalar text isPlain :: ts => some (.inl (.scalar text isPlain), ts)
  | .openFlowList :: ts => some (.inr { shape := .flowList }, ts)
  | .openFlowMap :: ts => some (.inr { shape := .flowMap }, ts)
  | .openBlockList :: ts => if block then some (.inr { shape := .blockList }, ts) else none
  | .openBlockMap :: ts => if block then some (.inr { shape := .blockMap }, ts) else none
  | .item :: _ => if mayBeOpen then some (.inr { shape := .openList }, ts) else none
  | _ => none

def run : Nat → Frame → List Frame → List Token → Option (Node × List Token)
  | 0, _, _, _ => none
  | fuel + 1, f, around, ts =>
      match f.next ts with
      | none => none
      | some (.keep f, ts) => run fuel f around ts
      | some (.enter inner f, ts) => run fuel inner (f :: around) ts
      | some (.read block mayBeOpen f, ts) =>
          match begin? block mayBeOpen ts with
          | none => none
          | some (.inl n, ts) => run fuel (f.accept n) around ts
          | some (.inr inner, ts) => run fuel inner (f :: around) ts
      | some (.finish n, ts) =>
          match around with
          | [] => some (n, ts)
          | f :: around => run fuel (f.accept n) around ts

/-- Reads a whole node. A token is good for four steps at most: two that read it as a key or a
value, one for a value left out, and one that ends a collection. -/
def read (ts : List Token) : Option (Node × List Token) :=
  match begin? true false ts with
  | none => none
  | some (.inl n, ts) => some (n, ts)
  | some (.inr f, ts) => run (4 * ts.length + 4) f [] ts

def isOver (ts : List Token) : Bool :=
  ts.all (· = .documentEnd)

def readMarked (ts : List Token) : Option (Node × List Token) :=
  match ts with
  | [] | .documentStart :: _ | .documentEnd :: _ => some (empty, ts)
  | _ => read ts

def ofTokens? (ts : List Token) : Option Node :=
  let document := match ts with
    | [] => some (empty, [])
    | .documentStart :: ts => readMarked ts
    | _ => read ts
  match document with
  | some (n, rest) => if isOver rest then some n else none
  | none => none

/-- The node of a text; `none` if the text is not well formed or has a second document. A text that
holds nothing is an empty plain scalar. -/
def parse (s : String) : Option Node :=
  match tokens s with
  | some ts => ofTokens? ts
  | none => none

end Node
end StreamTunnel.Config.Yaml
