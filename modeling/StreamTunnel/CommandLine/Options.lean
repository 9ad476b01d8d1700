import StreamTunnel.Net.Address

namespace StreamTunnel.CommandLine

inductive UsageFault where
  | unknownArgument
  | badValue
  | noValue
  | repeated
  | unknownCommand
  | missingCommand
  | tooManyValues
  | help
  | version
  | nothingGiven
deriving DecidableEq, Repr

def UsageFault.exitCode : UsageFault → Nat
  | help | version => 0
  | _ => 2

inductive OptionName where
  | verbose
  | config
  | targetPort
  | listen
  | identity
  | dialTimeout
  | peer
  | localPort
  | bind
  | single
  | retries
  | connectTimeout
  | help
  | version
deriving DecidableEq, Repr

inductive Value where
  | present
  | text (s : String)
  | natural (n : Nat)
  | socketAddress (a : SocketAddress)
  | ipAddress (a : IpAddress)
deriving DecidableEq, Repr

inductive Kind where
  | flag
  | help
  | version
  | text
  | path
  | natural (bits : Nat)
  | socketAddress
  | ipAddress
deriving DecidableEq, Repr

namespace Kind

def takesValue : Kind → Bool
  | flag | help | version => false
  | _ => true

/-- A number of at most so many bits. It may have a plus sign; in fewer than 64 bits zero may have a
minus sign. -/
def natural? (bits : Nat) (s : String) : Option Nat :=
  let value := match s.toList with
    | '+' :: rest => Address.whole? 10 rest
    | '-' :: rest => if bits < 64 then (Address.whole? 10 rest).filter (· = 0) else none
    | rest => Address.whole? 10 rest
  value.filter (· < 1 <<< bits)

def read (s : String) : Kind → Except UsageFault Value
  | flag | help | version => .error .tooManyValues
  | text => .ok (.text s)
  | path => if s = "" then .error .noValue else .ok (.text s)
  | natural bits => ((natural? bits s).map .natural).elim (.error .badValue) .ok
  | socketAddress => ((SocketAddress.parse s).map .socketAddress).elim (.error .badValue) .ok
  | ipAddress => ((IpAddress.parse s).map .ipAddress).elim (.error .badValue) .ok

end Kind

structure Spec where
  name : OptionName
  long : String
  kind : Kind
  short : Option Char := none
  variableName : Option String := none
deriving DecidableEq, Repr

structure Reading where
  options : List Spec
  given : List (OptionName × Value) := []
  inherited : List (OptionName × Value) := []
  pending : Option (Spec × Option String) := none
deriving Repr

abbrev Variables := List (String × String)

namespace Reading

def isAwaiting (r : Reading) : Bool :=
  match r.pending with
  | some (_, none) => true
  | _ => false

def isGiven (n : OptionName) (r : Reading) : Bool :=
  (r.given.lookup n).isSome

def set (spec : Spec) (v : String) (r : Reading) : Except UsageFault Reading :=
  if r.isGiven spec.name then .error .repeated
  else match spec.kind.read v with
    | .error e => .error e
    | .ok value => .ok { r with given := (spec.name, value) :: r.given }

def resolve (r : Reading) : Except UsageFault Reading :=
  match r.pending with
  | none => .ok r
  | some (_, none) => .error .noValue
  | some (spec, some v) => { r with pending := none }.set spec v

def flag (spec : Spec) (r : Reading) : Except UsageFault Reading :=
  match r.resolve with
  | .error e => .error e
  | .ok r =>
      match spec.kind with
      | .help => .error .help
      | .version => .error .version
      | _ =>
          if r.isGiven spec.name then .error .repeated
          else .ok { r with given := (spec.name, .present) :: r.given }

def valued (spec : Spec) (attached : Option String) (r : Reading) : Except UsageFault Reading :=
  match r.resolve with
  | .error e => .error e
  | .ok r =>
      match attached with
      | some v => r.set spec v
      | none => .ok { r with pending := some (spec, none) }

def long (name : String) (attached : Option String) (r : Reading) : Except UsageFault Reading :=
  match r.options.find? (·.long = name) with
  | none => .error .unknownArgument
  | some spec =>
      if spec.kind.takesValue then r.valued spec attached
      else if attached.isSome then .error .tooManyValues
      else r.flag spec

/-- A cluster of short names. The first one that takes a value takes all that is behind it. -/
def short : List Char → Reading → Except UsageFault Reading
  | [], r => .ok r
  | c :: rest, r =>
      match r.options.find? (·.short = some c) with
      | none => .error .unknownArgument
      | some spec =>
          if spec.kind.takesValue then
            match rest with
            | [] => r.valued spec none
            | '=' :: v => r.valued spec (some (String.ofList v))
            | v => r.valued spec (some (String.ofList v))
          else
            match r.flag spec with
            | .error e => .error e
            | .ok r => short rest r

def inherit (vars : Variables) (r : Reading) : Except UsageFault Reading :=
  r.options.foldl
    (fun r spec => match r with
      | .error e => .error e
      | .ok r =>
          match spec.variableName.bind (vars.lookup ·) with
          | none => .ok r
          | some v =>
              if r.isGiven spec.name then .ok r
              else match spec.kind.read v with
                | .error e => .error e
                | .ok value => .ok { r with inherited := (spec.name, value) :: r.inherited })
    (.ok r)

def finish (vars : Variables) (r : Reading) : Except UsageFault Reading :=
  match r.resolve with
  | .error e => .error e
  | .ok r => r.inherit vars

def value? (n : OptionName) (r : Reading) : Option Value :=
  (r.given.lookup n).or (r.inherited.lookup n)

def text? (n : OptionName) (r : Reading) : Option String :=
  match r.value? n with
  | some (.text s) => some s
  | _ => none

def natural? (n : OptionName) (r : Reading) : Option Nat :=
  match r.value? n with
  | some (.natural v) => some v
  | _ => none

def socketAddress? (n : OptionName) (r : Reading) : Option SocketAddress :=
  match r.value? n with
  | some (.socketAddress a) => some a
  | _ => none

def ipAddress? (n : OptionName) (r : Reading) : Option IpAddress :=
  match r.value? n with
  | some (.ipAddress a) => some a
  | _ => none

def stray (commands : List String) (isTrailing : Bool) (a : String) : UsageFault :=
  if commands.isEmpty || (isTrailing && commands.contains a) then .unknownArgument
  else .unknownCommand

def splitLong (name : List Char) : String × Option String :=
  match name.dropWhile (· ≠ '=') with
  | [] => (String.ofList name, none)
  | _ :: v => (String.ofList (name.takeWhile (· ≠ '=')), some (String.ofList v))

/-- Reads arguments up to a command, if one comes. Behind two dashes there are no options. -/
def arguments (commands : List String) : List String → Bool → Reading →
    Except UsageFault (Reading × Option (String × List String))
  | [], _, r => .ok (r, none)
  | a :: rest, isTrailing, r =>
      if isTrailing then .error (stray commands true a)
      else if !r.isAwaiting && commands.contains a then .ok (r, some (a, rest))
      else
        let next (r : Except UsageFault Reading) :
            Except UsageFault (Reading × Option (String × List String)) :=
          match r with
          | .error e => .error e
          | .ok r => arguments commands rest false r
        match a.toList with
        | ['-', '-'] => arguments commands rest true r
        | '-' :: '-' :: name => let (name, v) := splitLong name; next (r.long name v)
        | '-' :: c :: cluster => next (r.short (c :: cluster))
        | _ =>
            match r.pending with
            | some (spec, none) =>
                arguments commands rest false { r with pending := some (spec, some a) }
            | _ => .error (stray commands false a)

end Reading
end StreamTunnel.CommandLine
