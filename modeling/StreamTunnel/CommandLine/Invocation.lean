import StreamTunnel.CommandLine.Options
import StreamTunnel.Config.Source

namespace StreamTunnel.CommandLine

inductive Command where
  | host
  | join
deriving DecidableEq, Repr

def Command.role : Command → Role
  | host => .host
  | join => .guest

structure Invocation where
  verbose : Bool
  config : Option String
  command : Command
  options : Reading

namespace Invocation

def helpOption : Spec := { name := .help, long := "help", kind := .help, short := some 'h' }

def everywhere : List Spec :=
  [{ name := .verbose, long := "verbose", kind := .flag, short := some 'v' },
   { name := .config, long := "config", kind := .path, short := some 'c',
     variableName := some "GAMELINK_CONFIG" }]

def common : List Spec :=
  [{ name := .identity, long := "identity", kind := .text,
     variableName := some "GAMELINK_IDENTITY" },
   { name := .dialTimeout, long := "dial-timeout", kind := .natural 64 }]

def ofCommand : Command → List Spec
  | .host =>
      [{ name := .targetPort, long := "target-port", kind := .natural 16,
         variableName := some "GAMELINK_TARGET_PORT" },
       { name := .listen, long := "listen", kind := .socketAddress,
         variableName := some "GAMELINK_LISTEN" }]
  | .join =>
      [{ name := .peer, long := "peer", kind := .text, variableName := some "GAMELINK_PEER" },
       { name := .localPort, long := "local-port", kind := .natural 16,
         variableName := some "GAMELINK_LOCAL_PORT" },
       { name := .bind, long := "bind", kind := .ipAddress,
         variableName := some "GAMELINK_BIND" },
       { name := .single, long := "single", kind := .flag },
       { name := .retries, long := "retries", kind := .natural 32,
         variableName := some "GAMELINK_RETRIES" },
       { name := .connectTimeout, long := "connect-timeout", kind := .natural 64 }]

def beforeCommand : Reading :=
  { options := everywhere ++
      [helpOption, { name := .version, long := "version", kind := .version, short := some 'V' }] }

def behindCommand (c : Command) : Reading :=
  { options := ofCommand c ++ common ++ everywhere ++ [helpOption] }

def commandNames : List String := ["host", "join", "help"]

def helpOn : List String → UsageFault
  | [] => .help
  | [name] => if commandNames.contains name then .help else .unknownCommand
  | _ => .unknownCommand

def ofParts (vars : Variables) (before : Reading) (c : Command) (args : List String) :
    Except UsageFault Invocation :=
  match (behindCommand c).arguments [] args false with
  | .error e => .error e
  | .ok (behind, _) =>
      match behind.finish vars with
      | .error e => .error e
      | .ok behind =>
          match before.finish vars with
          | .error e => .error e
          | .ok before =>
              let config := match behind.given.lookup .config, before.given.lookup .config with
                | some (.text s), _ => some s
                | _, some (.text s) => some s
                | _, _ => behind.text? .config
              .ok {
                verbose := before.isGiven .verbose || behind.isGiven .verbose
                config
                command := c
                options := behind }

def parse (args : List String) (vars : Variables) : Except UsageFault Invocation :=
  match beforeCommand.arguments commandNames args false with
  | .error e => .error e
  | .ok (before, some ("host", rest)) => ofParts vars before .host rest
  | .ok (before, some ("join", rest)) => ofParts vars before .join rest
  | .ok (_, some (_, rest)) => .error (helpOn rest)
  | .ok (before, none) =>
      match before.finish vars with
      | .error e => .error e
      | .ok r =>
          if r.given.isEmpty && r.inherited.isEmpty then .error .nothingGiven
          else .error .missingCommand

def apply (i : Invocation) (s : Settings) : Settings :=
  let o := i.options
  { s with
    role := i.command.role
    targetPort := (o.natural? .targetPort).or s.targetPort
    listenAddress := (o.socketAddress? .listen).getD s.listenAddress
    peer := (o.text? .peer).or s.peer
    localPort := (o.natural? .localPort).getD s.localPort
    localAddress := (o.ipAddress? .bind).getD s.localAddress
    acceptMode := if o.isGiven .single then .single else s.acceptMode
    retryBudget := (o.natural? .retries).getD s.retryBudget
    connectTimeout := (o.natural? .connectTimeout).elim s.connectTimeout .ofSecs
    identity := (o.text? .identity).getD s.identity
    dialTimeout := (o.natural? .dialTimeout).elim s.dialTimeout .ofMillis }

end Invocation

inductive StartFault where
  | load (path : String) (e : Config.LoadFault)
  | unusable (e : SettingsFault)
deriving DecidableEq, Repr

def StartFault.message : StartFault → String
  | load path _ => "Failed to load config from " ++ path
  | unusable _ => "Invalid configuration"

/-- The settings of an invocation. The function gives the content of a file, or the system's words
for why it cannot be read. -/
def Invocation.settings (contentOf : String → Except String Bytes) (defaults : Settings)
    (i : Invocation) : Except StartFault Settings :=
  let base : Except StartFault Settings := match i.config with
    | none => .ok defaults
    | some path =>
        match Config.load path (contentOf path) defaults with
        | .ok s => .ok s
        | .error e => .error (.load path e)
  match base with
  | .error e => .error e
  | .ok s =>
      let s := i.apply s
      match s.fault with
      | some e => .error (.unusable e)
      | none => .ok s

end StreamTunnel.CommandLine
