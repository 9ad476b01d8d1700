import StreamTunnel.CommandLine.Invocation
import StreamTunnel.Tunnel.End

namespace StreamTunnel

def ChannelError.causes : ChannelError → List String
  | io detail => [detail]
  | _ => []

def LinkError.causes : LinkError → List String
  | channel e => e.message :: e.causes
  | _ => []

def TunnelError.causes : TunnelError → List String
  | link e => e.message :: e.causes
  | entrance address detail => [entranceFault address detail, detail]
  | linkLost _ | alreadyRunning => []

def Config.LoadFault.causes : Config.LoadFault → List String
  | unreadable detail => [detail]
  | _ => []

namespace CommandLine

def StartFault.causes : StartFault → List String
  | load _ e => e.message :: e.causes
  | unusable e => [e.message]

def UsageFault.message : UsageFault → String
  | unknownArgument => "unexpected argument"
  | badValue => "invalid value"
  | noValue => "an option lacks its value"
  | repeated => "an option is given twice"
  | unknownCommand => "unknown command"
  | missingCommand => "a command is missing"
  | tooManyValues => "an option takes no value"
  | help | version | nothingGiven => ""

def Spec.usage (s : Spec) : String :=
  "  " ++ s.short.elim "" (fun c => "-" ++ c.toString ++ ", ") ++ "--" ++ s.long ++
    (if s.kind.takesValue then " VALUE" else "") ++
    s.variableName.elim "" (" (" ++ · ++ ")") ++ "\n"

def usage : String :=
  let options (command : String) (specs : List Spec) :=
    command ++ ":\n" ++ String.join (specs.map Spec.usage)
  options "everywhere" (Invocation.everywhere ++ [Invocation.helpOption]) ++
    options "host" (Invocation.ofCommand .host ++ Invocation.common) ++
    options "join" (Invocation.ofCommand .join ++ Invocation.common)

structure Report where
  message : String
  causes : List String := []
deriving DecidableEq, Repr

namespace Report

def numbered (i : Nat) (line : String) : String :=
  let n := Nat.repr i
  String.ofList (List.replicate (5 - n.length) ' ') ++ n ++ ": " ++ line

def causeLines : List String → List String
  | [] => []
  | [cause] => ["", "Caused by:", "    " ++ cause]
  | causes => ["", "Caused by:"] ++ causes.zipIdx.map (fun (cause, i) => numbered i cause)

def toString (r : Report) : String :=
  String.join ((("Error: " ++ r.message) :: causeLines r.causes).map (· ++ "\n"))

end Report

def StartFault.report (e : StartFault) : Report :=
  { message := e.message, causes := e.causes }

end CommandLine

def TunnelError.report (e : TunnelError) : CommandLine.Report :=
  { message := e.message, causes := e.causes }

end StreamTunnel
