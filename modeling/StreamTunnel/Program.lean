import StreamTunnel.CommandLine.Report
import StreamTunnel.Tunnel.Pair

namespace StreamTunnel

def IpAddress.isOwn : IpAddress → Bool
  | v4 parts => parts.head? = some 127 || parts.all (· = 0)
  | v6 groups => groups.dropLast.all (· = 0) && groups.getLast?.any (· ≤ 1)

def IpAddress.isUnspecified : IpAddress → Bool
  | v4 parts => parts.all (· = 0)
  | v6 groups => groups.all (· = 0)

/-- Two sockets cannot listen on both addresses. A port that the system chooses is always free. -/
def SocketAddress.collides (a b : SocketAddress) : Bool :=
  a.port = b.port && a.port ≠ 0 && (a.ip = b.ip || a.ip.isUnspecified || b.ip.isUnspecified)

structure Surroundings where
  vars : CommandLine.Variables := []
  contentOf : String → Except String Bytes
  network : Network := {}
  taken : List SocketAddress := []
  random : Bytes := List.replicate 16 0

def inUse : String := "Address already in use (os error 98)"

def Surroundings.bindFault (s : Surroundings) (a : SocketAddress) : Option String :=
  if !a.ip.isOwn then some "Cannot assign requested address (os error 99)"
  else if s.taken.any a.collides then some inUse
  else none

structure Outcome where
  code : Nat
  output : String := ""
  errors : String := ""
deriving DecidableEq, Repr

namespace Outcome

def failure (r : CommandLine.Report) : Outcome :=
  { code := 1, errors := r.toString }

def ofUsage (e : CommandLine.UsageFault) : Outcome :=
  match e with
  | .help => { code := e.exitCode, output := CommandLine.usage }
  | .version => { code := e.exitCode, output := "1.0.0\n" }
  | .nothingGiven => { code := e.exitCode, errors := CommandLine.usage }
  | _ => { code := e.exitCode, errors := "error: " ++ e.message ++ "\n" }

end Outcome

namespace Program

def runEnd (around : Surroundings) (e : TunnelEnd Endpoint) : TunnelEnd Endpoint :=
  let e := { e.onEndpoint ({ · with bindFault := around.bindFault e.settings.listenAddress }) with
    bindFault := around.bindFault e.settings.entrance }
  e.run.2.settleAlone around.network

/-- Runs a tunnel with settings, and interrupts it if it does not end. -/
def runTunnel (around : Surroundings) (s : Settings) : Outcome :=
  match TunnelEnd.create s (fun usable => ({ settings := s.endpoint usable } : Endpoint)) with
  | .error e => .failure (CommandLine.StartFault.unusable e).report
  | .ok e =>
      match (runEnd around e).stop.status with
      | .failed err => .failure err.report
      | _ => { code := 0 }

def run (around : Surroundings) (args : List String) : Outcome :=
  match CommandLine.Invocation.parse args around.vars with
  | .error e => .ofUsage e
  | .ok i =>
      match i.settings around.contentOf { identity := Identity.generated around.random } with
      | .error e => .failure e.report
      | .ok s => runTunnel around s

end Program
end StreamTunnel
