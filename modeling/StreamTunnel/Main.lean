import StreamTunnel.Program

namespace StreamTunnel

open CommandLine

def variableNames : List String :=
  let specs := Invocation.everywhere ++ Invocation.common ++ Invocation.ofCommand .host ++
    Invocation.ofCommand .join
  specs.filterMap (·.variableName)

def readVariables : IO Variables := do
  let found ← variableNames.mapM fun name => do return (← IO.getEnv name).map (name, ·)
  return found.filterMap id

def systemWords : IO.Error → String
  | .noFileOrDirectory .. => Config.noSuchFile
  | .permissionDenied .. => "Permission denied (os error 13)"
  | .inappropriateType .. => "Is a directory (os error 21)"
  | e => toString e

def readContent (path : String) : IO (Except String Bytes) := do
  try return .ok (← IO.FS.readBinFile path).toList
  catch e => return .error (systemWords e)

def settingsFile (args : List String) (vars : Variables) : Option String :=
  match Invocation.parse args vars with
  | .ok i => i.config
  | .error _ => none

def observe (args : List String) : IO Surroundings := do
  let vars ← readVariables
  let content ← match settingsFile args vars with
    | some path => readContent path
    | none => pure (.error Config.noSuchFile)
  return { vars, contentOf := fun _ => content, random := (← IO.getRandomBytes 16).toList }

end StreamTunnel

/-- No sockets are opened: the network is one in which nobody listens. -/
def main (args : List String) : IO UInt32 := do
  let outcome := StreamTunnel.Program.run (← StreamTunnel.observe args) args
  IO.print outcome.output
  IO.eprint outcome.errors
  return UInt32.ofNat outcome.code
