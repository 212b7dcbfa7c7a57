import ReverseProxy.Config.Load
import ReverseProxy.Gateway.Build
import ReverseProxy.Text.Parts

/-! # The command line

`--config FILE` names the configuration and `--listener NAME` one of its listeners. The command shows what
that listener serves, or why it cannot.
-/

namespace ReverseProxy.CommandLine

structure Options where
  config : Option String := none
  listener : Option String := none

def Options.read (options : Options) : List String → Except String Options
  | [] => .ok options
  | [option] => .error ("unexpected argument '" ++ option ++ "'")
  | option :: value :: rest =>
    if option = "--config" ∨ option = "-c" then { options with config := some value }.read rest
    else if option = "--listener" ∨ option = "-l" then { options with listener := some value }.read rest
    else .error ("unexpected argument '" ++ option ++ "'")

/-- The listener that is asked for, or else the first one. -/
def listenerName (options : Options) (config : Config) : Except String String :=
  match options.listener, config.listeners with
  | some name, _ => .ok name
  | none, first :: _ => .ok first.name
  | none, [] => .error "configuration defines no listeners"

/-- One line for the listener and one for each group of its routes. -/
def describe (gateway : Gateway) : List String :=
  (gateway.listener.name ++ " on " ++ gateway.listener.bindAddress) ::
    gateway.table.groups.map fun group =>
      group.uri ++ " " ++ String.intercalate ", " (group.routes.map (·.name))

/-- The last part of a path. -/
def fileName (path : String) : String := String.ofList ((Parts.split '/' path.toList).getLastD [])

/-- What the command says about a file. -/
def run (options : Options) (path : String) (file : File) (env : Locality.Surroundings) :
    Except String (List String) := do
  let config ← (Config.load (fileName path) file).mapError (·.message)
  let listener ← listenerName options config
  let extensions ← Extensions.builtin.mapError (·.message)
  let hostname := Locality.hostname config.locality.hostname env
  let gateway ← (Gateway.build { config, extensions, hostname } listener).mapError (·.message)
  return describe gateway

def fileAt (path : String) : IO File := do
  try
    return .bytes (← IO.FS.readBinFile path).toList
  catch _ => return .absent

def textAt (path : String) : IO (Option String) := do
  try
    return some (← IO.FS.readFile path)
  catch _ => return none

def surroundings : IO Locality.Surroundings := do
  return {
    gatewayName := ← IO.getEnv "GATEWAY_HOSTNAME"
    hostName := ← IO.getEnv "HOSTNAME"
    kernelFile := ← textAt "/proc/sys/kernel/hostname"
    systemFile := ← textAt "/etc/hostname" }

end ReverseProxy.CommandLine

open ReverseProxy

def main (args : List String) : IO UInt32 := do
  match CommandLine.Options.read {} args with
  | .error message =>
    IO.eprintln message
    return 2
  | .ok options =>
    match options.config with
    | none =>
      IO.eprintln "--config is required"
      return 2
    | some path =>
      match CommandLine.run options path (← CommandLine.fileAt path) (← CommandLine.surroundings) with
      | .ok lines =>
        lines.forM IO.println
        return 0
      | .error message =>
        IO.eprintln message
        return 1
