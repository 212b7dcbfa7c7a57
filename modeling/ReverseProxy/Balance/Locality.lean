import ReverseProxy.Text.Ascii
import ReverseProxy.Text.Blank

/-! # Which hosts are this machine -/

namespace ReverseProxy.Locality

/-- A text that is not empty, followed by a dot, begins the other one. -/
def isDottedPrefix (short long : List Char) : Bool := !short.isEmpty && (short ++ ['.']).isPrefixOf long

/-- The host is `localhost`, or one of the two names is the other without some labels at its end. -/
def isLocal (host this : String) : Bool :=
  let host := Ascii.lower host
  let this := Ascii.lower this
  host = "localhost" || host = this || isDottedPrefix host.toList this.toList ||
    isDottedPrefix this.toList host.toList

/-- Where the name of this machine may be found besides the configuration: two variables, and the files of the
kernel and of the system. Each may be missing. -/
structure Surroundings where
  gatewayName : Option String := none
  hostName : Option String := none
  kernelFile : Option String := none
  systemFile : Option String := none

/-- A text counts if something is left of it without its blanks. -/
def usable? (value : Option String) : Option String :=
  match value with
  | some text => if Blank.trim text = "" then none else some (Blank.trim text)
  | none => none

def Surroundings.name? (env : Surroundings) : Option String :=
  [env.gatewayName, env.hostName, env.kernelFile, env.systemFile].findSome? usable?

/-- The configured name if it is not empty, or else the first one that the surroundings say. -/
def hostname (configured : Option String) (env : Surroundings) : String :=
  match configured with
  | some name => if name = "" then found else name
  | none => found
where
  found : String := env.name?.getD "localhost"

end ReverseProxy.Locality
