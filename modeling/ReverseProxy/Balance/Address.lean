/-! # Addresses of endpoints -/

namespace ReverseProxy

/-- Why a balancer cannot be built or asked. -/
inductive BalanceError where
  | emptyBackendName
  | noServers (backend : String)
  | noHealthyEndpoint (backend : String)
  | unknownEndpoint (backend address : String)
  | invalidAddress (text : String)
deriving DecidableEq, Repr

def BalanceError.message : BalanceError → String
  | emptyBackendName => "backend name must not be empty"
  | noServers backend => "backend '" ++ backend ++ "' has no servers"
  | noHealthyEndpoint backend => "no healthy endpoint available for backend '" ++ backend ++ "'"
  | unknownEndpoint backend address => "backend '" ++ backend ++ "' has no endpoint '" ++ address ++ "'"
  | invalidAddress text => "invalid endpoint address '" ++ text ++ "' (expected host:port)"

/-- A host and a port. The host of an address in brackets is what stands between them. -/
structure Address where
  host : String
  port : UInt16
deriving DecidableEq, Repr

namespace Address

/-- The text before the last mark and the text after it. -/
def splitAtLast (mark : Char) : List Char → Option (List Char × List Char)
  | [] => none
  | c :: rest =>
    match splitAtLast mark rest with
    | some (before, after) => some (c :: before, after)
    | none => if c = mark then some ([], rest) else none

/-- Drops a bracket on each side, if there is one on both. -/
def unbracket (host : List Char) : List Char :=
  match host with
  | '[' :: inner => if inner.getLast? = some ']' then inner.dropLast else host
  | _ => host

/-- The number that decimal digits write. -/
def decimalValue (digits : List Char) : Nat :=
  digits.foldl (fun n c => n * 10 + (c.toNat - '0'.toNat)) 0

/-- A plus sign says nothing. -/
def dropPlus : List Char → List Char
  | '+' :: digits => digits
  | digits => digits

/-- A port is one decimal digit or more, with or without a plus sign, of a value below 65536. -/
def readPort? (text : List Char) : Option UInt16 :=
  let digits := dropPlus text
  if digits ≠ [] ∧ digits.all Char.isDigit ∧ decimalValue digits < 65536 then
    some (UInt16.ofNat (decimalValue digits))
  else none

/-- The host and the port of a text `host:port`. A host with a colon must stand in brackets. -/
def ofList? (text : List Char) : Option Address :=
  match splitAtLast ':' text with
  | none => none
  | some (before, after) =>
    let host := unbracket before
    if host = [] ∨ (':' ∈ host ∧ text.head? ≠ some '[') then none
    else (readPort? after).map fun port => ⟨String.ofList host, port⟩

def parse (text : String) : Except BalanceError Address :=
  match ofList? text.toList with
  | some address => .ok address
  | none => .error (.invalidAddress text)

/-- The text is a host and a port. -/
def isValid (text : String) : Bool := (ofList? text.toList).isSome

end Address

end ReverseProxy
