import ReverseProxy.Http.Authority
import ReverseProxy.Text.Ascii

/-! # URIs of requests -/

namespace ReverseProxy

/-- A path and a query. Both are kept as they are written. -/
structure Target where
  path : String
  query : Option String := none
deriving DecidableEq, Repr

namespace Target

def root : Target := ⟨"/", none⟩

def print (t : Target) : String :=
  match t.query with
  | none => t.path
  | some query => t.path ++ "?" ++ query

/-- What may stand in a path. -/
def isPathChar (c : Char) : Bool :=
  0x7F ≤ c.toNat || ('!' ≤ c && c ≤ '~' && !(c ∈ ['#', '<', '>', '?', '\x60']))

/-- What may stand in a query. -/
def isQueryChar (c : Char) : Bool :=
  0x7F ≤ c.toNat || ('!' ≤ c && c ≤ '~' && !(c ∈ ['"', '#', '<', '>']))

/-- The text up to a fragment. -/
def dropFragment (text : List Char) : List Char := text.takeWhile (· ≠ '#')

/-- A path, and a query if there is a question mark. -/
def ofList? (text : List Char) : Option Target :=
  let path := text.takeWhile (· ≠ '?')
  if !path.all isPathChar then none
  else
    match text.dropWhile (· ≠ '?') with
    | [] => some ⟨String.ofList path, none⟩
    | _ :: query =>
      if query.all isQueryChar then some ⟨String.ofList path, some (String.ofList query)⟩ else none

end Target

/-- What a request asks for. -/
inductive Uri where
  /-- A path on the server that is asked, or `*`. -/
  | relative (target : Target)
  | absolute (scheme : String) (authority : Authority) (target : Target)
  /-- A host and a port and nothing else. -/
  | site (authority : Authority)
deriving DecidableEq

namespace Uri

/-- The path. A URI that is only an authority has none. -/
def path : Uri → String
  | relative target => target.path
  | absolute _ _ target => target.path
  | site _ => ""

def target? : Uri → Option Target
  | relative target => some target
  | absolute _ _ target => some target
  | site _ => none

def authority? : Uri → Option Authority
  | relative _ => none
  | absolute _ authority _ => some authority
  | site authority => some authority

def print : Uri → String
  | relative target => target.print
  | absolute scheme authority target => scheme ++ "://" ++ authority.text ++ target.print
  | site authority => authority.text

/-! ## Reading -/

def isSchemeChar (c : Char) : Bool := c.isAlphanum || c ∈ ['+', '-', '.', '~']

/-- A scheme and what follows `://`. The schemes of the web are written small. -/
def splitScheme? (text : List Char) : Option (String × List Char) :=
  match text.dropWhile isSchemeChar with
  | ':' :: '/' :: '/' :: rest =>
    let scheme := String.ofList (text.takeWhile isSchemeChar)
    if 64 < scheme.length then none
    else if Ascii.lower scheme ∈ ["http", "https"] then some (Ascii.lower scheme, rest)
    else some (scheme, rest)
  | _ => none

/-- A path below an authority is never empty. -/
def rooted (t : Target) : Target := if t.path = "" then { t with path := "/" } else t

def endsAuthority (c : Char) : Bool := c ∈ ['/', '?', '#']

def ofAbsolute? (scheme : String) (rest : List Char) : Option Uri := do
  let authority ← Authority.ofText? (String.ofList (rest.takeWhile (!endsAuthority ·)))
  let target ← Target.ofList? (Target.dropFragment (rest.dropWhile (!endsAuthority ·)))
  return absolute scheme authority (rooted target)

def ofText? (text : String) : Option Uri :=
  let chars := text.toList
  if 65534 < text.utf8ByteSize then none
  else
    match chars with
    | '/' :: _ => relative <$> Target.ofList? (Target.dropFragment chars)
    | ['*'] => some (relative ⟨"*", none⟩)
    | _ =>
      match splitScheme? chars with
      | some (scheme, rest) => ofAbsolute? scheme rest
      | none => site <$> Authority.ofText? text

/-! ## Forwarding -/

/-- The URI at another authority. What it asks for there stays the same, or is `/` if it asks for nothing. -/
def aimedAt (uri : Uri) (authority : Authority) : Uri :=
  absolute "http" authority (uri.target?.getD .root)

end Uri

end ReverseProxy
