import ReverseProxy.Config.Schema
import ReverseProxy.Text.Parts
import ReverseProxy.Url.Host

/-! # URLs to fetch -/

namespace ReverseProxy

/-- A URL with the scheme `http`. All texts are as they are written. -/
structure Url where
  /-- User and password, with the `@` behind them, or nothing. -/
  user : List Char
  host : List Char
  /-- No port is port 80. -/
  port : Option Nat
  path : List Char
  query : Option (List Char)
  fragment : Option (List Char)
deriving DecidableEq, Repr

namespace Url

def print (url : Url) : String :=
  String.ofList <|
    "http://".toList ++ url.user ++ url.host ++
      (url.port.map fun port => ':' :: (toString port).toList).getD [] ++ url.path ++
      (url.query.map ('?' :: ·)).getD [] ++ (url.fragment.map ('#' :: ·)).getD []

/-! ## The parts of a text -/

def isSlash (c : Char) : Bool := c = '/' || c = '\\'

/-- The text without tabs and line ends, and without what is invisible at its end. -/
def clean (text : List Char) : List Char :=
  (text.reverse.dropWhile (·.toNat ≤ 0x20)).reverse.filter (· ∉ ['\t', '\n', '\r'])

def endsAuthority (c : Char) : Bool := isSlash c || c = '?' || c = '#'

/-- The text before the last mark, if there is a mark, and the text after it. -/
def splitAtLast (mark : Char) (text : List Char) : Option (List Char) × List Char :=
  if mark ∈ text then
    (some (text.reverse.dropWhile (· ≠ mark)).tail.reverse, (text.reverse.takeWhile (· ≠ mark)).reverse)
  else (none, text)

/-- User and password. What is empty is left out. -/
def normalizeUser (user : Option (List Char)) : List Char :=
  match user with
  | none => []
  | some text =>
    let name := Percent.encode Percent.inUser (text.takeWhile (· ≠ ':'))
    let password := Percent.encode Percent.inUser (text.dropWhile (· ≠ ':')).tail
    let both := if password = [] then name else name ++ ':' :: password
    if both = [] then [] else both ++ ['@']

/-- The host and what follows it from the first colon that is not in brackets. -/
def splitHost : Bool → List Char → List Char × List Char
  | _, [] => ([], [])
  | inside, c :: rest =>
    if c = ':' && !inside then ([], c :: rest)
    else
      let (host, after) := splitHost (if c = '[' then true else if c = ']' then false else inside) rest
      (c :: host, after)

/-- A port below 65536. The port 80 and no digits at all are no port. -/
def normalizePort (text : List Char) : Except UrlError (Option Nat) :=
  match text with
  | ':' :: digits =>
    let port := Ascii.digitsValue 10 digits
    if !digits.all Char.isDigit || 65535 < port then .error .invalidPort
    else .ok (if digits = [] || port = 80 then none else some port)
  | _ => .ok none

/-! ## The path -/

/-- A segment with every written point in place. -/
def plainDots : List Char → List Char
  | '%' :: '2' :: 'e' :: rest => '.' :: plainDots rest
  | '%' :: '2' :: 'E' :: rest => '.' :: plainDots rest
  | c :: rest => c :: plainDots rest
  | [] => []

/-- A letter and a colon or a bar. Such a segment is never left again. -/
def isDrive (segment : List Char) : Bool :=
  match segment with
  | [letter, mark] => letter.isAlpha && (mark = ':' || mark = '|')
  | _ => false

/-- Leaves the last of the segments, which are given in reverse. -/
def leave : List (List Char) → List (List Char)
  | [] => []
  | last :: before => if isDrive last then last :: before else before

def isDoubleDot (segment : List Char) : Bool := plainDots segment = ['.', '.']

def isSingleDot (segment : List Char) : Bool := plainDots segment = ['.']

/-- The segments, in reverse, after one more. -/
def enter (above : List (List Char)) (segment : List Char) : List (List Char) :=
  if isDoubleDot segment then leave above
  else if isSingleDot segment then above
  else segment :: above

/-- The segments above the last one, in reverse, and the last one itself. -/
def finish (above : List (List Char)) (last : List Char) : List (List Char) × List Char :=
  if isDoubleDot last then (leave above, [])
  else if isSingleDot last then (above, [])
  else (above, last)

/-- A path without segments that go up or stay. The text is what follows the first slash. -/
def normalizePath (text : List Char) : List Char :=
  let segments := (Parts.split '/' (text.map fun c => if isSlash c then '/' else c)).map
    (Percent.encode Percent.inPath)
  let (above, last) := finish (segments.dropLast.foldl enter []) (segments.getLast?.getD [])
  '/' :: (above.reverse.flatMap (· ++ ['/']) ++ last)

/-! ## Reading -/

/-- The text behind a mark that it begins with. -/
def behind? (mark : Char) (text : List Char) : Option (List Char) :=
  match text with
  | c :: rest => if c = mark then some rest else none
  | [] => none

/-- Path, query and fragment of a URL whose authority is known. -/
def withRest (user host : List Char) (port : Option Nat) (rest : List Char) : Url :=
  let path := rest.takeWhile fun c => c ≠ '?' && c ≠ '#'
  let rest := rest.dropWhile fun c => c ≠ '?' && c ≠ '#'
  { user, host, port
    path := normalizePath path.tail
    query := (behind? '?' rest).map fun text => Percent.encode Percent.inQuery (text.takeWhile (· ≠ '#'))
    fragment := (behind? '#' (rest.dropWhile (· ≠ '#'))).map (Percent.encode Percent.inFragment) }

/-- The URL that `http://` and a text make. -/
def ofText (text : String) : Except UrlError Url := do
  let text := (clean text.toList).dropWhile isSlash
  let (user, site) := splitAtLast '@' (text.takeWhile (!endsAuthority ·))
  let (host, port) := splitHost false site
  return withRest (normalizeUser user) (← Host.normalize host) (← normalizePort port)
    (text.dropWhile (!endsAuthority ·))

/-- The URL that is fetched to see whether a server is well. -/
def ofServer (server : Server) : Except UrlError Url :=
  ofText (server.address ++ if server.pingUri.startsWith "/" then server.pingUri else "/" ++ server.pingUri)

end Url

end ReverseProxy
