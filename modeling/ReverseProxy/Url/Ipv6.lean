import ReverseProxy.Text.Ascii
import ReverseProxy.Text.Parts

/-! # IPv6 hosts of URLs -/

namespace ReverseProxy.Ipv6

/-! ## Reading -/

/-- The text before the first two colons and the text after them. -/
def splitDouble : List Char → Option (List Char × List Char)
  | ':' :: ':' :: rest => some ([], rest)
  | c :: rest => (splitDouble rest).map fun (before, after) => (c :: before, after)
  | [] => none

/-- The texts between colons. An empty text has none. -/
def groups (text : List Char) : List (List Char) := if text = [] then [] else Parts.split ':' text

/-- Sixteen bits in four hexadecimal digits at most. -/
def piece? (group : List Char) : Option Nat :=
  if group ≠ [] ∧ group.length ≤ 4 ∧ group.all Ascii.isHexDigit then some (Ascii.digitsValue 16 group)
  else none

/-- A decimal byte without leading zeros. -/
def byte? (text : List Char) : Option Nat :=
  let value := Ascii.digitsValue 10 text
  if text ≠ [] ∧ text.all Char.isDigit ∧ (text.head? ≠ some '0' ∨ text = ['0']) ∧ value < 256 then some value
  else none

/-- The last group may be four decimal bytes, which are two pieces. -/
def lastPieces? (group : List Char) : Option (List Nat) :=
  if '.' ∈ group then
    match (Parts.split '.' group).mapM byte? with
    | some [a, b, c, d] => some [a * 256 + b, c * 256 + d]
    | _ => none
  else (piece? group).map ([·])

/-- Pieces up to the end of an address. -/
def endPieces? : List (List Char) → Option (List Nat)
  | [] => some []
  | [last] => lastPieces? last
  | group :: rest => do return (← piece? group) :: (← endPieces? rest)

/-- Eight pieces. Two colons stand for one zero or more. -/
def parse? (text : List Char) : Option (List Nat) :=
  match splitDouble text with
  | none => do
    let pieces ← endPieces? (groups text)
    if pieces.length = 8 then some pieces else none
  | some (before, after) => do
    let first ← (groups before).mapM piece?
    let last ← endPieces? (groups after)
    let count := first.length + last.length
    if count ≤ 7 then some (first ++ List.replicate (8 - count) 0 ++ last) else none

/-! ## Writing -/

/-- How many zeros a list begins with. -/
def zeros (pieces : List Nat) : Nat := (pieces.takeWhile (· = 0)).length

/-- The longest run of zeros, the first of those: where it begins and how long it is. -/
def longestRun (pieces : List Nat) : Nat × Nat :=
  (List.range pieces.length).foldl
    (fun best start =>
      let length := zeros (pieces.drop start)
      if best.2 < length then (start, length) else best)
    (0, 0)

def printPieces (pieces : List Nat) : List Char :=
  (String.intercalate ":" (pieces.map fun piece => String.ofList (Ascii.hexDigits piece))).toList

/-- A run of two zeros or more is written as two colons. -/
def print (pieces : List Nat) : List Char :=
  let (start, length) := longestRun pieces
  if length < 2 then printPieces pieces
  else printPieces (pieces.take start) ++ [':', ':'] ++ printPieces (pieces.drop (start + length))

end ReverseProxy.Ipv6
