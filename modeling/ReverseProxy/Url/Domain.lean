import ReverseProxy.Text.Bytes
import ReverseProxy.Text.Parts
import ReverseProxy.Unicode.Classes
import ReverseProxy.Unicode.Compose
import ReverseProxy.Unicode.Mapping
import ReverseProxy.Url.Punycode

/-! # Names of hosts -/

namespace ReverseProxy.Domain

/-- ASCII characters that no name may hold. -/
def isForbidden (c : Char) : Bool :=
  c.toNat ≤ 0x20 || c.toNat = 0x7F || c ∈ ['%', '#', '/', ':', '<', '>', '?', '@', '[', '\\', ']', '^', '|']

def isAscii (label : List Char) : Bool := label.all Punycode.isAscii

/-- Every character in its plain form, and the whole composed. -/
def fold? (text : List Char) : Option (List Char) :=
  (text.mapM Unicode.mapChar).map fun parts => Unicode.normalize parts.flatten

/-! ## Joiners -/

/-- The first character in a direction that is not passed over joins to that side. -/
def joinsTo (side : Char) (text : List Char) : Bool :=
  match text.dropWhile (Unicode.joining · = some 't') with
  | [] => false
  | c :: _ => Unicode.joining c = some 'd' || Unicode.joining c = some side

/-- A joiner stands behind a virama. One that keeps letters apart may also stand between two that join. -/
def joinersFit (before : List Char) : List Char → Bool
  | [] => true
  | c :: rest =>
    let afterVirama := before.head?.any fun b => Unicode.combiningClass b.toNat = 9
    let fits :=
      if c = '\u200d' then afterVirama
      else if c = '\u200c' then afterVirama || (joinsTo 'l' before && joinsTo 'r' rest)
      else true
    fits && joinersFit (c :: before) rest

/-! ## Directions -/

/-- Some character is written from right to left. -/
def isBidi (text : List Char) : Bool := text.any fun c => Unicode.direction c = 'r' || Unicode.direction c = 'a'

/-- The directions of a label can be told apart. -/
def directionsFit (label : List Char) : Bool :=
  let directions := label.map Unicode.direction
  let last := (directions.reverse.dropWhile (· = 'm')).head?
  match directions with
  | [] => true
  | 'r' :: _ =>
    directions.all (· ∈ ['r', 'a', 'e', 'm', 'n']) && last.any (· ∈ ['r', 'a', 'e']) &&
      !('a' ∈ directions && 'e' ∈ directions)
  | 'l' :: _ => directions.all (· ∈ ['l', 'e', 'm', 'n']) && last.any (· ∈ ['l', 'e'])
  | _ => false

/-! ## Labels -/

/-- The label in its own characters. One that is written in Punycode must need it. -/
def readLabel? (label : List Char) : Option (List Char) :=
  match label with
  | 'x' :: 'n' :: '-' :: '-' :: code =>
    if isAscii label then
      match Punycode.decode? code with
      | some plain => if isAscii plain || fold? plain ≠ some plain then none else some plain
      | none => none
    else none
  | _ => some label

def isLabel (label : List Char) : Bool :=
  !(label.head?.any Unicode.isMark) && joinersFit [] label && !('.' ∈ label)

def write (label : List Char) : List Char :=
  if isAscii label then label else ['x', 'n', '-', '-'] ++ Punycode.encode label

def joinLabels : List (List Char) → List Char
  | [] => []
  | [last] => last
  | label :: rest => label ++ '.' :: joinLabels rest

/-- The name in small ASCII letters. -/
def ofText? (text : List Char) : Option (List Char) := do
  let labels ← (Parts.split '.' (← fold? text)).mapM readLabel?
  let name := joinLabels (labels.map write)
  if labels.all isLabel && (!labels.any isBidi || labels.all directionsFit) && !name.any isForbidden then
    some name
  else none

def ofBytes? (bytes : Bytes) : Option (List Char) := do ofText? (← bytes.text?).toList

end ReverseProxy.Domain
