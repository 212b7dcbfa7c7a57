import ReverseProxy.Text.Ascii
import ReverseProxy.Text.Parts

/-! # IPv4 hosts of URLs -/

namespace ReverseProxy.Ipv4

/-- A number and its base: hexadecimal behind `0x`, octal behind `0`, or else decimal. -/
def readBase : List Char → Nat × List Char
  | '0' :: 'x' :: digits => (16, digits)
  | '0' :: 'X' :: digits => (16, digits)
  | '0' :: d :: digits => (8, d :: digits)
  | digits => (10, digits)

def isDigitIn (base : Nat) (c : Char) : Bool := (Ascii.hexValue? c).any (· < base)

/-- What a part says. A base without digits says zero. -/
def number? (part : List Char) : Option Nat :=
  let (base, digits) := readBase part
  if part = [] then none
  else if digits.all (isDigitIn base) then some (Ascii.digitsValue base digits)
  else none

/-- The parts between the points. A point at the end says nothing. -/
def parts (host : List Char) : List (List Char) :=
  let all := Parts.split '.' host
  if all.getLast? = some [] then all.dropLast else all

/-- The last part says that this host is a number. -/
def isNumeric (host : List Char) : Bool :=
  match (parts host).getLast? with
  | none => false
  | some last => (last ≠ [] && last.all Char.isDigit) || (number? last).isSome

/-- The bytes of a number, from the highest of so many. -/
def bytesOf : Nat → Nat → List Nat
  | 0, _ => []
  | count + 1, n => n / Nat.pow 256 count % 256 :: bytesOf count n

/-- Every part but the last is one byte, and the last is all bytes that are left. -/
def combine (numbers : List Nat) : Option (List Nat) :=
  match numbers.reverse with
  | [] => none
  | last :: before =>
    let left := 4 - before.length
    if 3 < before.length ∨ Nat.pow 256 left ≤ last ∨ before.any (255 < ·) then none
    else some (before.reverse ++ bytesOf left last)

/-- The four bytes of an address. -/
def parse? (host : List Char) : Option (List Nat) := do combine (← (parts host).mapM number?)

def print (bytes : List Nat) : List Char := (String.intercalate "." (bytes.map toString)).toList

end ReverseProxy.Ipv4
