import ReverseProxy.Text.Ascii
import ReverseProxy.Text.Parts

/-! # Tables of characters -/

namespace ReverseProxy.Unicode

/--
Properties of characters. Each line tells where it begins and then run after run: how many characters, in
capital hexadecimal digits, if there is more than one, and what they have in common.
-/
abbrev Runs := List (Nat × String)

namespace Runs

def isCountDigit (c : Char) : Bool := c.isDigit || ('A' ≤ c && c ≤ 'F')

/-- How many characters a run has, and what they have in common. -/
def readRun (word : List Char) : Nat × List Char :=
  let digits := word.takeWhile isCountDigit
  (if digits = [] then 1 else Ascii.digitsValue 16 digits, word.dropWhile isCountDigit)

def words (line : String) : List (List Char) := Parts.split ' ' line.toList

/-- The run that a character is in, some characters behind the beginning of the first. -/
def walk (offset : Nat) : List (List Char) → Option (Nat × List Char)
  | [] => none
  | word :: rest =>
    let (count, property) := readRun word
    if offset < count then some (offset, property) else walk (offset - count) rest

/-- Where in its run a character is, and what the run has in common. -/
def find? (runs : Runs) (n : Nat) : Option (Nat × List Char) :=
  match (runs.takeWhile (·.1 ≤ n)).getLast? with
  | none => none
  | some (start, line) => walk (n - start) (words line)

/-- The characters of a line of runs with one character each. -/
def allFrom (start : Nat) : List (List Char) → List (Nat × List Char)
  | [] => []
  | word :: rest => (start, (readRun word).2) :: allFrom (start + (readRun word).1) rest

/-- The first character of every run. -/
def all (runs : Runs) : List (Nat × List Char) :=
  runs.flatMap fun (start, line) => allFrom start (words line)

/-- Hexadecimal numbers with commas between them. -/
def numbers (text : List Char) : List Nat := (Parts.split ',' text).map (Ascii.digitsValue 16)

end Runs

end ReverseProxy.Unicode
