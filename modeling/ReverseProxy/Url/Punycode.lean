/-! # Punycode

A text as letters, digits and hyphens: first its ASCII characters, then for each other character, from the
lowest to the highest, how far it is from the one before.
-/

namespace ReverseProxy.Punycode

/-! ## Numbers of variable length -/

def digit (n : Nat) : Char := if n < 26 then Char.ofNat ('a'.toNat + n) else Char.ofNat ('0'.toNat + (n - 26))

def digitValue? (c : Char) : Option Nat :=
  if c.isDigit then some (c.toNat - '0'.toNat + 26)
  else if c.isLower then some (c.toNat - 'a'.toNat)
  else if c.isUpper then some (c.toNat - 'A'.toNat)
  else none

/-- A digit below this is the last one of its number. `place` counts from 36 in steps of 36. -/
def threshold (place bias : Nat) : Nat := max 1 (min 26 (place - bias))

theorem threshold_pos (place bias : Nat) : 0 < threshold place bias := by
  simp only [threshold]; omega

def writeNumber (bias place n : Nat) : List Char :=
  let t := threshold place bias
  if n < t then [digit n]
  else digit (t + (n - t) % (36 - t)) :: writeNumber bias (place + 36) ((n - t) / (36 - t))
termination_by n
decreasing_by
  have := threshold_pos place bias
  have : (n - threshold place bias) / (36 - threshold place bias) ≤ n - threshold place bias :=
    Nat.div_le_self _ _
  omega

/-- Reads a number. Each digit so far was worth `weight` times what the next is worth. -/
def readNumber? (bias : Nat) : List Char → Nat → Nat → Nat → Option (Nat × List Char)
  | [], _, _, _ => none
  | c :: rest, place, weight, sum =>
    match digitValue? c with
    | none => none
    | some d =>
      let t := threshold place bias
      if d < t then some (sum + d * weight, rest)
      else readNumber? bias rest (place + 36) (weight * (36 - t)) (sum + d * weight)

theorem length_of_readNumber? {bias : Nat} {text : List Char} {place weight sum : Nat}
    {result : Nat × List Char} (h : readNumber? bias text place weight sum = some result) :
    result.2.length < text.length := by
  induction text generalizing place weight sum with
  | nil => simp [readNumber?] at h
  | cons c rest ih =>
    simp only [readNumber?] at h
    split at h
    · simp at h
    · split at h
      · obtain rfl := Option.some.inj h
        simp
      · have := ih h
        simp only [List.length_cons]
        omega

/-! ## The bias -/

def reduce (delta count : Nat) : Nat × Nat :=
  if 455 < delta then reduce (delta / 35) (count + 36) else (delta, count)
termination_by delta
decreasing_by exact Nat.div_lt_self (by omega) (by omega)

/-- The bias for the next number, after one of this size. -/
def adapt (delta points : Nat) (first : Bool) : Nat :=
  let delta := if first then delta / 700 else delta / 2
  let (delta, count) := reduce (delta + delta / points) 0
  count + 36 * delta / (delta + 38)

/-! ## Writing -/

structure Writer where
  out : List Char := []
  delta : Nat := 0
  bias : Nat := 72
  handled : Nat

/-- Passes one character of the text, on the way to all characters `n`. -/
def Writer.pass (basic n : Nat) (w : Writer) (c : Char) : Writer :=
  if c.toNat < n then { w with delta := w.delta + 1 }
  else if c.toNat = n then
    { out := w.out ++ writeNumber w.bias 36 w.delta, delta := 0
      bias := adapt w.delta (w.handled + 1) (w.handled = basic), handled := w.handled + 1 }
  else w

/-- Writes all characters of a text that are no ASCII, the next of them at least `least`. -/
def Writer.passAll (text : List Char) (basic : Nat) : List Nat → Nat → Writer → Writer
  | [], _, w => w
  | n :: rest, least, w =>
    let w := text.foldl (Writer.pass basic n) { w with delta := w.delta + (n - least) * (w.handled + 1) }
    passAll text basic rest (n + 1) { w with delta := w.delta + 1 }

def isAscii (c : Char) : Bool := c.toNat < 0x80

def encode (text : List Char) : List Char :=
  let basic := text.filter isAscii
  let others := (((text.filter (!isAscii ·)).map (·.toNat)).mergeSort).eraseDups
  let w := Writer.passAll text basic.length others 0x80 { handled := basic.length }
  basic ++ (if basic = [] then [] else ['-']) ++ w.out

/-! ## Reading -/

def isScalar (n : Nat) : Bool := n < 0xD800 || (0xDFFF < n && n < 0x110000)

/-- Puts in one character after the other. `n` and `at'` are where the last one was. -/
def readAll? (bias n at' : Nat) (out : List Char) (text : List Char) : Option (List Char) :=
  match text with
  | [] => some out
  | c :: rest =>
    match _h : readNumber? bias (c :: rest) 36 1 at' with
    | none => none
    | some (sum, after) =>
      let points := out.length + 1
      let n := n + sum / points
      if isScalar n then
        readAll? (adapt (sum - at') points (at' = 0)) n (sum % points + 1)
          (out.insertIdx (sum % points) (Char.ofNat n)) after
      else none
termination_by text.length
decreasing_by simpa using length_of_readNumber? _h

/--
The text that letters, digits and hyphens write. The last hyphen ends the ASCII part, if that part is not
empty.
-/
def decode? (text : List Char) : Option (List Char) :=
  let basic := (text.reverse.dropWhile (· ≠ '-')).tail.reverse
  readAll? 72 0x80 0 basic (if basic = [] then text else (text.reverse.takeWhile (· ≠ '-')).reverse)

end ReverseProxy.Punycode
