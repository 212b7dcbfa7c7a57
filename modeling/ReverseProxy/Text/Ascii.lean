/-! # ASCII text -/

namespace ReverseProxy.Ascii

/-- The text with its ASCII capitals made small. Other letters stay as they are. -/
def lower (text : String) : String := String.ofList (text.toList.map Char.toLower)

@[simp] theorem toList_lower (text : String) : (lower text).toList = text.toList.map Char.toLower := by
  simp [lower]

/-- The value of a hexadecimal digit, capital or small. -/
def hexValue? (c : Char) : Option Nat :=
  if '0' ≤ c ∧ c ≤ '9' then some (c.toNat - '0'.toNat)
  else if 'a' ≤ c ∧ c ≤ 'f' then some (c.toNat - 'a'.toNat + 10)
  else if 'A' ≤ c ∧ c ≤ 'F' then some (c.toNat - 'A'.toNat + 10)
  else none

def isHexDigit (c : Char) : Bool := (hexValue? c).isSome

/-- The number that digits write in a base, read from the left. -/
def digitsValue (base : Nat) (digits : List Char) : Nat :=
  digits.foldl (fun n c => n * base + (hexValue? c).getD 0) 0

/-- The small hexadecimal digits of a number, without leading zeros. -/
def hexDigits (n : Nat) : List Char := Nat.toDigits 16 n

/-- A byte as two capital hexadecimal digits. -/
def hexByte (byte : UInt8) : List Char :=
  [byte.toNat / 16, byte.toNat % 16].map fun d => (Nat.digitChar d).toUpper

/-- A space to `~`. -/
def isPrintable (c : Char) : Bool := ' ' ≤ c && c ≤ '~'

end ReverseProxy.Ascii
