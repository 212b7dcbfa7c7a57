/-! # Bytes of a message -/

namespace ReverseProxy

/-- Bodies and header values may hold any bytes. -/
abbrev Bytes := List UInt8

namespace Bytes

/-- The UTF-8 form of a text. -/
def ofText (text : String) : Bytes := text.toUTF8.data.toList

/-- The text that the bytes write in UTF-8, if they do. -/
def text? (bytes : Bytes) : Option String := String.fromUTF8? ⟨bytes.toArray⟩

/-- A space to `~`, or a tab: what a header value may hold to be read as text. -/
def isVisible (byte : UInt8) : Bool := (0x20 ≤ byte && byte ≤ 0x7E) || byte = 0x09

/-- The value as text, if every byte of it is visible. -/
def visible? (bytes : Bytes) : Option String :=
  if bytes.all isVisible then some (String.ofList (bytes.map fun b => Char.ofNat b.toNat)) else none

end Bytes

end ReverseProxy
