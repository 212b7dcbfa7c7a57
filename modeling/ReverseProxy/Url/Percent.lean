import ReverseProxy.Text.Ascii
import ReverseProxy.Text.Bytes

/-! # Percent encoding -/

namespace ReverseProxy.Percent

/-! ## Which characters are written as bytes

What is not ASCII, and what is invisible, always is.
-/

def isHidden (c : Char) : Bool := !Ascii.isPrintable c

def inFragment (c : Char) : Bool := isHidden c || c ∈ [' ', '"', '<', '>', '\x60']

def inPath (c : Char) : Bool := inFragment c || c ∈ ['#', '?', '\x7b', '\x7d']

def inQuery (c : Char) : Bool := isHidden c || c ∈ [' ', '"', '#', '<', '>', '\'']

def inUser (c : Char) : Bool := inPath c || c ∈ ['/', ':', ';', '=', '@', '[', '\\', ']', '^', '|']

/-! ## Encoding and decoding -/

def encodeChar (escaped : Char → Bool) (c : Char) : List Char :=
  if escaped c then (Bytes.ofText (String.singleton c)).flatMap fun byte => '%' :: Ascii.hexByte byte else [c]

def encode (escaped : Char → Bool) (text : List Char) : List Char := text.flatMap (encodeChar escaped)

/-- The bytes that a text stands for. A percent sign without two digits is itself. -/
def decodeBytes : Bytes → Bytes
  | 0x25 :: a :: b :: rest =>
    match Ascii.hexValue? (Char.ofNat a.toNat), Ascii.hexValue? (Char.ofNat b.toNat) with
    | some high, some low => UInt8.ofNat (high * 16 + low) :: decodeBytes rest
    | _, _ => 0x25 :: decodeBytes (a :: b :: rest)
  | byte :: rest => byte :: decodeBytes rest
  | [] => []

def decode (text : List Char) : Bytes := decodeBytes (Bytes.ofText (String.ofList text))

end ReverseProxy.Percent
