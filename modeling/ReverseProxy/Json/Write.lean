import ReverseProxy.Json.Token

/-! # A document as a JSON text -/

namespace ReverseProxy.Json

/-- A character inside a string. Quotes, backslashes and controls are escaped, nothing else. -/
def escape (c : Char) : List Char :=
  match c with
  | '"' => ['\\', '"']
  | '\\' => ['\\', '\\']
  | '\x08' => ['\\', 'b']
  | '\x0c' => ['\\', 'f']
  | '\n' => ['\\', 'n']
  | '\r' => ['\\', 'r']
  | '\t' => ['\\', 't']
  | c =>
    if c < ' ' then ['\\', 'u', '0', '0', Nat.digitChar (c.toNat / 16), Nat.digitChar (c.toNat % 16)] else [c]

def quoted (text : String) : List Char := '"' :: text.toList.flatMap escape ++ ['"']

def decimal (n : Int) : List Char :=
  if n < 0 then '-' :: Nat.toDigits 10 n.natAbs else Nat.toDigits 10 n.natAbs

/-- A value without parts. Numbers with a fraction have no text here. -/
def writeAtom : Node → List Char
  | .null => ['n', 'u', 'l', 'l']
  | .bool true => ['t', 'r', 'u', 'e']
  | .bool false => ['f', 'a', 'l', 's', 'e']
  | .integer n => decimal n
  | .text s => quoted s
  | _ => []

def Token.write : Token → List Char
  | openArray => ['[']
  | closeArray => [']']
  | openObject => ['\x7b']
  | closeObject => ['\x7d']
  | comma => [',']
  | colon => [':']
  | atom node => writeAtom node
  | bad => []

mutual

/-- The words that write a document. -/
def words : Node → List Token
  | .sequence [] _ => [.openArray, .closeArray]
  | .sequence (item :: rest) _ => .openArray :: (words item ++ moreItems rest)
  | .mapping [] _ => [.openObject, .closeObject]
  | .mapping ((key, value) :: rest) _ => .openObject :: .atom key :: .colon :: (words value ++ moreMembers rest)
  | node => [.atom node]

/-- The items behind the first one, and the end of the array. -/
def moreItems : List Node → List Token
  | [] => [.closeArray]
  | item :: rest => .comma :: (words item ++ moreItems rest)

/-- The members behind the first one, and the end of the object. -/
def moreMembers : List (Node × Node) → List Token
  | [] => [.closeObject]
  | (key, value) :: rest => .comma :: .atom key :: .colon :: (words value ++ moreMembers rest)

end

/-- The text of a document, without any space. -/
def write (node : Node) : String := String.ofList ((words node).flatMap Token.write)

end ReverseProxy.Json
