/-! # What a configuration text says -/

namespace ReverseProxy

/--
A document of either format. A text that stops being a document is read as far as it goes: what is
open there is marked as not closed, and what cannot be told at all is `broken`.
-/
inductive Node where
  | null
  | bool (b : Bool)
  | integer (n : Int)
  /-- A number with a fraction or an exponent, as it is shown. -/
  | double (shown : String)
  | text (s : String)
  /-- A date, a time, or both. -/
  | moment
  /-- A number that is too large for a double. -/
  | oversized
  /-- A string whose escapes name no text. -/
  | garbled
  | sequence (items : List Node) (closed : Bool)
  /-- Members in the order of the text. A key that is no text ends the document. -/
  | mapping (members : List (Node × Node)) (closed : Bool)
  | broken
deriving Inhabited

namespace Node

mutual

/-- The document was read to its end. -/
def isWhole : Node → Bool
  | broken => false
  | sequence items closed => closed && areWhole items
  | mapping members closed => closed && membersWhole members
  | _ => true

def areWhole : List Node → Bool
  | [] => true
  | node :: rest => node.isWhole && areWhole rest

def membersWhole : List (Node × Node) → Bool
  | [] => true
  | (key, value) :: rest => key.isWhole && value.isWhole && membersWhole rest

end

/-- A mapping with text for keys. -/
def record (members : List (String × Node)) : Node :=
  mapping (members.map fun (key, value) => (text key, value)) true

def list (items : List Node) : Node := sequence items true

end Node

end ReverseProxy
