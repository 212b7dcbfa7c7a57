import ReverseProxy.Json.Write

/-! # A document as a TOML text -/

namespace ReverseProxy.Toml

/-- A character inside a string. What JSON escapes is escaped here too, and `\x7f`. -/
def escape (c : Char) : List Char := if c = '\x7f' then ['\\', 'u', '0', '0', '7', 'f'] else Json.escape c

def quoted (text : String) : List Char := '"' :: text.toList.flatMap escape ++ ['"']

/-- A key that needs no quotes. -/
def writeKey : Node → List Char
  | .text key => key.toList
  | _ => []

mutual

/-- A value on one line. -/
def writeValue : Node → List Char
  | .bool true => ['t', 'r', 'u', 'e']
  | .bool false => ['f', 'a', 'l', 's', 'e']
  | .integer n => Json.decimal n
  | .text s => quoted s
  | .sequence [] _ => ['[', ']']
  | .sequence (item :: rest) _ => '[' :: (writeValue item ++ moreItems rest)
  | .mapping [] _ => ['\x7b', '\x7d']
  | .mapping ((key, value) :: rest) _ =>
    '\x7b' :: ' ' :: (writeKey key ++ ' ' :: '=' :: ' ' :: (writeValue value ++ morePairs rest))
  | _ => []

/-- The items behind the first one, and the end of the array. -/
def moreItems : List Node → List Char
  | [] => [']']
  | item :: rest => ',' :: ' ' :: (writeValue item ++ moreItems rest)

/-- The pairs behind the first one, and the end of the inline table. -/
def morePairs : List (Node × Node) → List Char
  | [] => [' ', '\x7d']
  | (key, value) :: rest => ',' :: ' ' :: (writeKey key ++ ' ' :: '=' :: ' ' :: (writeValue value ++ morePairs rest))

end

/-- A line for each pair. -/
def writePairs : List (Node × Node) → List Char
  | [] => []
  | (key, value) :: rest => writeKey key ++ ' ' :: '=' :: ' ' :: (writeValue value ++ '\n' :: writePairs rest)

/-- Where a member of a document stands: on a line, under a header, or under one header for each table. -/
inductive Place where
  | line
  | table (members : List (Node × Node))
  | tables (rows : List (List (Node × Node)))

/-- The members of each item, if all items are tables. -/
def rows? : List Node → Option (List (List (Node × Node)))
  | [] => some []
  | .mapping members _ :: rest => (rows? rest).map (members :: ·)
  | _ :: _ => none

def place : Node → Place
  | .mapping members _ => .table members
  | .sequence items _ =>
    match rows? items with
    | some (row :: rows) => .tables (row :: rows)
    | _ => .line
  | _ => .line

def isLine (value : Node) : Bool :=
  match place value with
  | .line => true
  | _ => false

/-- The headers of a member, each with the lines below it. -/
def writeHeaded (key value : Node) : List Char :=
  match place value with
  | .line => []
  | .table members => '[' :: (writeKey key ++ ']' :: '\n' :: writePairs members)
  | .tables rows => rows.flatMap fun members => '[' :: '[' :: (writeKey key ++ ']' :: ']' :: '\n' :: writePairs members)

/-- The members that stand on lines come first. Behind a header they would belong to its table. -/
def arranged (members : List (Node × Node)) : List (Node × Node) :=
  members.filter (fun m => isLine m.2) ++ members.filter fun m => !isLine m.2

/-- The text of a table. -/
def write : Node → String
  | .mapping members _ =>
    String.ofList (writePairs (members.filter fun m => isLine m.2) ++
      (members.filter fun m => !isLine m.2).flatMap fun m => writeHeaded m.1 m.2)
  | _ => ""

/-! ## Values that are not there -/

mutual

/-- The document without the members that have no value. There is no way to write `null`. -/
def present : Node → Node
  | .sequence items closed => .sequence (presentItems items) closed
  | .mapping members closed => .mapping (presentMembers members) closed
  | node => node

def presentItems : List Node → List Node
  | [] => []
  | item :: rest => present item :: presentItems rest

def presentMembers : List (Node × Node) → List (Node × Node)
  | [] => []
  | (_, .null) :: rest => presentMembers rest
  | (key, value) :: rest => (key, present value) :: presentMembers rest

end

end ReverseProxy.Toml
