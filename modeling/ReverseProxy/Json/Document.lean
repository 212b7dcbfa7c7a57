import ReverseProxy.Json.Token

/-! # A JSON text as a document -/

namespace ReverseProxy.Json

/-- A container that is open, with what it holds so far, the last first. -/
inductive Frame where
  | array (items : List Node)
  | object (members : List (Node × Node))
  /-- The key of the next member is read, its value is not. -/
  | member (members : List (Node × Node)) (key : Node)

/-- What may come next. -/
inductive Expect where
  | value
  /-- A value, or the end of an array that is still empty. -/
  | first
  | key
  /-- A key, or the end of an object that is still empty. -/
  | firstKey
  | colon
  /-- A comma or the end of the container. -/
  | next
deriving DecidableEq

/-- A container whose text ends early. -/
def Frame.cut : Frame → Node
  | array items => .sequence items.reverse false
  | object members => .mapping members.reverse false
  | member members key => .mapping ((key, .broken) :: members).reverse false

/-- Puts a node in its place in the container. -/
def Frame.put (node : Node) : Frame → Frame
  | array items => .array (node :: items)
  | object members => .object members
  | member members key => .object ((key, node) :: members)

/-- The document of a text that ends early: every open container is cut. -/
def cutAll : List Frame → Node
  | [] => .broken
  | frame :: outer => outer.foldl (fun node f => (f.put node).cut) frame.cut

/-- A document, and whether the text holds nothing else. -/
structure Document where
  root : Node
  alone : Bool

/-- Reads the words one by one. The innermost open container comes first. -/
def read : List Frame → Expect → List Token → Document
  | frames, _, [] => ⟨cutAll frames, false⟩
  | frames, expect, token :: rest =>
    -- A node is complete: it is the document, or goes into the container round it.
    let close (node : Node) (outer : List Frame) : Document :=
      match outer with
      | [] => ⟨node, rest.isEmpty⟩
      | frame :: outer => read (frame.put node :: outer) .next rest
    match expect, token, frames with
    | .value, .atom node, frames | .first, .atom node, frames => close node frames
    | .value, .openArray, frames | .first, .openArray, frames => read (.array [] :: frames) .first rest
    | .value, .openObject, frames | .first, .openObject, frames => read (.object [] :: frames) .firstKey rest
    | .first, .closeArray, .array items :: outer => close (.sequence items.reverse true) outer
    | .next, .closeArray, .array items :: outer => close (.sequence items.reverse true) outer
    | .next, .comma, .array items :: outer => read (.array items :: outer) .value rest
    | .firstKey, .closeObject, .object members :: outer => close (.mapping members.reverse true) outer
    | .next, .closeObject, .object members :: outer => close (.mapping members.reverse true) outer
    | .next, .comma, .object members :: outer => read (.object members :: outer) .key rest
    | .key, .atom node, .object members :: outer | .firstKey, .atom node, .object members :: outer =>
      match node with
      | .text _ | .garbled => read (.member members node :: outer) .colon rest
      | _ => ⟨cutAll (.member members node :: outer), false⟩
    -- A container cannot be a key. Its kind is told before the text is given up.
    | .key, .openArray, .object members :: outer | .firstKey, .openArray, .object members :: outer =>
      ⟨cutAll (.member members (.sequence [] false) :: outer), false⟩
    | .key, .openObject, .object members :: outer | .firstKey, .openObject, .object members :: outer =>
      ⟨cutAll (.member members (.mapping [] false) :: outer), false⟩
    | .colon, .colon, frames => read frames .value rest
    | _, _, frames => ⟨cutAll frames, false⟩

/-- The document that a text writes. -/
def Document.ofText (text : String) : Document := read [] .value (Token.scan text.toList)

end ReverseProxy.Json
