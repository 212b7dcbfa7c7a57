import ReverseProxy.Toml.Value

/-! # A TOML text as a document -/

namespace ReverseProxy.Toml

/-- A line of a text. -/
inductive Statement where
  | pair (path : List String) (key : String) (node : Node)
  | header (path : List String) (key : String)
  | arrayHeader (path : List String) (key : String)

/-- The document so far, and the path of the table that pairs go to. -/
structure Draft where
  root : Table := .empty
  current : List String := []

def Draft.apply (d : Draft) : Statement → Option Draft
  | .pair path key node =>
    return { d with root := ← d.root.change false d.current fun t => t.assign path key node }
  | .header path key => return { root := ← d.root.openTable path key, current := path ++ [key] }
  | .arrayHeader path key => return { root := ← d.root.openArray path key, current := path ++ [key] }

/-- Reads one statement with the rest of its line. -/
def statement? (s : List Char) : Option (Statement × List Char) :=
  match s with
  | '[' :: '[' :: rest => do
    let ((path, key), s) ← key? rest
    let s ← expect? ']' (← expect? ']' s)
    return (.arrayHeader path key, ← lineTail? s)
  | '[' :: rest => do
    let ((path, key), s) ← key? rest
    let s ← expect? ']' s
    return (.header path key, ← lineTail? s)
  | s => do
    let ((path, key), s) ← key? s
    let s ← expect? '=' s
    let (node, s) ← value? maxDepth (skipWs s)
    return (.pair path key node, ← lineTail? s)

/-- The statements of a text. Each takes something off it. -/
def statements? (s : List Char) : Option (List Statement) :=
  match s with
  | [] => some []
  | c :: rest =>
    if isWs c then statements? rest
    else if c = '#' then
      match _h : skipComment rest with
      | [] => some []
      | d :: r =>
        match _h' : newline? (d :: r) with
        | some after => statements? after
        | none => none
    else
      match _h : newline? (c :: rest) with
      | some after => statements? after
      | none =>
        match statement? (c :: rest) with
        | some (statement, after) =>
          if _h : after.length < rest.length + 1 then (statements? after).map (statement :: ·) else none
        | none => none
termination_by s.length
decreasing_by
  · simp
  · have h1 := skipComment_length rest
    have h2 := newline?_length _h'
    rw [_h] at h1
    simp only [List.length_cons] at *
    omega
  · have h2 := newline?_length _h
    simpa using h2
  · simpa using _h

/-- The document that a text writes. A byte order mark at the front does not count. -/
def document? (text : String) : Option Node := do
  let chars := match text.toList with
    | '\ufeff' :: rest => rest
    | chars => chars
  let draft ← (← statements? chars).foldlM Draft.apply {}
  return draft.root.toNode

end ReverseProxy.Toml
