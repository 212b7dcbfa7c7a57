import ReverseProxy.Toml.Scalar
import ReverseProxy.Toml.Table

/-! # Keys, arrays and inline tables -/

namespace ReverseProxy.Toml

/-! ## Keys -/

/-- A key may stand bare if it is made of these. -/
def isBare (c : Char) : Bool := c.isAlphanum || c = '-' || c = '_'

/-- One part of a key. -/
def simpleKey? : Reader String
  | '"' :: rest => (basicBody rest).map fun (cs, after) => (String.ofList cs, after)
  | '\'' :: rest => (literalBody rest).map fun (cs, after) => (String.ofList cs, after)
  | s =>
    let bare := s.takeWhile isBare
    if bare.isEmpty then none else some (String.ofList bare, s.dropWhile isBare)

/-- Items with a mark between them. Every item must take something off the text. -/
def separated? {α : Type} (item : Reader α) (mark : Char) (s : List Char) : Option (List α × List Char) :=
  match item s with
  | none => none
  | some (a, after) =>
    match after with
    | c :: rest =>
      if c = mark then
        if _h : rest.length < s.length then
          (separated? item mark rest).map fun (as, r) => (a :: as, r)
        else none
      else some ([a], c :: rest)
    | [] => some ([a], [])
termination_by s.length

/-- Values and dotted keys go no deeper than this. -/
def maxDepth : Nat := 79

/-- A key with blanks round each part: the parts before the last, and the last. -/
def key? (s : List Char) : Option ((List String × String) × List Char) := do
  let part : Reader String := fun s => (simpleKey? (skipWs s)).map fun (k, r) => (k, skipWs r)
  let (parts, after) ← separated? part '.' s
  if maxDepth < parts.length then none
  let last ← parts.getLast?
  return ((parts.dropLast, last), after)

/-! ## Comments and line ends -/

/-- Drops a comment. It runs to the end of the line. -/
def skipComment (s : List Char) : List Char := s.dropWhile isPlain

theorem skipComment_length (s : List Char) : (skipComment s).length ≤ s.length := by
  simpa [skipComment] using (List.dropWhile_sublist isPlain).length_le

/-- Drops blanks, line ends and comments. A comment must end with its line. -/
def skipLines? (s : List Char) : Option (List Char) :=
  match _h : skipWs s with
  | '#' :: rest =>
    match _h' : newline? (skipComment rest) with
    | some after => skipLines? after
    | none => none
  | c :: rest =>
    match _h' : newline? (c :: rest) with
    | some after => skipLines? after
    | none => if c = '\r' then none else some (c :: rest)
  | [] => some []
termination_by s.length
decreasing_by
  · have h1 := skipWs_length s
    have h2 := skipComment_length rest
    have h3 := newline?_length _h'
    rw [_h] at h1
    simp only [List.length_cons] at h1
    omega
  · have h1 := skipWs_length s
    have h3 := newline?_length _h'
    rw [_h] at h1
    omega

/-- What may stand behind a value or a header: blanks, a comment, and the end of the line or the text. -/
def lineTail? (s : List Char) : Option (List Char) :=
  let s := match skipWs s with
    | '#' :: rest => skipComment rest
    | s => s
  match s with
  | [] => some []
  | s => newline? s

/-! ## Values -/

/-- The items of an array, behind its bracket. A comma may stand behind the last one. -/
def items? (value : Reader Node) (s : List Char) : Option (List Node × List Char) :=
  match skipLines? s with
  | none => none
  | some [] => none
  | some (c :: rest) =>
    if c = ']' then some ([], rest)
    else
      match value (c :: rest) with
      | none => none
      | some (node, after) =>
        match skipLines? after with
        | some (']' :: r) => some ([node], r)
        | some (',' :: r) =>
          if _h : r.length < s.length then (items? value r).map fun (nodes, r) => (node :: nodes, r)
          else none
        | _ => none
termination_by s.length

/-- A key with its value, inside an inline table. -/
def inlinePair? (value : Reader Node) : Reader ((List String × String) × Node) := fun s => do
  let (key, s) ← key? s
  let s ← expect? '=' s
  let (node, s) ← value (skipWs s)
  return ((key, node), skipWs s)

/-- The pairs of an inline table, behind its brace. -/
def inlineTable? (value : Reader Node) (s : List Char) : Option (Node × List Char) :=
  match skipWs s with
  | '\x7d' :: rest => some (.mapping [] true, rest)
  | _ => do
    let (pairs, s) ← separated? (inlinePair? value) ',' s
    let rest ← expect? '\x7d' s
    let table ← pairs.foldlM (fun t ((path, key), node) => t.assign path key node) Table.empty
    return (table.toNode, rest)

/-- A value with so many containers inside one another at most. -/
def value? : Nat → Reader Node
  | 0, '[' :: _ | 0, '\x7b' :: _ => none
  | depth + 1, '[' :: rest => (items? (value? depth) rest).map fun (nodes, r) => (.sequence nodes true, r)
  | depth + 1, '\x7b' :: rest => inlineTable? (value? depth) rest
  | _, s => scalar? s

end ReverseProxy.Toml
