/-! # The authority of a URI -/

namespace ReverseProxy

namespace Authority

/-- The ASCII characters of a URI that may stand in an authority. -/
def isUriChar (c : Char) : Bool :=
  c.isAlphanum || c ∈ ['!', '$', '&', '\'', '(', ')', '*', '+', ',', '-', '.', ':', ';', '=', '@', '[', ']',
    '_', '~']

/-- What is known of an authority from the characters so far. -/
structure Scan where
  /-- Colons since the last `@` or `]`. -/
  colons : Nat := 0
  opened : Bool := false
  closed : Bool := false
  /-- A percent sign came after the last `@` or `]`. -/
  percent : Bool := false
  /-- The last character was an `@`. -/
  atEnd : Bool := false

/-- One character more, if it may stand here. -/
def Scan.step (s : Scan) (c : Char) : Option Scan :=
  match c with
  | ':' => if 8 ≤ s.colons then none else some { s with colons := s.colons + 1, atEnd := false }
  | '[' => if s.percent || s.opened then none else some { s with opened := true, atEnd := false }
  | ']' =>
    if !s.opened || s.closed then none
    else some { s with closed := true, colons := 0, percent := false, atEnd := false }
  | '@' => some { s with colons := 0, percent := false, atEnd := true }
  | '%' => some { s with percent := true, atEnd := false }
  | _ => if isUriChar c then some { s with atEnd := false } else none

/-- An authority may end here: brackets are closed, and one colon at most is that of a port. -/
def Scan.isComplete (s : Scan) : Bool :=
  s.opened = s.closed && s.colons ≤ 1 && !s.percent && !s.atEnd

/-- The text can stand between `//` and the path of a URI. Nothing is said about the port. -/
def isAuthority (text : List Char) : Bool :=
  text ≠ [] && (text.foldlM Scan.step {}).any Scan.isComplete

end Authority

/-- User, host and port, as they are written. -/
structure Authority where
  text : String
  valid : Authority.isAuthority text.toList = true
deriving DecidableEq

namespace Authority

def ofText? (text : String) : Option Authority :=
  if valid : isAuthority text.toList = true then some ⟨text, valid⟩ else none

/-- Host and port, without the user. -/
def site (a : Authority) : String := String.ofList (a.text.toList.reverse.takeWhile (· ≠ '@')).reverse

end Authority

end ReverseProxy
