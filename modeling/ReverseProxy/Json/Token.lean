import ReverseProxy.Node
import ReverseProxy.Text.Ascii
import ReverseProxy.Text.Shortest

/-! # Words of a JSON text -/

namespace ReverseProxy.Json

/-- A bracket, a mark, or a value without parts. `bad` ends the words of a text. -/
inductive Token where
  | openArray
  | closeArray
  | openObject
  | closeObject
  | comma
  | colon
  | atom (node : Node)
  | bad

/-! ## Strings -/

/-- A character that stands for itself, or a UTF-16 unit written with `\u`. -/
inductive Piece where
  | char (c : Char)
  | unit (n : Nat)

/-- The text of the pieces, if every surrogate has its partner. -/
def joinPieces : List Piece → Option (List Char)
  | [] => some []
  | .char c :: rest => (joinPieces rest).map (c :: ·)
  | .unit high :: .unit low :: rest =>
    if 0xD800 ≤ high ∧ high < 0xDC00 then
      if 0xDC00 ≤ low ∧ low < 0xE000 then
        (joinPieces rest).map (Char.ofNat (0x10000 + (high - 0xD800) * 0x400 + (low - 0xDC00)) :: ·)
      else none
    else if 0xDC00 ≤ high ∧ high < 0xE000 then none
    else (joinPieces (.unit low :: rest)).map (Char.ofNat high :: ·)
  | .unit n :: rest =>
    if 0xD800 ≤ n ∧ n < 0xE000 then none else (joinPieces rest).map (Char.ofNat n :: ·)

/-- What a backslash and this character stand for. -/
def unescape? : Char → Option Char
  | '"' => some '"'
  | '\\' => some '\\'
  | '/' => some '/'
  | 'b' => some '\x08'
  | 'f' => some '\x0c'
  | 'n' => some '\n'
  | 'r' => some '\r'
  | 't' => some '\t'
  | _ => none

/-- Reads up to the closing quote. -/
def stringBody : List Char → Option (List Piece × List Char)
  | [] => none
  | '"' :: rest => some ([], rest)
  | '\\' :: 'u' :: a :: b :: c :: d :: rest =>
    if [a, b, c, d].all Ascii.isHexDigit then
      (stringBody rest).map fun (pieces, after) => (.unit (Ascii.digitsValue 16 [a, b, c, d]) :: pieces, after)
    else none
  | '\\' :: c :: rest =>
    match unescape? c with
    | some plain => (stringBody rest).map fun (pieces, after) => (.char plain :: pieces, after)
    | none => none
  | c :: rest =>
    if c = '\\' ∨ c < ' ' then none
    else (stringBody rest).map fun (pieces, after) => (.char c :: pieces, after)

theorem stringBody_length {s : List Char} {pieces : List Piece} {rest : List Char}
    (h : stringBody s = some (pieces, rest)) : rest.length < s.length := by
  fun_induction stringBody s generalizing pieces with
  | case1 => simp at h
  | case2 => simp only [Option.some.injEq, Prod.mk.injEq] at h; simp [h.2]
  | case3 a b c d r _ ih =>
    simp only [Option.map_eq_some_iff, Prod.mk.injEq, Prod.exists] at h
    obtain ⟨ps, r', h, -, rfl⟩ := h
    have := ih h; simp; omega
  | case4 => simp at h
  | case5 c r _ plain _ ih =>
    simp only [Option.map_eq_some_iff, Prod.mk.injEq, Prod.exists] at h
    obtain ⟨ps, r', h, -, rfl⟩ := h
    have := ih h; simp; omega
  | case6 => simp at h
  | case7 => simp at h
  | case8 c r _ _ _ _ ih =>
    simp only [Option.map_eq_some_iff, Prod.mk.injEq, Prod.exists] at h
    obtain ⟨ps, r', h, -, rfl⟩ := h
    have := ih h; simp; omega

/-- The node of a string. Escapes that name no text garble it. -/
def stringNode (pieces : List Piece) : Node :=
  match joinPieces pieces with
  | some chars => .text (String.ofList chars)
  | none => .garbled

/-! ## Numbers -/

/-- The largest number of 64 bits. -/
def maxCount : Nat := 0xFFFFFFFFFFFFFFFF

/-- Digits gathered while they fit in 64 bits, and a power of ten. -/
structure Significand where
  value : Nat := 0
  full : Bool := false
  exponent : Int := 0

/-- A digit before the point. One that does not fit still counts as a place. -/
def Significand.whole (s : Significand) (digit : Char) : Significand :=
  let next := s.value * 10 + (digit.toNat - '0'.toNat)
  if s.full ∨ maxCount < next then { s with full := true, exponent := s.exponent + 1 }
  else { s with value := next }

/-- A digit behind the point. One that does not fit is dropped, with all that follow. -/
def Significand.fraction (s : Significand) (digit : Char) : Significand :=
  let next := s.value * 10 + (digit.toNat - '0'.toNat)
  if s.full ∨ maxCount < next then { s with full := true }
  else { s with value := next, exponent := s.exponent - 1 }

/-- Powers of ten are kept up to this one. -/
def maxPower : Nat := 308

/-- Multiplies or divides by a power of ten, in steps that a double holds. -/
def scale (x : Float) (e : Int) : Option Float :=
  if 0 ≤ e then
    if x == 0.0 then some x
    else if maxPower < e.toNat then none
    else
      let y := x * Float.ofScientific 1 false e.toNat
      if y.isInf then none else some y
  else if (-e).toNat ≤ maxPower then some (x / Float.ofScientific 1 false (-e).toNat)
  else if x == 0.0 then some x
  else scale (x / 1e308) (e + maxPower)
termination_by (-e).toNat
decreasing_by simp only [maxPower] at *; omega

/-- Doubles are written positionally from `1e-5` to below `1e16`. -/
def doubleStyle : DoubleStyle := ⟨-5, 15⟩

def doubleNode (negative : Bool) (significand : Nat) (exponent : Int) : Node :=
  match scale (Float.ofNat significand) exponent with
  | some x => .double (doubleStyle.show (if negative then -x else x))
  | none => .oversized

/-- The largest exponent that is read digit by digit. -/
def maxExponent : Nat := 0x7FFFFFFF

/-- A number with its parts told apart. Exponents beyond all doubles are not gathered. -/
def numberNode (negative : Bool) (whole fraction : List Char) (exponent : Option (Bool × List Char))
    (pointed : Bool) : Node :=
  let s := whole.foldl Significand.whole {}
  if !pointed && exponent.isNone && !s.full then
    if !negative then .integer s.value
    else if s.value = 0 ∨ 0x8000000000000000 < s.value then doubleNode true s.value 0
    else .integer (-s.value)
  else
    let s := fraction.foldl Significand.fraction { s with full := false }
    match exponent with
    | none => doubleNode negative s.value s.exponent
    | some (down, digits) =>
      let e := Ascii.digitsValue 10 digits
      if maxExponent < e then
        if s.value ≠ 0 ∧ !down then .oversized else doubleNode negative 0 0
      else doubleNode negative s.value (if down then s.exponent - e else s.exponent + e)

/-- The digits at the front, and the rest. -/
def takeDigits (s : List Char) : List Char × List Char := (s.takeWhile Char.isDigit, s.dropWhile Char.isDigit)

/-- An exponent, if the text goes on with one. -/
def exponent? : List Char → Option (Option (Bool × List Char) × List Char)
  | c :: rest =>
    if c = 'e' ∨ c = 'E' then
      let (down, rest) := match rest with
        | '+' :: r => (false, r)
        | '-' :: r => (true, r)
        | r => (false, r)
      let (digits, after) := takeDigits rest
      if digits.isEmpty then none else some (some (down, digits), after)
    else some (none, c :: rest)
  | [] => some (none, [])

/-- Reads a number. A leading zero stands alone, and a point needs digits on both sides. -/
def number? (s : List Char) : Option (Node × List Char) :=
  let (negative, s) := match s with
    | '-' :: r => (true, r)
    | r => (false, r)
  let (whole, s) := takeDigits s
  if whole.isEmpty ∨ (whole.head? = some '0' ∧ 1 < whole.length) then none
  else
    match s with
    | '.' :: r =>
      let (fraction, s) := takeDigits r
      if fraction.isEmpty then none
      else (exponent? s).map fun (e, after) => (numberNode negative whole fraction e true, after)
    | s => (exponent? s).map fun (e, after) => (numberNode negative whole [] e false, after)

theorem takeDigits_length (s : List Char) : (takeDigits s).1.length + (takeDigits s).2.length = s.length := by
  simp only [takeDigits]
  rw [← List.length_append, List.takeWhile_append_dropWhile]

theorem exponent?_length {s after : List Char} {e : Option (Bool × List Char)}
    (h : exponent? s = some (e, after)) : after.length ≤ s.length := by
  unfold exponent? at h
  split at h
  · next c rest =>
    split at h
    · split at h
      simp only at h
      split at h
      · simp at h
      · rename_i down r hr _
        simp only [Option.some.injEq, Prod.mk.injEq] at h
        have hd := takeDigits_length r
        have : r.length ≤ rest.length := by
          split at hr <;> simp only [Prod.mk.injEq] at hr <;> obtain ⟨-, rfl⟩ := hr <;> simp
        rw [← h.2]
        simp only [List.length_cons]
        omega
    · simp only [Option.some.injEq, Prod.mk.injEq] at h
      simp [← h.2]
  · simp only [Option.some.injEq, Prod.mk.injEq] at h
    simp [← h.2]

theorem number?_length {s after : List Char} {node : Node} (h : number? s = some (node, after)) :
    after.length < s.length := by
  unfold number? at h
  split at h
  rename_i negative r hr
  have hle : r.length ≤ s.length := by
    split at hr <;> simp only [Prod.mk.injEq] at hr <;> obtain ⟨-, rfl⟩ := hr <;> simp
  have hd := takeDigits_length r
  simp only at h
  split at h
  · simp at h
  · rename_i hw
    have hpos : 0 < (takeDigits r).1.length := by
      rw [List.length_pos_iff]
      intro he
      exact hw (Or.inl (by simp [he]))
    split at h
    · rename_i r' hs
      have hd' := takeDigits_length r'
      rw [hs] at hd
      simp only [List.length_cons] at hd
      split at h
      · simp at h
      · simp only [Option.map_eq_some_iff, Prod.mk.injEq, Prod.exists] at h
        obtain ⟨e, a, he, -, rfl⟩ := h
        have := exponent?_length he
        omega
    · simp only [Option.map_eq_some_iff, Prod.mk.injEq, Prod.exists] at h
      obtain ⟨e, a, he, -, rfl⟩ := h
      have := exponent?_length he
      omega

/-! ## Words -/

def isSpace (c : Char) : Bool := c = ' ' || c = '\n' || c = '\t' || c = '\r'

/-- The marks that are words of their own. -/
def mark? : Char → Option Token
  | '[' => some .openArray
  | ']' => some .closeArray
  | '\x7b' => some .openObject
  | '\x7d' => some .closeObject
  | ',' => some .comma
  | ':' => some .colon
  | _ => none

/-- A value written as a name, and the text behind it. -/
def named? : List Char → Option (Node × List Char)
  | 'n' :: 'u' :: 'l' :: 'l' :: rest => some (.null, rest)
  | 't' :: 'r' :: 'u' :: 'e' :: rest => some (.bool true, rest)
  | 'f' :: 'a' :: 'l' :: 's' :: 'e' :: rest => some (.bool false, rest)
  | _ => none

theorem named?_length {s after : List Char} {node : Node} (h : named? s = some (node, after)) :
    after.length < s.length := by
  unfold named? at h
  split at h <;> simp only [Option.some.injEq, Prod.mk.injEq, reduceCtorEq] at h <;>
    obtain ⟨-, rfl⟩ := h <;> simp <;> omega

/-- A string, a number or a name, and the text behind it. -/
def atom? : List Char → Option (Node × List Char)
  | '"' :: rest => (stringBody rest).map fun (pieces, after) => (stringNode pieces, after)
  | c :: rest => if c = '-' ∨ c.isDigit then number? (c :: rest) else named? (c :: rest)
  | [] => none

theorem atom?_length {s after : List Char} {node : Node} (h : atom? s = some (node, after)) :
    after.length < s.length := by
  unfold atom? at h
  split at h
  · simp only [Option.map_eq_some_iff, Prod.mk.injEq, Prod.exists] at h
    obtain ⟨ps, a, h, -, rfl⟩ := h
    have := stringBody_length h
    simp only [List.length_cons]
    omega
  · split at h
    · exact number?_length h
    · exact named?_length h
  · simp at h

/-- The words of a text, up to the first place where none can be read. -/
def Token.scan (s : List Char) : List Token :=
  match s with
  | [] => []
  | c :: rest =>
    if isSpace c then scan rest
    else
      match mark? c with
      | some token => token :: scan rest
      | none =>
        match h : atom? (c :: rest) with
        | some (node, after) =>
          have : after.length ≤ rest.length := Nat.le_of_lt_succ (atom?_length h)
          .atom node :: scan after
        | none => [.bad]
termination_by s.length

end ReverseProxy.Json
