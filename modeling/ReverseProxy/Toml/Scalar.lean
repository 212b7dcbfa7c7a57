import ReverseProxy.Node
import ReverseProxy.Text.Ascii
import ReverseProxy.Text.Shortest

/-! # Values of a TOML text that have no parts -/

namespace ReverseProxy.Toml

/-- A reader takes what it knows off the front of a text, and gives up on any other. -/
abbrev Reader (α : Type) := List Char → Option (α × List Char)

def isWs (c : Char) : Bool := c = ' ' || c = '\t'

/-- Drops spaces and tabs. -/
def skipWs (s : List Char) : List Char := s.dropWhile isWs

/-- The text behind a line end. -/
def newline? : List Char → Option (List Char)
  | '\n' :: rest => some rest
  | '\r' :: '\n' :: rest => some rest
  | _ => none

theorem newline?_length {s rest : List Char} (h : newline? s = some rest) : rest.length < s.length := by
  unfold newline? at h
  split at h <;> simp only [Option.some.injEq, reduceCtorEq] at h <;> subst h <;>
    simp only [List.length_cons] <;> omega

theorem skipWs_length (s : List Char) : (skipWs s).length ≤ s.length := by
  simpa [skipWs] using (List.dropWhile_sublist isWs).length_le

/-- A tab, or any character that is no control. -/
def isPlain (c : Char) : Bool := c = '\t' || (' ' ≤ c && c ≠ '\x7f')

/-! ## Strings -/

/-- The character of a code point, which must not be a surrogate. -/
def codePoint? (digits : List Char) : Option Char :=
  let n := Ascii.digitsValue 16 digits
  if digits.all Ascii.isHexDigit ∧ (n < 0xD800 ∨ (0xE000 ≤ n ∧ n < 0x110000)) then some (Char.ofNat n)
  else none

/-- What stands behind a backslash. -/
def escape? : Reader Char
  | 'b' :: rest => some ('\x08', rest)
  | 'f' :: rest => some ('\x0c', rest)
  | 'n' :: rest => some ('\n', rest)
  | 'r' :: rest => some ('\r', rest)
  | 't' :: rest => some ('\t', rest)
  | '\\' :: rest => some ('\\', rest)
  | '"' :: rest => some ('"', rest)
  | 'u' :: rest => if (rest.take 4).length = 4 then (codePoint? (rest.take 4)).map (·, rest.drop 4) else none
  | 'U' :: rest => if (rest.take 8).length = 8 then (codePoint? (rest.take 8)).map (·, rest.drop 8) else none
  | _ => none

theorem escape?_length {s rest : List Char} {c : Char} (h : escape? s = some (c, rest)) :
    rest.length < s.length := by
  unfold escape? at h
  split at h
  case h_8 r =>
    split at h
    · simp only [Option.map_eq_some_iff, Prod.mk.injEq] at h
      obtain ⟨_, _, _, rfl⟩ := h
      simp only [List.length_drop, List.length_cons]
      omega
    · simp at h
  case h_9 r =>
    split at h
    · simp only [Option.map_eq_some_iff, Prod.mk.injEq] at h
      obtain ⟨_, _, _, rfl⟩ := h
      simp only [List.length_drop, List.length_cons]
      omega
    · simp at h
  all_goals
    simp only [Option.some.injEq, Prod.mk.injEq, reduceCtorEq] at h
    try (obtain ⟨-, rfl⟩ := h; simp)

/-- Reads a basic string up to its closing quote. -/
def basicBody (s : List Char) : Option (List Char × List Char) :=
  match s with
  | [] => none
  | '"' :: rest => some ([], rest)
  | '\\' :: rest =>
    match h : escape? rest with
    | some (c, after) =>
      have := escape?_length h
      (basicBody after).map fun (cs, r) => (c :: cs, r)
    | none => none
  | c :: rest => if isPlain c then (basicBody rest).map fun (cs, r) => (c :: cs, r) else none
termination_by s.length

/-- Reads a literal string up to its closing quote. -/
def literalBody : List Char → Option (List Char × List Char)
  | [] => none
  | '\'' :: rest => some ([], rest)
  | c :: rest => if isPlain c then (literalBody rest).map fun (cs, r) => (c :: cs, r) else none

/-- The text behind a backslash at the end of a line, with the blank lines and indents that follow. -/
def joinedLine? (s : List Char) : Option (List Char) :=
  (newline? (skipWs s)).map skipBlankLines
where
  skipBlankLines (s : List Char) : List Char :=
    match h : newline? (skipWs s) with
    | some rest =>
      have := newline?_length h
      have := skipWs_length s
      skipBlankLines rest
    | none => skipWs s
  termination_by s.length

theorem skipBlankLines_length (s : List Char) : (joinedLine?.skipBlankLines s).length ≤ s.length := by
  fun_induction joinedLine?.skipBlankLines s with
  | case1 s rest h h1 h2 ih => omega
  | case2 s _ => exact skipWs_length s

theorem joinedLine?_length {s rest : List Char} (h : joinedLine? s = some rest) :
    rest.length < s.length := by
  simp only [joinedLine?, Option.map_eq_some_iff] at h
  obtain ⟨r, h, rfl⟩ := h
  have := newline?_length h
  have := skipWs_length s
  have := skipBlankLines_length r
  omega

/--
Reads a string of several lines up to its three closing quotes, before which one or two more quotes
may stand. A line end of either kind counts as `\n`.
-/
def multilineBody (quote : Char) (escapes : Bool) (s : List Char) : Option (List Char × List Char) :=
  match s with
  | [] => none
  | c :: rest =>
    if c = quote then
      match rest with
      | b :: a :: after =>
        if b = quote ∧ a = quote then
          let more := (after.takeWhile (· = quote)).take 2
          some (more, after.drop more.length)
        else (multilineBody quote escapes (b :: a :: after)).map fun (cs, r) => (c :: cs, r)
      | _ => none
    else if escapes ∧ c = '\\' then
      match h : joinedLine? rest with
      | some after =>
        have := joinedLine?_length h
        multilineBody quote escapes after
      | none =>
        match h : escape? rest with
        | some (e, after) =>
          have := escape?_length h
          (multilineBody quote escapes after).map fun (cs, r) => (e :: cs, r)
        | none => none
    else
      match h : newline? (c :: rest) with
      | some after =>
        have : after.length ≤ rest.length := Nat.le_of_lt_succ (newline?_length h)
        (multilineBody quote escapes after).map fun (cs, r) => ('\n' :: cs, r)
      | none =>
        if isPlain c then (multilineBody quote escapes rest).map fun (cs, r) => (c :: cs, r) else none
termination_by s.length

/-- A line end right behind the opening quotes is not part of the string. -/
def trimFirstLine (s : List Char) : List Char := (newline? s).getD s

/-- A string of any of the four kinds. -/
def string? : Reader (List Char)
  | '"' :: '"' :: '"' :: rest => multilineBody '"' true (trimFirstLine rest)
  | '"' :: rest => basicBody rest
  | '\'' :: '\'' :: '\'' :: rest => multilineBody '\'' false (trimFirstLine rest)
  | '\'' :: rest => literalBody rest
  | _ => none

/-! ## Numbers -/

/-- One digit or more, with single underscores between them. The underscores are dropped. -/
def digits? (isDigit : Char → Bool) : List Char → Option (List Char × List Char)
  | [] => none
  | c :: rest =>
    if !isDigit c then none
    else
      match rest with
      | '_' :: r => (digits? isDigit r).map fun (ds, after) => (c :: ds, after)
      | d :: r =>
        if isDigit d then (digits? isDigit (d :: r)).map fun (ds, after) => (c :: ds, after)
        else some ([c], d :: r)
      | [] => some ([c], [])

/-- A sign, if there is one: whether the number is negative. -/
def sign : List Char → Bool × List Char
  | '+' :: rest => (false, rest)
  | '-' :: rest => (true, rest)
  | s => (false, s)

/-- The digits of a decimal integer. A leading zero stands alone. -/
def decimal? (s : List Char) : Option (List Char × List Char) :=
  match s with
  | '0' :: rest => some (['0'], rest)
  | s => digits? Char.isDigit s

def inRange (n : Int) : Option Node :=
  if -0x8000000000000000 ≤ n ∧ n < 0x8000000000000000 then some (.integer n) else none

/-- Digits in a base, behind their mark. -/
def based? (base : Nat) (isDigit : Char → Bool) (s : List Char) : Option (Node × List Char) :=
  match digits? isDigit s with
  | some (ds, after) => (inRange (Ascii.digitsValue base ds)).map (·, after)
  | none => none

/-- An integer of 64 bits with a sign. -/
def integer? : Reader Node
  | '0' :: 'x' :: rest => based? 16 Ascii.isHexDigit rest
  | '0' :: 'o' :: rest => based? 8 (fun c => '0' ≤ c && c ≤ '7') rest
  | '0' :: 'b' :: rest => based? 2 (fun c => c = '0' || c = '1') rest
  | s =>
    let (negative, s) := sign s
    match decimal? s with
    | some (ds, after) =>
      let n : Int := Ascii.digitsValue 10 ds
      (inRange (if negative then -n else n)).map (·, after)
    | none => none

/-- Doubles are written positionally, whatever their size. -/
def doubleStyle : DoubleStyle := ⟨-400, 400⟩

/-- The double nearest to `0.digits · 10 ^ point`. -/
def nearest (digits : List Char) (point : Int) : Float :=
  let n := Ascii.digitsValue 10 digits
  let e := point - digits.length
  let leading := (digits.takeWhile (· = '0')).length
  if n = 0 ∨ point - leading < -400 then 0.0
  else if 400 < point - leading then Float.ofScientific 1 false 400
  else if 0 ≤ e then Float.ofScientific n false e.toNat
  else Float.ofScientific n true (-e).toNat

/-- A number beyond all doubles is read as an infinity, of which only the negative one is allowed. -/
def doubleNode? (negative : Bool) (whole fraction : List Char) (e : Int) : Option Node :=
  let x := nearest (whole ++ fraction) (whole.length + e)
  if x.isInf ∧ !negative then none else some (.double (doubleStyle.show (if negative then -x else x)))

/-- An exponent with its sign. -/
def exponent? : List Char → Option (Int × List Char)
  | c :: rest =>
    if c = 'e' ∨ c = 'E' then
      let (negative, s) := sign rest
      (digits? Char.isDigit s).map fun (ds, after) =>
        let n : Int := Ascii.digitsValue 10 ds
        (if negative then -n else n, after)
    else none
  | [] => none

/-- Whether a text goes on with an exponent. -/
def startsExponent : List Char → Bool
  | 'e' :: _ => true
  | 'E' :: _ => true
  | _ => false

/-- A number with a fraction, an exponent or both. -/
def decimalFloat? (s : List Char) : Option (Option Node × List Char) :=
  let (negative, s) := sign s
  match decimal? s with
  | none => none
  | some (whole, '.' :: rest) =>
    match digits? Char.isDigit rest with
    | none => some (none, rest)
    | some (fraction, after) =>
      if startsExponent after then
        match exponent? after with
        | some (e, after) => some (doubleNode? negative whole fraction e, after)
        | none => some (none, after)
      else some (doubleNode? negative whole fraction 0, after)
  | some (whole, after) =>
    if startsExponent after then
      match exponent? after with
      | some (e, after) => some (doubleNode? negative whole [] e, after)
      | none => some (none, after)
    else none

/-- An infinity, or no number. -/
def specialFloat? (s : List Char) : Option (Node × List Char) :=
  let (negative, s) := sign s
  match s with
  | 'i' :: 'n' :: 'f' :: rest => some (.double (if negative then "-inf" else "inf"), rest)
  | 'n' :: 'a' :: 'n' :: rest => some (.double "NaN", rest)
  | _ => none

/-! ## Dates and times -/

/-- So many digits, and what number they write. -/
def fixed? (count : Nat) (s : List Char) : Option (Nat × List Char) :=
  let ds := s.take count
  if ds.length = count ∧ ds.all Char.isDigit then some (Ascii.digitsValue 10 ds, s.drop count) else none

def bounded? (low high : Nat) (s : List Char) : Option (List Char) :=
  match fixed? 2 s with
  | some (n, rest) => if low ≤ n ∧ n ≤ high then some rest else none
  | none => none

/-- Drops one character that must come next. -/
def expect? (c : Char) : List Char → Option (List Char)
  | d :: rest => if d = c then some rest else none
  | [] => none

/-- The days of a month. -/
def monthDays (year month : Nat) : Nat :=
  if month = 2 then
    if year % 4 = 0 ∧ (year % 100 ≠ 0 ∨ year % 400 = 0) then 29 else 28
  else if month = 4 ∨ month = 6 ∨ month = 9 ∨ month = 11 then 30
  else 31

/-- Fractions of a second, if there are any. -/
def secondFraction : List Char → List Char
  | '.' :: c :: rest => if c.isDigit then rest.dropWhile Char.isDigit else '.' :: c :: rest
  | s => s

/-- The minutes and seconds of a time, behind the hour and its colon. -/
def minutesSeconds? (s : List Char) : Option (List Char) := do
  let s ← expect? ':' (← bounded? 0 59 s)
  return secondFraction (← bounded? 0 60 s)

/-- A time of day. The inner option is empty when the text starts as a time and goes wrong later. -/
def time? (s : List Char) : Option (Option (List Char)) :=
  match bounded? 0 23 s with
  | some (':' :: rest) => some (minutesSeconds? rest)
  | _ => none

/-- An offset from universal time, if there is one. -/
def offset? : List Char → Option (List Char)
  | 'Z' :: rest => some rest
  | 'z' :: rest => some rest
  | c :: rest =>
    if c = '+' ∨ c = '-' then do bounded? 0 59 (← expect? ':' (← bounded? 0 23 rest))
    else some (c :: rest)
  | [] => some []

/-- A time behind a date, if there is one. -/
def dateTail? : List Char → Option (List Char)
  | c :: rest =>
    if c = 'T' ∨ c = 't' ∨ c = ' ' then
      match time? rest with
      | some (some after) => offset? after
      | some none => none
      | none => some (c :: rest)
    else some (c :: rest)
  | [] => some []

/-- The rest of a date behind its year and the first dash. -/
def monthDay? (year : Nat) (s : List Char) : Option (List Char) := do
  let (month, s) ← fixed? 2 s
  if month < 1 ∨ 12 < month then none
  let (day, s) ← fixed? 2 (← expect? '-' s)
  if day < 1 ∨ monthDays year month < day then none
  return s

/-- A date, a time, or both. The inner option is empty when the text starts as one and goes wrong later. -/
def moment? (s : List Char) : Option (Option (List Char)) :=
  match fixed? 4 s with
  | some (year, '-' :: rest) => some (do dateTail? (← monthDay? year rest))
  | _ => time? s

/-! ## Any of them -/

/-- A value that begins with a sign or a digit. The first kind that fits the beginning is the one meant. -/
def numeric? (s : List Char) : Option (Node × List Char) :=
  match moment? s with
  | some rest => rest.map (.moment, ·)
  | none =>
    match decimalFloat? s with
    | some (node, rest) => node.map (·, rest)
    | none => (specialFloat? s).or (integer? s)

/-- A value without parts. -/
def scalar? : Reader Node
  | 't' :: 'r' :: 'u' :: 'e' :: rest => some (.bool true, rest)
  | 'f' :: 'a' :: 'l' :: 's' :: 'e' :: rest => some (.bool false, rest)
  | 'i' :: 'n' :: 'f' :: rest => some (.double "inf", rest)
  | 'n' :: 'a' :: 'n' :: rest => some (.double "NaN", rest)
  | c :: rest =>
    if c = '"' ∨ c = '\'' then (string? (c :: rest)).map fun (cs, after) => (.text (String.ofList cs), after)
    else if c = '+' ∨ c = '-' ∨ c.isDigit then numeric? (c :: rest)
    else none
  | [] => none

end ReverseProxy.Toml
