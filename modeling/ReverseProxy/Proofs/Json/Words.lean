import ReverseProxy.Proofs.Json.Document
import ReverseProxy.Proofs.Text.Digits

/-! # The words of a text that was written -/

namespace ReverseProxy.Json

variable {rest : List Char}

/-! ## Strings -/

/-- How a character of a written string is read. -/
def pieceOf (c : Char) : Piece :=
  if c < ' ' ∧ c ∉ ['\x08', '\x0c', '\n', '\r', '\t'] then .unit c.toNat else .char c

theorem control_digits : ∀ n < 32, ['0', '0', Nat.digitChar (n / 16), Nat.digitChar (n % 16)].all Ascii.isHexDigit ∧
    Ascii.digitsValue 16 ['0', '0', Nat.digitChar (n / 16), Nat.digitChar (n % 16)] = n := by
  decide

theorem stringBody_escape (c : Char) (rest : List Char) :
    stringBody (escape c ++ rest) = (stringBody rest).map fun (pieces, after) => (pieceOf c :: pieces, after) := by
  unfold escape
  split
  all_goals first | rfl | skip
  rename_i hquote hbackslash h8 hc hn hr ht
  split
  next hcontrol =>
    have hunit : pieceOf c = .unit c.toNat := by
      rw [pieceOf, if_pos ⟨hcontrol, by simp; grind⟩]
    obtain ⟨hdigits, hvalue⟩ := control_digits c.toNat hcontrol
    rw [hunit]
    simp only [List.cons_append, List.nil_append]
    rw [stringBody, if_pos hdigits, hvalue]
  next hplain =>
    have hchar : pieceOf c = .char c := by
      rw [pieceOf, if_neg (fun h => hplain h.1)]
    rw [hchar, List.singleton_append, stringBody, if_neg (not_or.mpr ⟨hbackslash, hplain⟩)]
    · exact hquote
    · intro _ _ _ _ _ h
      exact (hbackslash h).elim
    · intro _ _ h
      exact (hbackslash h).elim

theorem joinPieces_unit {n : Nat} (h : n < 0xD800) (rest : List Piece) :
    joinPieces (.unit n :: rest) = (joinPieces rest).map (Char.ofNat n :: ·) := by
  have hhigh : ¬(0xD800 ≤ n ∧ n < 0xDC00) := by omega
  have hlow : ¬(0xDC00 ≤ n ∧ n < 0xE000) := by omega
  have hany : ¬(0xD800 ≤ n ∧ n < 0xE000) := by omega
  cases rest with
  | nil => simp [joinPieces, hany]
  | cons piece rest =>
    cases piece with
    | char c => simp [joinPieces, hany]
    | unit low => rw [joinPieces, if_neg hhigh, if_neg hlow]

theorem joinPieces_pieceOf (cs : List Char) : joinPieces (cs.map pieceOf) = some cs := by
  induction cs with
  | nil => rfl
  | cons c cs ih =>
    rw [List.map_cons, pieceOf]
    split
    next h =>
      have : c.toNat < 32 := h.1
      rw [joinPieces_unit (by omega), ih, Char.ofNat_toNat]
      rfl
    next => rw [joinPieces, ih]; rfl

theorem stringBody_quoted (cs : List Char) :
    stringBody (cs.flatMap escape ++ '"' :: rest) = some (cs.map pieceOf, rest) := by
  induction cs with
  | nil => rfl
  | cons c cs ih =>
    rw [List.flatMap_cons, List.append_assoc, stringBody_escape, ih]
    rfl

theorem atom?_quoted (s : String) : atom? (quoted s ++ rest) = some (.text s, rest) := by
  have hbody : quoted s ++ rest = '"' :: (s.toList.flatMap escape ++ '"' :: rest) := by simp [quoted]
  rw [hbody, atom?, stringBody_quoted]
  simp only [Option.map_some, stringNode, joinPieces_pieceOf, String.ofList_toList]

/-! ## Numbers -/

/-- A text that ends, or goes on with what may stand behind a value. -/
def Stops (rest : List Char) : Prop := ∀ c ∈ rest.head?, c ∈ [',', ']', '\x7d']

theorem stops_cases (h : Stops rest) : rest = [] ∨ ∃ r, rest = ',' :: r ∨ rest = ']' :: r ∨ rest = '\x7d' :: r := by
  cases rest with
  | nil => exact .inl rfl
  | cons c r => exact .inr ⟨r, by simpa [Stops] using h⟩

theorem Stops.ends (h : Stops rest) : Digits.Ends rest := by
  rcases stops_cases h with rfl | ⟨r, rfl | rfl | rfl⟩ <;> simp [Digits.Ends]

theorem toDigits_ne_minus (n : Nat) (r : List Char) : Nat.toDigits 10 n ++ rest ≠ '-' :: r := by
  obtain ⟨c, cs, hcs⟩ := List.exists_cons_of_ne_nil (Nat.toDigits_ne_nil (n := n) (b := 10))
  have hc : c.isDigit := Digits.isDigit_of_mem (n := n) (by simp [hcs])
  rw [hcs, List.cons_append]
  intro h
  cases h
  cases hc

theorem number?_of_digits (hrest : Stops rest) (n : Nat) (negative : Bool) :
    number? ((if negative then ['-'] else []) ++ (Nat.toDigits 10 n ++ rest)) =
      some (numberNode negative (Nat.toDigits 10 n) [] none false, rest) := by
  have htake : takeDigits (Nat.toDigits 10 n ++ rest) = (Nat.toDigits 10 n, rest) := by
    rw [takeDigits, Digits.takeWhile_append hrest.ends, Digits.dropWhile_append hrest.ends]
  have hlead : ¬((Nat.toDigits 10 n).isEmpty ∨
      (Nat.toDigits 10 n).head? = some '0' ∧ 1 < (Nat.toDigits 10 n).length) := by
    rintro (hempty | ⟨hzero, hlength⟩)
    · exact Nat.toDigits_ne_nil (List.isEmpty_iff.mp hempty)
    · rw [Digits.length_of_head? hzero] at hlength
      exact absurd hlength (by decide)
  cases negative with
  | true =>
    rw [if_pos rfl, List.singleton_append, number?]
    simp only [htake, if_neg hlead]
    rcases stops_cases hrest with rfl | ⟨r, rfl | rfl | rfl⟩ <;> rfl
  | false =>
    rw [if_neg Bool.false_ne_true, List.nil_append, number?]
    · simp only [htake, if_neg hlead]
      rcases stops_cases hrest with rfl | ⟨r, rfl | rfl | rfl⟩ <;> rfl
    · exact toDigits_ne_minus n

theorem foldl_whole {n : Nat} (h : n ≤ maxCount) :
    (Nat.toDigits 10 n).foldl Significand.whole {} = { value := n } := by
  have hdigit : ∀ d < 10, (Nat.digitChar d).toNat - '0'.toNat = d := by decide
  refine Digits.foldl_eq (g := fun n => (⟨n, false, 0⟩ : Significand)) ?_ ?_ h
  · intro d hd hlimit
    simp only [Significand.whole, hdigit d hd]
    simp [hlimit]
  · intro m d hd hlimit
    simp only [Significand.whole, hdigit d hd]
    simp [hlimit]

theorem exists_decimal_cons (n : Int) : ∃ c s, decimal n = c :: s ∧ (c = '-' ∨ c.isDigit) := by
  unfold decimal
  split
  next => exact ⟨'-', _, rfl, .inl rfl⟩
  next =>
    obtain ⟨c, s, hs⟩ := List.exists_cons_of_ne_nil (Nat.toDigits_ne_nil (n := n.natAbs) (b := 10))
    exact ⟨c, s, hs, .inr (Digits.isDigit_of_mem (n := n.natAbs) (by simp [hs]))⟩

/-- The whole numbers that are read as they are written. -/
def InRange (n : Int) : Prop := -0x8000000000000000 ≤ n ∧ n ≤ maxCount

theorem number?_decimal {n : Int} (hn : InRange n) (hrest : Stops rest) :
    number? (decimal n ++ rest) = some (.integer n, rest) := by
  obtain ⟨hlow, hhigh⟩ := hn
  have hsign : decimal n ++ rest =
      (if decide (n < 0) then ['-'] else []) ++ (Nat.toDigits 10 n.natAbs ++ rest) := by
    unfold decimal
    split <;> simp [*]
  have hlimit : n.natAbs ≤ maxCount := by
    unfold maxCount at *
    omega
  rw [hsign, number?_of_digits hrest, numberNode, foldl_whole hlimit]
  by_cases hneg : n < 0
  · have hvalue : ¬(n.natAbs = 0 ∨ 0x8000000000000000 < n.natAbs) := by omega
    have habs : -(n.natAbs : Int) = n := by omega
    simp only [hneg, hvalue, habs, decide_true, Bool.not_false, Option.isNone_none, Bool.and_self, if_true,
      Bool.not_true, Bool.false_eq_true, if_false]
  · have habs : (n.natAbs : Int) = n := by omega
    simp [hneg, habs]

/-! ## Values without parts -/

/-- What can be written: anything but a number with a fraction, an exponent or too many digits. -/
def Writable : Node → Prop
  | .null | .bool _ | .text _ => True
  | .integer n => InRange n
  | _ => False

theorem atom?_writeAtom {node : Node} (h : Writable node) (hrest : Stops rest) :
    atom? (writeAtom node ++ rest) = some (node, rest) := by
  cases node with
  | null => rfl
  | bool b => cases b <;> rfl
  | integer n =>
    obtain ⟨c, s, hs, hc⟩ := exists_decimal_cons n
    have hquote : c ≠ '"' := by
      rintro rfl
      revert hc
      decide
    have hnumber := number?_decimal h hrest
    rw [hs, List.cons_append] at hnumber
    rw [writeAtom, hs, List.cons_append, atom?, if_pos hc, hnumber]
    exact hquote
  | text s => exact atom?_quoted s
  | _ => exact h.elim

theorem start_of_atom? {c : Char} {s : List Char} {found : Node × List Char} (h : atom? (c :: s) = some found) :
    isSpace c = false ∧ mark? c = none := by
  constructor
  · refine Bool.eq_false_iff.mpr ?_
    intro hspace
    simp only [isSpace, Bool.or_eq_true, decide_eq_true_eq] at hspace
    rcases hspace with ((rfl | rfl) | rfl) | rfl <;> cases h
  · unfold mark?
    split <;> first | rfl | cases h

/-! ## All words -/

theorem scan_of_atom? {s after : List Char} {node : Node} (h : atom? s = some (node, after)) :
    Token.scan s = .atom node :: Token.scan after := by
  cases s with
  | nil => cases h
  | cons c s =>
    obtain ⟨hspace, hmark⟩ := start_of_atom? h
    rw [Token.scan, hspace, hmark]
    simp only [Bool.false_eq_true, if_false]
    split
    next heq =>
      rw [h] at heq
      cases heq
      rfl
    next heq =>
      rw [h] at heq
      cases heq

theorem scan_mark {c : Char} {token : Token} (h : mark? c = some token) (rest : List Char) :
    Token.scan (c :: rest) = token :: Token.scan rest := by
  have hspace : isSpace c = false := by
    unfold mark? at h
    split at h <;> first | rfl | cases h
  rw [Token.scan, hspace, h]
  rfl

/-- The text of a node is scanned to its words, wherever a value may stand. -/
def ScannedBack (node : Node) : Prop :=
  ∀ rest, Stops rest → Token.scan ((words node).flatMap Token.write ++ rest) = words node ++ Token.scan rest

theorem stops_moreItems (items : List Node) (rest : List Char) :
    Stops ((moreItems items).flatMap Token.write ++ rest) := by
  cases items <;> simp [moreItems, Token.write, Stops]

theorem stops_moreMembers (members : List (Node × Node)) (rest : List Char) :
    Stops ((moreMembers members).flatMap Token.write ++ rest) := by
  cases members <;> simp [moreMembers, Token.write, Stops]

theorem scan_moreItems {items : List Node} (h : ∀ item ∈ items, ScannedBack item) (rest : List Char) :
    Token.scan ((moreItems items).flatMap Token.write ++ rest) = moreItems items ++ Token.scan rest := by
  induction items with
  | nil => exact scan_mark rfl rest
  | cons item items ih =>
    obtain ⟨hitem, hrest⟩ := List.forall_mem_cons.mp h
    rw [moreItems, List.flatMap_cons, List.flatMap_append, List.append_assoc, List.append_assoc, List.cons_append,
      List.append_assoc, ← ih hrest, ← hitem _ (stops_moreItems items rest)]
    exact scan_mark rfl _

theorem scan_key {key : Node} (hkey : isKey key) (hwritable : Writable key) (rest : List Char) :
    Token.scan (writeAtom key ++ ':' :: rest) = .atom key :: .colon :: Token.scan rest := by
  cases key with
  | text s => rw [writeAtom, scan_of_atom? (atom?_quoted s), scan_mark rfl]
  | garbled => exact hwritable.elim
  | _ => cases hkey

theorem scan_moreMembers {members : List (Node × Node)}
    (h : ∀ m ∈ members, (isKey m.1 ∧ Writable m.1) ∧ ScannedBack m.2) (rest : List Char) :
    Token.scan ((moreMembers members).flatMap Token.write ++ rest) = moreMembers members ++ Token.scan rest := by
  induction members with
  | nil => exact scan_mark rfl rest
  | cons member members ih =>
    obtain ⟨key, value⟩ := member
    obtain ⟨⟨⟨hkey, hwritable⟩, hvalue⟩, hrest⟩ := List.forall_mem_cons.mp h
    have htext : (moreMembers ((key, value) :: members)).flatMap Token.write ++ rest =
        ',' :: (writeAtom key ++ ':' :: ((words value).flatMap Token.write ++
          ((moreMembers members).flatMap Token.write ++ rest))) := by
      simp [moreMembers, Token.write]
    rw [htext, scan_mark rfl, scan_key hkey hwritable, hvalue _ (stops_moreMembers members rest), ih hrest,
      moreMembers]
    simp

theorem scannedBack {node : Node} (h : WellFormed Writable node) : ScannedBack node := by
  induction h with
  | @atom node hatom hwritable =>
    intro rest hrest
    rw [words_of_isAtom hatom, List.flatMap_singleton, Token.write]
    exact scan_of_atom? (atom?_writeAtom hwritable hrest)
  | @sequence items _ ih =>
    intro rest hrest
    cases items with
    | nil => rw [words]; simp [Token.write, scan_mark (c := '[') rfl, scan_mark (c := ']') rfl]
    | cons item items =>
      obtain ⟨hitem, hitems⟩ := List.forall_mem_cons.mp ih
      have htext : (words (.sequence (item :: items) true)).flatMap Token.write ++ rest =
          '[' :: ((words item).flatMap Token.write ++ ((moreItems items).flatMap Token.write ++ rest)) := by
        simp [words, Token.write]
      rw [htext, scan_mark rfl, hitem _ (stops_moreItems items rest), scan_moreItems hitems, words]
      simp
  | @mapping members hkeys _ ih =>
    intro rest hrest
    cases members with
    | nil => rw [words]; simp [Token.write, scan_mark (c := '\x7b') rfl, scan_mark (c := '\x7d') rfl]
    | cons member members =>
      obtain ⟨key, value⟩ := member
      obtain ⟨⟨hkey, hwritable⟩, hkeys⟩ := List.forall_mem_cons.mp hkeys
      obtain ⟨hvalue, hvalues⟩ := List.forall_mem_cons.mp ih
      have htext : (words (.mapping ((key, value) :: members) true)).flatMap Token.write ++ rest =
          '\x7b' :: (writeAtom key ++ ':' :: ((words value).flatMap Token.write ++
            ((moreMembers members).flatMap Token.write ++ rest))) := by
        simp [words, Token.write]
      rw [htext, scan_mark rfl, scan_key hkey hwritable, hvalue _ (stops_moreMembers members rest),
        scan_moreMembers (fun m hm => ⟨hkeys m hm, hvalues m hm⟩), words]
      simp

theorem scan_write {node : Node} (h : WellFormed Writable node) : Token.scan (write node).toList = words node := by
  have hscan := scannedBack h [] nofun
  rw [List.append_nil, Token.scan, List.append_nil] at hscan
  rw [write, String.toList_ofList, hscan]

/-- What is written is read as it was. -/
theorem ofText_write {node : Node} (h : WellFormed Writable node) : Document.ofText (write node) = ⟨node, true⟩ :=
  ofText_of_words h (scan_write h)

/-! ## Documents that can be written -/

theorem wellFormed_record_iff {pairs : List (String × Node)} :
    WellFormed Writable (Node.record pairs) ↔ ∀ p ∈ pairs, WellFormed Writable p.2 := by
  rw [Node.record, wellFormed_mapping_iff, List.forall_mem_map]
  exact forall₂_congr fun p _ => and_iff_right ⟨rfl, trivial⟩

theorem wellFormed_list_iff {items : List Node} :
    WellFormed Writable (Node.list items) ↔ ∀ item ∈ items, WellFormed Writable item := wellFormed_sequence_iff

/-! ## Any text -/

theorem isAtom_doubleNode (negative : Bool) (significand : Nat) (exponent : Int) :
    isAtom (doubleNode negative significand exponent) := by
  unfold doubleNode
  split <;> rfl

theorem isAtom_numberNode (negative : Bool) (whole fraction : List Char) (exponent : Option (Bool × List Char))
    (pointed : Bool) : isAtom (numberNode negative whole fraction exponent pointed) := by
  simp only [numberNode]
  repeat' split
  all_goals first | rfl | exact isAtom_doubleNode _ _ _

theorem isAtom_of_number? {s after : List Char} {node : Node} (h : number? s = some (node, after)) :
    isAtom node := by
  simp only [number?] at h
  repeat' split at h
  all_goals
    first
    | cases h
    | obtain ⟨_, -, heq⟩ := Option.map_eq_some_iff.mp h
      cases heq
      exact isAtom_numberNode _ _ _ _ _

theorem isAtom_of_atom? {s after : List Char} {node : Node} (h : atom? s = some (node, after)) : isAtom node := by
  unfold atom? at h
  split at h
  next =>
    obtain ⟨_, -, heq⟩ := Option.map_eq_some_iff.mp h
    cases heq
    unfold stringNode
    split <;> rfl
  next =>
    split at h
    next => exact isAtom_of_number? h
    next =>
      unfold named? at h
      split at h <;> cases h <;> rfl
  next => cases h

theorem isSound_of_scan (s : List Char) : ∀ token ∈ Token.scan s, token.isSound := by
  fun_induction Token.scan s with
  | case1 => nofun
  | case2 _ _ _ ih => exact ih
  | case3 c rest _ token htoken ih =>
    refine List.forall_mem_cons.mpr ⟨?_, ih⟩
    unfold mark? at htoken
    split at htoken <;> cases htoken <;> rfl
  | case4 c rest _ _ node after hatom _ ih => exact List.forall_mem_cons.mpr ⟨isAtom_of_atom? hatom, ih⟩
  | case5 => exact List.forall_mem_cons.mpr ⟨rfl, nofun⟩

/-- A text that holds one document and nothing else holds a well-formed one, and has its words. -/
theorem isValue_ofText {text : String} (h : (Document.ofText text).alone) :
    IsValue (Document.ofText text).root ∧ Token.scan text.toList = words (Document.ofText text).root :=
  words_of_alone (isSound_of_scan _) h

end ReverseProxy.Json
