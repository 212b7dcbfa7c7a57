import Mathlib.Data.List.Induction
import ReverseProxy.Proofs.Balance.Address

/-! # How addresses are written -/

namespace ReverseProxy.Address

/-! ## Ports -/

/-- Digits and the number that they write. Zeros in front say nothing. -/
inductive Numeral : List Char → Nat → Prop where
  | digit {d : Nat} (hd : d < 10) : Numeral [Nat.digitChar d] d
  | next {digits : List Char} {n d : Nat} (h : Numeral digits n) (hd : d < 10) :
    Numeral (digits ++ [Nat.digitChar d]) (n * 10 + d)

/-- A numeral, with or without a plus sign. -/
def Denotes (text : List Char) (n : Nat) : Prop :=
  ∃ digits, Numeral digits n ∧ (text = digits ∨ text = '+' :: digits)

theorem isDigit_digitChar : ∀ d < 10, (Nat.digitChar d).isDigit = true := by decide

theorem toNat_digitChar : ∀ d < 10, (Nat.digitChar d).toNat - '0'.toNat = d := by decide

theorem exists_digit {c : Char} (h : c.isDigit = true) : ∃ d < 10, c = Nat.digitChar d := by
  obtain ⟨hlow, hhigh⟩ := Ascii.isDigit_iff.mp h
  have hlow : 48 ≤ c.toNat := hlow
  have hhigh : c.toNat ≤ 57 := hhigh
  refine ⟨c.toNat - 48, by omega, Char.toNat_inj.mp ?_⟩
  rw [Nat.toNat_digitChar_of_lt_ten (by omega)]
  omega

theorem decimalValue_append_singleton (digits : List Char) (c : Char) :
    decimalValue (digits ++ [c]) = decimalValue digits * 10 + (c.toNat - '0'.toNat) := by
  simp [decimalValue]

theorem decimalValue_digit {d : Nat} (hd : d < 10) : decimalValue [Nat.digitChar d] = d := by
  rw [← List.nil_append [_], decimalValue_append_singleton, toNat_digitChar d hd]
  exact Nat.zero_add d

theorem numeral_iff {digits : List Char} {n : Nat} :
    Numeral digits n ↔ digits ≠ [] ∧ digits.all Char.isDigit = true ∧ decimalValue digits = n := by
  constructor
  · intro h
    induction h with
    | digit hd =>
      exact ⟨List.cons_ne_nil _ _, by simp [isDigit_digitChar _ hd], decimalValue_digit hd⟩
    | next _ hd ih =>
      refine ⟨by simp, by simp [ih.2.1, isDigit_digitChar _ hd], ?_⟩
      rw [decimalValue_append_singleton, toNat_digitChar _ hd, ih.2.2]
  · rintro ⟨hne, hall, rfl⟩
    -- The value grows at the end of the text, so the last digit is taken off and not the first.
    induction digits using List.reverseRecOn with
    | nil => exact absurd rfl hne
    | append_singleton digits c ih =>
      simp only [List.all_append, List.all_cons, List.all_nil, Bool.and_true, Bool.and_eq_true] at hall
      obtain ⟨d, hd, rfl⟩ := exists_digit hall.2
      by_cases hnil : digits = []
      · subst hnil
        rw [List.nil_append, decimalValue_digit hd]
        exact .digit hd
      · rw [decimalValue_append_singleton, toNat_digitChar d hd]
        exact .next (ih hnil hall.1) hd

theorem denotes_iff {text : List Char} {n : Nat} : Denotes text n ↔ Numeral (dropPlus text) n := by
  constructor
  · rintro ⟨digits, h, rfl | rfl⟩
    · rwa [dropPlus_of_digits (numeral_iff.mp h).2.1]
    · exact h
  · intro h
    unfold dropPlus at h
    split at h
    next digits => exact ⟨digits, h, .inr rfl⟩
    next => exact ⟨text, h, .inl rfl⟩

theorem readPort?_eq_some {text : List Char} {port : UInt16} :
    readPort? text = some port ↔ Denotes text port.toNat := by
  rw [denotes_iff, numeral_iff]
  simp only [readPort?]
  constructor
  · intro h
    split at h
    next hdigits =>
      obtain ⟨hne, hall, hsmall⟩ := hdigits
      cases h
      exact ⟨hne, hall, (UInt16.toNat_ofNat_of_lt hsmall).symm⟩
    next => cases h
  · rintro ⟨hne, hall, hvalue⟩
    rw [if_pos ⟨hne, hall, by rw [hvalue]; exact port.toNat_lt⟩, hvalue, UInt16.ofNat_toNat]

theorem readPort?_eq_none {text : List Char} :
    readPort? text = none ↔ ∀ n < 65536, ¬Denotes text n := by
  rw [Option.eq_none_iff_forall_ne_some]
  constructor
  · intro h n hn hdenotes
    rw [← UInt16.toNat_ofNat_of_lt hn] at hdenotes
    exact h _ (readPort?_eq_some.mpr hdenotes)
  · intro h port hport
    exact h _ port.toNat_lt (readPort?_eq_some.mp hport)

theorem colon_notMem_of_denotes {text : List Char} {port : UInt16} (h : Denotes text port.toNat) : ':' ∉ text :=
  notMem_of_readPort? (readPort?_eq_some.mpr h) rfl (by decide)

/-! ## Brackets -/

def Enclosed (host : List Char) : Prop := ∃ inner, host = '[' :: (inner ++ [']'])

theorem unbracket_enclosed (inner : List Char) : unbracket ('[' :: (inner ++ [']'])) = inner := by
  simp [unbracket]

theorem unbracket_of_not_enclosed {host : List Char} (h : ¬Enclosed host) : unbracket host = host := by
  unfold unbracket
  split
  next inner =>
    split
    next hlast =>
      obtain ⟨init, rfl⟩ := List.getLast?_eq_some_iff.mp hlast
      exact absurd ⟨init, rfl⟩ h
    next => rfl
  next => rfl

/-! ## Addresses -/

/--
How an address is written. The last form is one that nobody would write on purpose: a bracket in front
lets colons into the host, although nothing closes it at the end.
-/
inductive Written (a : Address) : List Char → Prop where
  | plain {port : List Char} (hport : Denotes port a.port.toNat) (hne : a.host ≠ "")
      (hcolon : ':' ∉ a.host.toList) (hopen : ¬Enclosed a.host.toList) :
    Written a (a.host.toList ++ ':' :: port)
  | enclosed {port : List Char} (hport : Denotes port a.port.toNat) (hne : a.host ≠ "") :
    Written a ('[' :: (a.host.toList ++ [']']) ++ ':' :: port)
  | unclosed {port : List Char} (hport : Denotes port a.port.toNat) (hhead : a.host.toList.head? = some '[')
      (hcolon : ':' ∈ a.host.toList) (hopen : ¬Enclosed a.host.toList) :
    Written a (a.host.toList ++ ':' :: port)

theorem ofList?_append {a : Address} {before port : List Char} (hport : Denotes port a.port.toNat)
    (hhost : unbracket before = a.host.toList) (hne : a.host ≠ "")
    (hcolon : ':' ∈ a.host.toList → before.head? = some '[') : ofList? (before ++ ':' :: port) = some a := by
  rw [ofList?, splitAtLast_append (colon_notMem_of_denotes hport)]
  dsimp only
  rw [hhost, if_neg, readPort?_eq_some.mpr hport, Option.map_some, String.ofList_toList]
  rintro (hnil | ⟨hmem, hhead⟩)
  · exact hne (String.toList_eq_nil_iff.mp hnil)
  · rw [List.head?_append, hcolon hmem] at hhead
    exact hhead rfl

theorem ofList?_of_not_denotes {before port : List Char} (hport : ∀ n < 65536, ¬Denotes port n)
    (hcolon : ':' ∉ port) : ofList? (before ++ ':' :: port) = none := by
  rw [ofList?, splitAtLast_append hcolon]
  dsimp only
  split
  · rfl
  · rw [readPort?_eq_none.mpr hport, Option.map_none]

/-- What stands before the last colon of an address, and behind it. -/
theorem of_ofList? {text : List Char} {a : Address} (h : ofList? text = some a) :
    ∃ before port, text = before ++ ':' :: port ∧ Denotes port a.port.toNat ∧
      a.host.toList = unbracket before ∧ a.host ≠ "" ∧
      (':' ∈ a.host.toList → text.head? = some '[') := by
  unfold ofList? at h
  split at h
  next => cases h
  next before port hsplit =>
    dsimp only at h
    split at h
    next => cases h
    next hfine =>
      obtain ⟨n, hport, rfl⟩ := Option.map_eq_some_iff.mp h
      simp only [not_or, not_and, not_not] at hfine
      simp only [ne_eq, ← String.toList_eq_nil_iff, String.toList_ofList]
      exact ⟨before, port, (of_splitAtLast hsplit).1, readPort?_eq_some.mp hport, rfl, hfine⟩

theorem ofList?_eq_some {text : List Char} {a : Address} : ofList? text = some a ↔ Written a text := by
  constructor
  · intro h
    obtain ⟨before, port, rfl, hport, hhost, hne, hhead⟩ := of_ofList? h
    -- Brackets are taken off as a pair or not at all, but the colons ask only for the first of them.
    by_cases henclosed : Enclosed before
    · obtain ⟨inner, rfl⟩ := henclosed
      rw [unbracket_enclosed] at hhost
      rw [← hhost]
      exact .enclosed hport hne
    · rw [unbracket_of_not_enclosed henclosed] at hhost
      subst hhost
      by_cases hcolon : ':' ∈ a.host.toList
      · rw [List.head?_append_of_ne_nil _ (List.ne_nil_of_mem hcolon)] at hhead
        exact .unclosed hport (hhead hcolon) hcolon henclosed
      · exact .plain hport hne hcolon henclosed
  · intro h
    cases h with
    | plain hport hne hcolon hopen =>
      exact ofList?_append hport (unbracket_of_not_enclosed hopen) hne fun h => absurd h hcolon
    | enclosed hport hne => exact ofList?_append hport (unbracket_enclosed _) hne fun _ => rfl
    | unclosed hport hhead hcolon hopen =>
      refine ofList?_append hport (unbracket_of_not_enclosed hopen) ?_ fun _ => hhead
      intro hempty
      simp [hempty] at hcolon

theorem parse_eq_ok {text : String} {a : Address} : parse text = .ok a ↔ ofList? text.toList = some a := by
  unfold parse
  split <;> simp_all

/-- An address is read from just those texts that it is written as. -/
theorem parse_iff_written {text : String} {a : Address} : parse text = .ok a ↔ Written a text.toList :=
  parse_eq_ok.trans ofList?_eq_some

/-- The host of such an address is not what anybody meant. -/
theorem parse_unclosed :
    parse "[::1:8080" = .ok ⟨"[::1", 8080⟩ ∧ ':' ∈ "[::1".toList ∧
      ∀ port, "[::1:8080" ≠ "[" ++ "[::1" ++ "]:" ++ port := by
  refine ⟨by decide, by decide, ?_⟩
  intro port h
  have := congrArg String.toList h
  simp at this

/-! ## Reading back -/

/-- How the text behind the last colon decides what is read. -/
structure ReadBack (port : String) : Prop where
  plain : ∀ a : Address, Denotes port.toList a.port.toNat → a.host ≠ "" → ':' ∉ a.host.toList →
    ¬Enclosed a.host.toList → parse (a.host ++ ":" ++ port) = .ok a
  enclosed : ∀ a : Address, Denotes port.toList a.port.toNat → a.host ≠ "" →
    parse ("[" ++ a.host ++ "]:" ++ port) = .ok a
  refused : (∀ n < 65536, ¬Denotes port.toList n) → ':' ∉ port.toList →
    ∀ before, parse (before ++ ":" ++ port) = .error (.invalidAddress (before ++ ":" ++ port))

theorem toList_colon (host port : String) : (host ++ ":" ++ port).toList = host.toList ++ ':' :: port.toList := by
  simp [String.toList_append]

theorem parse_readBack (port : String) : ReadBack port := by
  constructor
  case plain =>
    intro a hport hne hcolon hopen
    rw [parse_eq_ok, toList_colon]
    exact ofList?_append hport (unbracket_of_not_enclosed hopen) hne fun h => absurd h hcolon
  case enclosed =>
    intro a hport hne
    have htext : ("[" ++ a.host ++ "]:" ++ port).toList = '[' :: (a.host.toList ++ [']']) ++ ':' :: port.toList := by
      simp [String.toList_append]
    rw [parse_eq_ok, htext]
    exact ofList?_append hport (unbracket_enclosed _) hne fun _ => rfl
  case refused =>
    intro hport hcolon before
    rw [parse, toList_colon, ofList?_of_not_denotes hport hcolon]

example : parse "[fe80::1]:+0443" = .ok ⟨"fe80::1", 443⟩ := by decide

example : parse "s1:65536" = .error (.invalidAddress "s1:65536") := by decide

end ReverseProxy.Address
