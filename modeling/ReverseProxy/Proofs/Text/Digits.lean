import Mathlib.Data.List.Basic
import ReverseProxy.Proofs.Text.Ascii

/-! # The digits of a number -/

namespace ReverseProxy.Digits

variable {n : Nat} {rest : List Char}

theorem isDigit_of_mem {c : Char} (h : c ∈ Nat.toDigits 10 n) : c.isDigit :=
  Nat.isDigit_of_mem_toDigits (by decide) (by decide) h

/-- A number is written as a digit, behind the digits of its tenth if it has any. -/
theorem induction {motive : Nat → Prop} (small : ∀ d < 10, motive d)
    (large : ∀ n, 10 ≤ n → motive (n / 10) → motive n) (n : Nat) : motive n := by
  induction n using Nat.strongRecOn with
  | ind n ih =>
    by_cases h : n < 10
    · exact small n h
    · exact large n (by omega) (ih (n / 10) (by omega))

/-- What a fold over the digits makes of a number, if it does so digit by digit. -/
theorem foldl_eq {β : Type} {f : β → Char → β} {init : β} {g : Nat → β} {limit : Nat}
    (hfirst : ∀ d < 10, d ≤ limit → f init (Nat.digitChar d) = g d)
    (hnext : ∀ n, ∀ d < 10, n * 10 + d ≤ limit → f (g n) (Nat.digitChar d) = g (n * 10 + d)) (h : n ≤ limit) :
    (Nat.toDigits 10 n).foldl f init = g n := by
  induction n using Digits.induction with
  | small d hd =>
    rw [Nat.toDigits_of_lt_base hd]
    exact hfirst d hd h
  | large n hn ih =>
    rw [Nat.toDigits_of_base_le (by decide) hn, List.foldl_append, ih (by omega)]
    have hsplit : n / 10 * 10 + n % 10 = n := by omega
    refine (hnext (n / 10) (n % 10) (by omega) (by omega)).trans ?_
    rw [hsplit]

theorem head?_ne_zero (h : n ≠ 0) : (Nat.toDigits 10 n).head? ≠ some '0' := by
  induction n using Digits.induction with
  | small d hd =>
    rw [Nat.toDigits_of_lt_base hd, List.head?_cons, ne_eq, Option.some.injEq, Nat.digitChar_eq_zero]
    exact h
  | large n hn ih =>
    rw [Nat.toDigits_of_base_le (by decide) hn, List.head?_append_of_ne_nil _ Nat.toDigits_ne_nil]
    exact ih (by omega)

theorem length_of_head? (h : (Nat.toDigits 10 n).head? = some '0') : (Nat.toDigits 10 n).length = 1 := by
  have hzero : n = 0 := Classical.byContradiction fun hne => head?_ne_zero hne h
  rw [hzero]
  rfl

theorem digitsValue_toDigits (n : Nat) : Ascii.digitsValue 10 (Nat.toDigits 10 n) = n := by
  have hdigit : ∀ d < 10, (Ascii.hexValue? (Nat.digitChar d)).getD 0 = d := by decide
  refine foldl_eq (g := id) ?_ ?_ (Nat.le_refl n)
  · intro d hd _
    rw [hdigit d hd]
    exact Nat.zero_add d
  · intro m d hd _
    rw [hdigit d hd]
    rfl

/-- A text that does not go on with a digit. -/
def Ends (rest : List Char) : Prop := ∀ c ∈ rest.head?, c.isDigit = false

theorem takeWhile_append (h : Ends rest) : (Nat.toDigits 10 n ++ rest).takeWhile Char.isDigit = Nat.toDigits 10 n := by
  rw [List.takeWhile_append_of_pos fun _ => isDigit_of_mem]
  cases rest with
  | nil => simp
  | cons c rest => simp [h c rfl]

theorem dropWhile_append (h : Ends rest) : (Nat.toDigits 10 n ++ rest).dropWhile Char.isDigit = rest := by
  rw [List.dropWhile_append_of_pos fun _ => isDigit_of_mem]
  cases rest with
  | nil => simp
  | cons c rest => simp [h c rfl]

end ReverseProxy.Digits
