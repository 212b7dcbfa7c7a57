import ReverseProxy.Proofs.Text.Digits
import ReverseProxy.Toml.Scalar
import ReverseProxy.Toml.Write

/-! # Values without parts that were written -/

namespace ReverseProxy.Toml

variable {rest : List Char}

/-- A text that ends, or goes on with what may stand behind a value. -/
def Stops (rest : List Char) : Prop := ∀ c ∈ rest.head?, c ∈ [',', ']', ' ', '\n']

theorem stops_cases (h : Stops rest) :
    rest = [] ∨ ∃ r, rest = ',' :: r ∨ rest = ']' :: r ∨ rest = ' ' :: r ∨ rest = '\n' :: r := by
  cases rest with
  | nil => exact .inl rfl
  | cons c r => exact .inr ⟨r, by simpa [Stops] using h⟩

theorem Stops.ends (h : Stops rest) : Digits.Ends rest := by
  rcases stops_cases h with rfl | ⟨r, rfl | rfl | rfl | rfl⟩ <;> simp [Digits.Ends]

/-! ## Strings -/

theorem basicBody_plain {c : Char} (hplain : isPlain c) (hquote : c ≠ '"') (hbackslash : c ≠ '\\') :
    basicBody (c :: rest) = (basicBody rest).map fun (cs, r) => (c :: cs, r) := by
  rw [basicBody, if_pos hplain]
  · exact hquote
  · exact hbackslash

theorem basicBody_escaped {c : Char} {s : List Char} (h : escape? s = some (c, rest)) :
    basicBody ('\\' :: s) = (basicBody rest).map fun (cs, r) => (c :: cs, r) := by
  rw [basicBody]
  split
  next heq =>
    rw [h] at heq
    cases heq
    rfl
  next heq =>
    rw [h] at heq
    cases heq

theorem codePoint?_control : ∀ n < 32, codePoint? ['0', '0', Nat.digitChar (n / 16), Nat.digitChar (n % 16)] =
    some (Char.ofNat n) := by
  decide

theorem basicBody_escape (c : Char) (rest : List Char) :
    basicBody (escape c ++ rest) = (basicBody rest).map fun (cs, r) => (c :: cs, r) := by
  unfold escape
  split
  next h =>
    subst h
    exact basicBody_escaped rfl
  next hdel =>
    unfold Json.escape
    split
    all_goals first | exact basicBody_escaped rfl | skip
    rename_i hquote hbackslash _ _ _ _ _
    split
    next hcontrol =>
      refine basicBody_escaped ?_
      have hcode := codePoint?_control c.toNat hcontrol
      rw [Char.ofNat_toNat] at hcode
      simp [escape?, hcode]
    next hcontrol =>
      refine basicBody_plain ?_ hquote hbackslash
      simp [isPlain, hdel, Char.not_lt.mp hcontrol]

theorem basicBody_quoted (cs : List Char) : basicBody (cs.flatMap escape ++ '"' :: rest) = some (cs, rest) := by
  induction cs with
  | nil => rw [List.flatMap_nil, List.nil_append, basicBody]
  | cons c cs ih =>
    rw [List.flatMap_cons, List.append_assoc, basicBody_escape, ih]
    rfl

theorem escape_ne_quote (c : Char) (s : List Char) : escape c ++ rest ≠ '"' :: s := by
  unfold escape
  split
  next => simp
  next =>
    unfold Json.escape
    split
    all_goals try simp
    rename_i hquote _ _ _ _ _ _
    split
    next => simp
    next => simpa using fun h => (hquote h).elim

/-- A written string does not look like one of several lines. -/
theorem string?_quoted (hrest : Stops rest) (s : String) : string? (quoted s ++ rest) = some (s.toList, rest) := by
  have htext : quoted s ++ rest = '"' :: (s.toList.flatMap escape ++ '"' :: rest) := by simp [quoted]
  have hlines : ∀ r, s.toList.flatMap escape ++ '"' :: rest ≠ '"' :: '"' :: r := by
    intro r
    cases s.toList with
    | nil => rcases stops_cases hrest with rfl | ⟨r, rfl | rfl | rfl | rfl⟩ <;> simp
    | cons c cs =>
      rw [List.flatMap_cons, List.append_assoc]
      exact escape_ne_quote c _
  rw [htext, string?]
  · exact basicBody_quoted s.toList
  · exact hlines

theorem scalar?_quoted (hrest : Stops rest) (s : String) : scalar? (quoted s ++ rest) = some (.text s, rest) := by
  have hstring := string?_quoted hrest s
  have htext : quoted s ++ rest = '"' :: (s.toList.flatMap escape ++ '"' :: rest) := by simp [quoted]
  rw [htext] at hstring
  rw [htext, scalar?, if_pos (.inl rfl), hstring]
  all_goals simp

/-! ## Numbers -/

theorem digits?_append {ds : List Char} (hds : ∀ c ∈ ds, c.isDigit) (hne : ds ≠ []) (hrest : Stops rest) :
    digits? Char.isDigit (ds ++ rest) = some (ds, rest) := by
  induction ds with
  | nil => cases hne rfl
  | cons d ds ih =>
    obtain ⟨hd, hds⟩ := List.forall_mem_cons.mp hds
    cases ds with
    | nil =>
      rcases stops_cases hrest with rfl | ⟨r, rfl | rfl | rfl | rfl⟩ <;> simp [digits?, hd]
    | cons e ds =>
      have he : e.isDigit := hds e List.mem_cons_self
      have hih := ih hds (List.cons_ne_nil e ds)
      rw [List.cons_append] at hih
      rw [List.cons_append, List.cons_append, digits?, if_neg (by simp [hd])]
      · simp only [he, if_true, hih, Option.map_some]
      · rintro rfl
        cases he

/-- Behind some digits of a number comes another one, or what stands behind the number. -/
theorem of_fixed? {ds s : List Char} {count n : Nat} (hds : ∀ c ∈ ds, c.isDigit) (hrest : Stops rest)
    (h : fixed? count (ds ++ rest) = some (n, s)) : ∀ c ∈ s.head?, c ≠ '-' ∧ c ≠ ':' := by
  simp only [fixed?] at h
  split at h
  next hfits =>
    cases h
    obtain ⟨hlength, hdigits⟩ := hfits
    intro c hc
    have hc : c ∈ (ds.drop count ++ rest).head? := by
      by_cases hcount : count ≤ ds.length
      · rwa [List.drop_append_of_le_length hcount] at hc
      · -- what stands behind the number would be among the digits
        cases rest with
        | nil =>
          rw [List.append_nil, List.length_take] at hlength
          omega
        | cons r rest =>
          have hr : r.isDigit := by
            refine List.all_eq_true.mp hdigits r ?_
            rw [List.mem_take_iff_getElem]
            refine ⟨ds.length, by simp; omega, by simp⟩
          rw [hrest.ends r rfl] at hr
          cases hr
    cases hdrop : ds.drop count with
    | nil =>
      rw [hdrop] at hc
      rcases stops_cases hrest with rfl | ⟨r, rfl | rfl | rfl | rfl⟩ <;> cases hc <;> decide
    | cons d drop =>
      rw [hdrop] at hc
      cases hc
      have hd : c.isDigit := hds c (List.mem_of_mem_drop (by rw [hdrop]; exact List.mem_cons_self))
      constructor <;> rintro rfl <;> cases hd
  next => cases h

theorem exists_digit_cons (n : Nat) (rest : List Char) :
    ∃ c s, Nat.toDigits 10 n ++ rest = c :: s ∧ c.isDigit := by
  obtain ⟨c, s, hs⟩ := List.exists_cons_of_ne_nil (Nat.toDigits_ne_nil (n := n) (b := 10))
  exact ⟨c, s ++ rest, by rw [hs, List.cons_append], Digits.isDigit_of_mem (n := n) (by simp [hs])⟩

theorem moment?_digits (hrest : Stops rest) (n : Nat) : moment? (Nat.toDigits 10 n ++ rest) = none := by
  have htime : time? (Nat.toDigits 10 n ++ rest) = none := by
    unfold time?
    split
    next after h =>
      unfold bounded? at h
      split at h
      next hfixed =>
        split at h
        next =>
          cases h
          exact ((of_fixed? (fun _ => Digits.isDigit_of_mem) hrest hfixed ':' rfl).2 rfl).elim
        next => cases h
      next => cases h
    next => rfl
  unfold moment?
  split
  next hfixed => exact ((of_fixed? (fun _ => Digits.isDigit_of_mem) hrest hfixed '-' rfl).1 rfl).elim
  next => exact htime

theorem sign_digits (n : Nat) : sign (Nat.toDigits 10 n ++ rest) = (false, Nat.toDigits 10 n ++ rest) := by
  obtain ⟨c, s, hs, hc⟩ := exists_digit_cons n rest
  rw [hs]
  unfold sign
  split
  next h => cases h; cases hc
  next h => cases h; cases hc
  next => rfl

theorem of_zero_cons {n : Nat} {s : List Char} (h : Nat.toDigits 10 n ++ rest = '0' :: s) : n = 0 ∧ s = rest := by
  have hhead : (Nat.toDigits 10 n).head? = some '0' := by
    cases hds : Nat.toDigits 10 n with
    | nil => exact (Nat.toDigits_ne_nil hds).elim
    | cons d ds =>
      rw [hds] at h
      cases h
      rfl
  obtain rfl : n = 0 := Classical.byContradiction fun hne => Digits.head?_ne_zero hne hhead
  cases h
  exact ⟨rfl, rfl⟩

theorem decimal?_digits (hrest : Stops rest) (n : Nat) :
    decimal? (Nat.toDigits 10 n ++ rest) = some (Nat.toDigits 10 n, rest) := by
  unfold decimal?
  split
  next s h =>
    obtain ⟨rfl, rfl⟩ := of_zero_cons h
    rfl
  next => exact digits?_append (fun _ => Digits.isDigit_of_mem) Nat.toDigits_ne_nil hrest

theorem decimalFloat?_digits (hrest : Stops rest) (n : Nat) : decimalFloat? (Nat.toDigits 10 n ++ rest) = none := by
  simp only [decimalFloat?, sign_digits, decimal?_digits hrest]
  rcases stops_cases hrest with rfl | ⟨r, rfl | rfl | rfl | rfl⟩ <;> rfl

theorem specialFloat?_digits (n : Nat) : specialFloat? (Nat.toDigits 10 n ++ rest) = none := by
  obtain ⟨c, s, hs, hc⟩ := exists_digit_cons n rest
  simp only [specialFloat?, sign_digits]
  rw [hs]
  split
  next h => cases h; cases hc
  next h => cases h; cases hc
  next => rfl

theorem integer?_digits (hrest : Stops rest) {n : Nat} (hn : n < 0x8000000000000000) :
    integer? (Nat.toDigits 10 n ++ rest) = some (.integer n, rest) := by
  have hrange : inRange (n : Int) = some (.integer n) := if_pos (by omega)
  have hbase : ∀ c s, Nat.toDigits 10 n ++ rest = '0' :: c :: s → c ∈ [',', ']', ' ', '\n'] := by
    intro c s h
    obtain ⟨-, rfl⟩ := of_zero_cons h
    exact hrest c rfl
  rw [integer?]
  · simp only [sign_digits, decimal?_digits hrest, Digits.digitsValue_toDigits, Bool.false_eq_true, if_false,
      hrange, Option.map_some]
  -- no base is told in front of the digits
  · exact fun s h => absurd (hbase 'x' s h) (by decide)
  · exact fun s h => absurd (hbase 'o' s h) (by decide)
  · exact fun s h => absurd (hbase 'b' s h) (by decide)

theorem scalar?_digits (hrest : Stops rest) {n : Nat} (hn : n < 0x8000000000000000) :
    scalar? (Nat.toDigits 10 n ++ rest) = some (.integer n, rest) := by
  have hnumeric : numeric? (Nat.toDigits 10 n ++ rest) = some (.integer n, rest) := by
    simp only [numeric?, moment?_digits hrest, decimalFloat?_digits hrest, specialFloat?_digits,
      integer?_digits hrest hn, Option.none_or]
  obtain ⟨c, s, hs, hc⟩ := exists_digit_cons n rest
  have hother : ∀ other : Char, other.isDigit = false → c ≠ other := by
    rintro other hother rfl
    rw [hc] at hother
    cases hother
  have hquote : ¬(c = '"' ∨ c = '\'') := not_or.mpr ⟨hother '"' rfl, hother '\'' rfl⟩
  rw [hs] at hnumeric
  rw [hs, scalar?, if_neg hquote, if_pos (.inr (.inr hc)), hnumeric]
  · exact fun _ h => (hother 't' rfl h).elim
  · exact fun _ h => (hother 'f' rfl h).elim
  · exact fun _ h => (hother 'i' rfl h).elim
  · exact fun _ h => (hother 'n' rfl h).elim

end ReverseProxy.Toml
