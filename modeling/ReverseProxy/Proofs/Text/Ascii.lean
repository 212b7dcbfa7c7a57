import ReverseProxy.Text.Ascii
import ReverseProxy.Text.Parts

/-! # ASCII text and its parts -/

namespace ReverseProxy

namespace Ascii

/-- A property of all ASCII characters, checked value by value. -/
theorem forall_char {P : Char → Prop} (h : ∀ n < 128, P (Char.ofNat n)) (c : Char) (hc : c.toNat < 128) :
    P c := by
  have := h c.toNat hc
  rwa [Char.ofNat_toNat] at this

theorem toLower_lt : ∀ c : Char, c.toNat < 128 → c.toLower.toNat < 128 := forall_char (by decide +kernel)

theorem toLower_of_le {c : Char} (h : 128 ≤ c.toNat) : c.toLower = c := by
  refine dif_neg ?_
  rintro ⟨-, hle⟩
  have : c.toNat ≤ 90 := hle
  omega

theorem toLower_toLower (c : Char) : c.toLower.toLower = c.toLower := by
  by_cases hc : c.toNat < 128
  · exact forall_char (P := fun c => c.toLower.toLower = c.toLower) (by decide +kernel) c hc
  · rw [toLower_of_le (Nat.le_of_not_lt hc), toLower_of_le (Nat.le_of_not_lt hc)]

theorem isDigit_iff {c : Char} : c.isDigit = true ↔ '0' ≤ c ∧ c ≤ '9' := by
  simp only [Char.isDigit, Bool.and_eq_true, decide_eq_true_eq]
  rfl

theorem isHexDigit_of_isDigit {c : Char} (h : c.isDigit = true) : isHexDigit c = true := by
  simp [isHexDigit, hexValue?, isDigit_iff.mp h]

theorem toNat_lt_of_isHexDigit {c : Char} (h : isHexDigit c = true) : c.toNat < 128 := by
  simp only [isHexDigit, hexValue?] at h
  split at h
  next hdigit =>
    have : c.toNat ≤ 57 := hdigit.2
    omega
  next =>
    split at h
    next hsmall =>
      have : c.toNat ≤ 102 := hsmall.2
      omega
    next =>
      split at h
      next hcapital =>
        have : c.toNat ≤ 70 := hcapital.2
        omega
      next => cases h

theorem toNat_lt_of_isDigit {c : Char} (h : c.isDigit = true) : c.toNat < 128 :=
  toNat_lt_of_isHexDigit (isHexDigit_of_isDigit h)

theorem toNat_lt_of_isAlphanum {c : Char} (h : c.isAlphanum = true) : c.toNat < 128 := by
  have hkinds : (c.isUpper || c.isLower || c.isDigit) = true := h
  simp only [Bool.or_eq_true] at hkinds
  rcases hkinds with (hupper | hlower) | hdigit
  · have hrange : 65 ≤ c.val ∧ c.val ≤ 90 := of_decide_eq_true hupper
    have : c.toNat ≤ 90 := hrange.2
    omega
  · have hrange : (decide (97 ≤ c.val) && decide (c.val ≤ 122)) = true := hlower
    rw [Bool.and_eq_true] at hrange
    have : c.toNat ≤ 122 := of_decide_eq_true hrange.2
    omega
  · exact toNat_lt_of_isDigit hdigit

end Ascii

namespace Parts

variable {mark : Char} {text : List Char}

theorem split_ne_nil (mark : Char) (text : List Char) : split mark text ≠ [] := by
  cases text with
  | nil => simp [split]
  | cons c rest =>
    rw [split]
    split
    · simp
    · split <;> simp

theorem split_mark (mark : Char) (rest : List Char) : split mark (mark :: rest) = [] :: split mark rest := by
  simp [split]

theorem exists_split_cons {c : Char} (hc : c ≠ mark) (rest : List Char) :
    ∃ first others, split mark rest = first :: others ∧ split mark (c :: rest) = (c :: first) :: others := by
  obtain ⟨first, others, heq⟩ := List.exists_cons_of_ne_nil (split_ne_nil mark rest)
  exact ⟨first, others, heq, by rw [split, if_neg hc, heq]⟩

theorem length_split (mark : Char) (text : List Char) : (split mark text).length = text.count mark + 1 := by
  induction text with
  | nil => rfl
  | cons c rest ih =>
    by_cases hc : c = mark
    · subst hc
      rw [split_mark, List.length_cons, ih, List.count_cons_self]
    · obtain ⟨first, others, heq, hsplit⟩ := exists_split_cons hc rest
      rw [hsplit, List.count_cons_of_ne hc, ← ih, heq]
      rfl

theorem mem_split (mark : Char) (text : List Char) :
    ∀ c ∈ text, c = mark ∨ ∃ part ∈ split mark text, c ∈ part := by
  induction text with
  | nil => simp
  | cons d rest ih =>
    intro c hmem
    by_cases hd : d = mark
    · subst hd
      rw [split_mark]
      rcases List.mem_cons.mp hmem with rfl | hrest
      · exact .inl rfl
      · exact (ih c hrest).imp_right fun ⟨part, hpart, hc⟩ => ⟨part, List.mem_cons_of_mem _ hpart, hc⟩
    · obtain ⟨first, others, heq, hsplit⟩ := exists_split_cons hd rest
      rw [hsplit]
      rw [heq] at ih
      rcases List.mem_cons.mp hmem with rfl | hrest
      · exact .inr ⟨c :: first, by simp⟩
      · refine (ih c hrest).imp_right ?_
        rintro ⟨part, hpart, hc⟩
        rcases List.mem_cons.mp hpart with rfl | hothers
        · exact ⟨d :: part, by simp [hc]⟩
        · exact ⟨part, List.mem_cons_of_mem _ hothers, hc⟩

theorem of_mem_split {part : List Char} (hpart : part ∈ split mark text) {c : Char} (hc : c ∈ part) :
    c ∈ text ∧ c ≠ mark := by
  induction text generalizing part with
  | nil =>
    obtain rfl : part = [] := by simpa [split] using hpart
    cases hc
  | cons d rest ih =>
    by_cases hd : d = mark
    · subst hd
      rw [split_mark] at hpart
      rcases List.mem_cons.mp hpart with rfl | hrest
      · cases hc
      · exact (ih hrest hc).imp_left (List.mem_cons_of_mem _)
    · obtain ⟨first, others, heq, hsplit⟩ := exists_split_cons hd rest
      rw [hsplit] at hpart
      rw [heq] at ih
      rcases List.mem_cons.mp hpart with rfl | hothers
      · rcases List.mem_cons.mp hc with rfl | hfirst
        · exact ⟨List.mem_cons_self, hd⟩
        · exact (ih List.mem_cons_self hfirst).imp_left (List.mem_cons_of_mem _)
      · exact (ih (List.mem_cons_of_mem _ hothers) hc).imp_left (List.mem_cons_of_mem _)

end Parts

end ReverseProxy
