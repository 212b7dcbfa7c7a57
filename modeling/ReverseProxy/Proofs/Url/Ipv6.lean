import ReverseProxy.Proofs.Except
import ReverseProxy.Proofs.Text.Ascii
import ReverseProxy.Url.Ipv6

/-! # What an IPv6 address is written with -/

namespace ReverseProxy.Ipv6

def isGroupChar (c : Char) : Bool := Ascii.isHexDigit c || c = '.'

theorem toNat_lt_of_isGroupChar {c : Char} (h : isGroupChar c = true) : c.toNat < 128 := by
  simp only [isGroupChar, Bool.or_eq_true, decide_eq_true_eq] at h
  rcases h with h | rfl
  · exact Ascii.toNat_lt_of_isHexDigit h
  · decide

/-! ## Groups -/

variable {group : List Char}

theorem piece?_chars {piece : Nat} (h : piece? group = some piece) : ∀ c ∈ group, isGroupChar c = true := by
  unfold piece? at h
  split at h
  next hdigits =>
    intro c hc
    rw [isGroupChar, List.all_eq_true.mp hdigits.2.2 c hc, Bool.true_or]
  next => cases h

theorem byte?_chars {byte : Nat} (h : byte? group = some byte) : ∀ c ∈ group, isGroupChar c = true := by
  simp only [byte?] at h
  split at h
  next hdigits =>
    intro c hc
    rw [isGroupChar, Ascii.isHexDigit_of_isDigit (List.all_eq_true.mp hdigits.2.1 c hc), Bool.true_or]
  next => cases h

theorem lastPieces?_spec {pieces : List Nat} (h : lastPieces? group = some pieces) :
    pieces ≠ [] ∧ ∀ c ∈ group, isGroupChar c = true := by
  unfold lastPieces? at h
  split at h
  · split at h
    next bytes =>
      cases h
      refine ⟨by simp, ?_⟩
      intro c hc
      rcases Parts.mem_split '.' group c hc with rfl | ⟨part, hpart, hmem⟩
      · decide
      · obtain ⟨byte, -, hbyte⟩ := exists_of_mem_left (mapM_eq_some.mp bytes) hpart
        exact byte?_chars hbyte c hmem
    next => cases h
  · obtain ⟨piece, hpiece, rfl⟩ := Option.map_eq_some_iff.mp h
    exact ⟨by simp, piece?_chars hpiece⟩

theorem endPieces?_spec {all : List (List Char)} {pieces : List Nat} (h : endPieces? all = some pieces) :
    all.length ≤ pieces.length ∧ ∀ group ∈ all, ∀ c ∈ group, isGroupChar c = true := by
  fun_induction endPieces? all generalizing pieces with
  | case1 => exact ⟨Nat.zero_le _, by simp⟩
  | case2 last =>
    obtain ⟨hne, hchars⟩ := lastPieces?_spec h
    exact ⟨List.length_pos_iff.mpr hne, by simpa using hchars⟩
  | case3 group rest hrest ih =>
    obtain ⟨piece, hpiece, h⟩ := Option.bind_eq_some_iff.mp h
    obtain ⟨others, hothers, h⟩ := Option.bind_eq_some_iff.mp h
    cases h
    obtain ⟨hlength, hchars⟩ := ih hothers
    exact ⟨Nat.succ_le_succ hlength, List.forall_mem_cons.mpr ⟨piece?_chars hpiece, hchars⟩⟩

theorem pieces_spec {all : List (List Char)} {pieces : List Nat} (h : all.mapM piece? = some pieces) :
    all.length = pieces.length ∧ ∀ group ∈ all, ∀ c ∈ group, isGroupChar c = true := by
  have hall := mapM_eq_some.mp h
  refine ⟨hall.length_eq, ?_⟩
  intro group hgroup
  obtain ⟨piece, -, hpiece⟩ := exists_of_mem_left hall hgroup
  exact piece?_chars hpiece

/-! ## The whole -/

theorem eq_of_splitDouble {text before after : List Char} (h : splitDouble text = some (before, after)) :
    text = before ++ ':' :: ':' :: after := by
  fun_induction splitDouble text generalizing before with
  | case1 rest => cases h; rfl
  | case2 c rest _ ih =>
    obtain ⟨⟨first, last⟩, hsplit, heq⟩ := Option.map_eq_some_iff.mp h
    cases heq
    rw [ih hsplit, List.cons_append]
  | case3 => cases h

theorem chars_of_groups {text : List Char} (h : ∀ group ∈ groups text, ∀ c ∈ group, isGroupChar c = true) :
    ∀ c ∈ text, isGroupChar c = true ∨ c = ':' := by
  intro c hc
  rw [groups, if_neg (List.ne_nil_of_mem hc)] at h
  exact (Parts.mem_split ':' text c hc).symm.imp_left fun ⟨group, hgroup, hmem⟩ => h group hgroup c hmem

/-- The colons stand between the groups. -/
theorem count_le_groups (text : List Char) : text.count ':' ≤ (groups text).length - 1 := by
  unfold groups
  split
  next h => rw [h]; exact Nat.zero_le _
  next => rw [Parts.length_split]; exact Nat.le_refl _

/-- An address has hexadecimal digits, points and eight colons at most. -/
theorem parse?_spec {text : List Char} {pieces : List Nat} (h : parse? text = some pieces) :
    (∀ c ∈ text, isGroupChar c = true ∨ c = ':') ∧ text.count ':' ≤ 8 := by
  unfold parse? at h
  split at h
  next =>
    obtain ⟨found, hfound, h⟩ := Option.bind_eq_some_iff.mp h
    obtain ⟨hlength, hchars⟩ := endPieces?_spec hfound
    have height : found.length = 8 := by
      by_contra hne
      rw [if_neg hne] at h
      cases h
    have hcount := count_le_groups text
    exact ⟨chars_of_groups hchars, by omega⟩
  next before after hsplit =>
    obtain ⟨first, hfirst, h⟩ := Option.bind_eq_some_iff.mp h
    obtain ⟨last, hlast, h⟩ := Option.bind_eq_some_iff.mp h
    obtain ⟨hfirstLength, hfirstChars⟩ := pieces_spec hfirst
    obtain ⟨hlastLength, hlastChars⟩ := endPieces?_spec hlast
    have hseven : first.length + last.length ≤ 7 := by
      by_contra hmany
      simp only [if_neg hmany] at h
      cases h
    rw [eq_of_splitDouble hsplit]
    constructor
    · intro c hc
      simp only [List.mem_append, List.mem_cons] at hc
      rcases hc with hc | rfl | rfl | hc
      · exact chars_of_groups hfirstChars c hc
      · exact .inr rfl
      · exact .inr rfl
      · exact chars_of_groups hlastChars c hc
    · have hbefore := count_le_groups before
      have hafter := count_le_groups after
      rw [List.count_append, List.count_cons_self, List.count_cons_self]
      omega

end ReverseProxy.Ipv6
