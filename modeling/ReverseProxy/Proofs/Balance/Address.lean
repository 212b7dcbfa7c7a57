import Mathlib.Data.List.Basic
import ReverseProxy.Balance.Address
import ReverseProxy.Proofs.Http.Authority

/-! # What an address says -/

namespace ReverseProxy.Address

/-! ## Ports -/

section

variable {mark : Char} {text before after : List Char}

theorem splitAtLast_eq_none : splitAtLast mark text = none ↔ mark ∉ text := by
  induction text with
  | nil => simp [splitAtLast]
  | cons c rest ih =>
    rw [splitAtLast, List.mem_cons, not_or, ← ih]
    cases splitAtLast mark rest with
    | some parts => simp
    | none => simp [eq_comm]

theorem splitAtLast_append (h : mark ∉ after) (before : List Char) :
    splitAtLast mark (before ++ mark :: after) = some (before, after) := by
  induction before with
  | nil => simp [splitAtLast, splitAtLast_eq_none.mpr h]
  | cons c rest ih => rw [List.cons_append, splitAtLast, ih]

theorem of_splitAtLast (h : splitAtLast mark text = some (before, after)) :
    text = before ++ mark :: after ∧ mark ∉ after := by
  induction text generalizing before with
  | nil => cases h
  | cons c rest ih =>
    rw [splitAtLast] at h
    cases hrest : splitAtLast mark rest with
    | some parts =>
      rw [hrest] at h
      cases h
      obtain ⟨heq, hnot⟩ := ih hrest
      exact ⟨by rw [heq, List.cons_append], hnot⟩
    | none =>
      simp only [hrest] at h
      split at h
      next hc =>
        cases h
        exact ⟨by rw [hc, List.nil_append], splitAtLast_eq_none.mp hrest⟩
      next => cases h

theorem readPort?_chars {port : UInt16} (h : readPort? text = some port) :
    ∀ c ∈ text, c.isDigit = true ∨ c = '+' := by
  simp only [readPort?] at h
  split at h
  next hdigits =>
    intro c hc
    unfold dropPlus at hdigits
    split at hdigits
    · exact (List.mem_cons.mp hc).symm.imp_left (List.all_eq_true.mp hdigits.2.1 c)
    · exact .inl (List.all_eq_true.mp hdigits.2.1 c hc)
  next => cases h

theorem notMem_of_readPort? {port : UInt16} (h : readPort? text = some port) {c : Char}
    (hc : c.isDigit = false) (hplus : c ≠ '+') : c ∉ text := by
  intro hmem
  rcases readPort?_chars h c hmem with hdigit | heq
  · rw [hc] at hdigit
    cases hdigit
  · exact hplus heq

theorem dropPlus_of_digits (h : text.all Char.isDigit = true) : dropPlus text = text := by
  unfold dropPlus
  split
  · simp at h
  · rfl

theorem digitsValue_eq (h : text.all Char.isDigit = true) : Ascii.digitsValue 10 text = decimalValue text := by
  refine List.foldl_ext _ _ _ ?_
  intro n c hc
  rw [Ascii.hexValue?, if_pos (Ascii.isDigit_iff.mp (List.all_eq_true.mp h c hc)), Option.getD_some]

end

/-! ## Whole addresses -/

theorem exists_parse {text : String} (h : isValid text) : ∃ a, parse text = .ok a := by
  obtain ⟨a, ha⟩ := Option.isSome_iff_exists.mp h
  exact ⟨a, by rw [parse, ha]⟩

theorem isValid_iff {text : String} : isValid text ↔ ∃ a, parse text = .ok a := by
  refine ⟨exists_parse, ?_⟩
  rintro ⟨a, ha⟩
  unfold parse at ha
  split at ha
  next hread => rw [isValid, hread, Option.isSome_some]
  next => cases ha

open Authority (siteOf)

/-- The host as it is written, behind a user and before the last colon. -/
def hostOf (address : String) : List Char := siteOf ((splitAtLast ':' address.toList).getD ([], [])).1

def portOf (address : String) : List Char := ((splitAtLast ':' address.toList).getD ([], [])).2

theorem parts_of_parse {text : String} {address : Address} (h : parse text = .ok address) :
    ∃ before after, splitAtLast ':' text.toList = some (before, after) ∧ readPort? after = some address.port := by
  unfold parse at h
  split at h
  next found hfound =>
    cases h
    unfold ofList? at hfound
    split at hfound
    next => cases hfound
    next before after hsplit =>
      simp only at hfound
      split at hfound
      · cases hfound
      · obtain ⟨port, hport, rfl⟩ := Option.map_eq_some_iff.mp hfound
        exact ⟨before, after, hsplit, hport⟩
  next => cases h

variable {text : String} {address : Address}

theorem readPort?_portOf (h : parse text = .ok address) : readPort? (portOf text) = some address.port := by
  obtain ⟨before, after, hsplit, hport⟩ := parts_of_parse h
  rw [portOf, hsplit]
  exact hport

theorem siteOf_eq (h : parse text = .ok address) : siteOf text.toList = hostOf text ++ ':' :: portOf text := by
  obtain ⟨before, after, hsplit, hport⟩ := parts_of_parse h
  have hat : '@' ∉ ':' :: after := by simpa using notMem_of_readPort? hport rfl (by decide)
  rw [hostOf, portOf, hsplit, (of_splitAtLast hsplit).1]
  exact Authority.siteOf_append hat before

end ReverseProxy.Address
