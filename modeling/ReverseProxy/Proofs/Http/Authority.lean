import Mathlib.Data.List.Basic
import ReverseProxy.Http.Authority
import ReverseProxy.Proofs.Text.Ascii

/-! # Which texts are authorities -/

namespace ReverseProxy.Authority

/-! ## Reading -/

theorem isSome_ofText? {text : String} :
    (ofText? text).isSome = true ↔ isAuthority text.toList = true := by
  unfold ofText?
  split <;> simp_all

theorem text_of_ofText? {text : String} {authority : Authority}
    (h : ofText? text = some authority) : authority.text = text := by
  unfold ofText? at h
  split at h
  · cases h; rfl
  · cases h

/-! ## Characters -/

theorem toNat_lt_of_isUriChar {c : Char} (h : isUriChar c = true) : c.toNat < 128 := by
  simp only [isUriChar, Bool.or_eq_true, decide_eq_true_eq] at h
  rcases h with h | h
  · exact Ascii.toNat_lt_of_isAlphanum h
  · exact of_decide_eq_true ((List.all_eq_true (p := fun c => decide (c.toNat < 128))).mp (by decide) c h)

theorem Scan.step_char {s s' : Scan} {c : Char} (h : s.step c = some s') : isUriChar c = true ∨ c = '%' := by
  unfold Scan.step at h
  split at h
  case h_5 => exact .inr rfl
  case h_6 =>
    split at h
    next huri => exact .inl huri
    next => cases h
  all_goals exact .inl (by decide)

theorem scan_chars {text : List Char} {s s' : Scan} (h : text.foldlM Scan.step s = some s') :
    ∀ c ∈ text, isUriChar c = true ∨ c = '%' := by
  induction text generalizing s with
  | nil => simp
  | cons c rest ih =>
    rw [List.foldlM_cons] at h
    obtain ⟨next, hstep, hrest⟩ := Option.bind_eq_some_iff.mp h
    exact List.forall_mem_cons.mpr ⟨Scan.step_char hstep, ih hrest⟩

theorem isAuthority_iff {text : List Char} :
    isAuthority text = true ↔
      text ≠ [] ∧ ∃ s, text.foldlM Scan.step {} = some s ∧ s.isComplete = true := by
  simp [isAuthority, Option.any_eq_true]

theorem chars_of_isAuthority {text : List Char} (h : isAuthority text = true) :
    ∀ c ∈ text, isUriChar c = true ∨ c = '%' := by
  obtain ⟨-, s, hscan, -⟩ := isAuthority_iff.mp h
  exact scan_chars hscan

/-! ## Brackets -/

def bracket (inside : Bool) (c : Char) : Bool := if c = '[' then true else if c = ']' then false else inside

theorem foldl_bracket_of_notMem {text : List Char} (hopen : '[' ∉ text) (hclose : ']' ∉ text) (inside : Bool) :
    text.foldl bracket inside = inside := by
  induction text with
  | nil => rfl
  | cons c rest ih =>
    simp only [List.mem_cons, not_or] at hopen hclose
    have hc : bracket inside c = inside := by rw [bracket, if_neg (Ne.symm hopen.1), if_neg (Ne.symm hclose.1)]
    rw [List.foldl_cons, hc, ih hopen.2 hclose.2]

/-- Who is in brackets when he begins outside is so when he begins anywhere. -/
theorem foldl_bracket_mono {text : List Char} (inside : Bool) (h : text.foldl bracket false = true) :
    text.foldl bracket inside = true := by
  induction text generalizing inside with
  | nil => cases h
  | cons c rest ih =>
    rw [List.foldl_cons] at h ⊢
    by_cases hbracket : c = '[' ∨ c = ']'
    · have hsame : bracket inside c = bracket false c := by rcases hbracket with rfl | rfl <;> rfl
      rwa [hsame]
    · obtain ⟨hopen, hclose⟩ := not_or.mp hbracket
      simp only [bracket, if_neg hopen, if_neg hclose] at h ⊢
      exact ih inside h

namespace Scan

def inside (s : Scan) : Bool := s.opened && !s.closed

/-- A bracket is closed only after one was opened. -/
def Ordered (s : Scan) : Prop := s.closed = true → s.opened = true

/-- One character moves the scan in and out of brackets as it moves a reader of the host. -/
theorem step_inside {s s' : Scan} {c : Char} (hs : s.Ordered) (h : s.step c = some s') :
    s'.Ordered ∧ s'.inside = bracket s.inside c := by
  unfold step at h
  -- Of all characters, only the two brackets move the scan in or out.
  split at h
  case h_1 =>
    split at h
    · cases h
    · cases h; exact ⟨hs, rfl⟩
  case h_2 =>
    split at h
    · cases h
    next hfree =>
      cases h
      have hclosed : s.closed = false := by
        by_contra hclosed
        simp [hs (by simpa using hclosed)] at hfree
      exact ⟨fun _ => rfl, by simp [inside, bracket, hclosed]⟩
  case h_3 =>
    split at h
    · cases h
    next hopen =>
      cases h
      have hopened : s.opened = true := by
        by_contra hopened
        simp [hopened] at hopen
      exact ⟨fun _ => hopened, by simp [inside, bracket]⟩
  case h_4 => cases h; exact ⟨hs, rfl⟩
  case h_5 => cases h; exact ⟨hs, rfl⟩
  case h_6 hopen hclose _ _ =>
    split at h
    · cases h
      exact ⟨hs, by rw [bracket, if_neg hopen, if_neg hclose]; rfl⟩
    · cases h

theorem scan_inside {text : List Char} {s s' : Scan} (hs : s.Ordered) (h : text.foldlM step s = some s') :
    s'.inside = text.foldl bracket s.inside := by
  induction text generalizing s with
  | nil => cases h; rfl
  | cons c rest ih =>
    rw [List.foldlM_cons] at h
    obtain ⟨next, hstep, hrest⟩ := Option.bind_eq_some_iff.mp h
    obtain ⟨hnext, hinside⟩ := step_inside hs hstep
    rw [List.foldl_cons, ← hinside, ih hnext hrest]

end Scan

/-- At the end of an authority all brackets are closed. -/
theorem brackets_closed {text : List Char} (h : isAuthority text = true) : text.foldl bracket false = false := by
  obtain ⟨-, s, hscan, hcomplete⟩ := isAuthority_iff.mp h
  have hinside := Scan.scan_inside (s := {}) (fun h => h) hscan
  have hsame : s.opened = s.closed := by
    simp only [Scan.isComplete, Bool.and_eq_true, decide_eq_true_eq] at hcomplete
    exact hcomplete.1.1.1
  rw [show (Scan.inside {}) = false from rfl] at hinside
  rw [← hinside, Scan.inside, hsame, Bool.and_not_self]

theorem brackets_closed_of_append {before after : List Char} (h : isAuthority (before ++ after) = true) :
    after.foldl bracket false = false := by
  by_contra hinside
  have hclosed := brackets_closed h
  rw [List.foldl_append, foldl_bracket_mono _ (by simpa using hinside)] at hclosed
  cases hclosed

/-! ## Users -/

def siteOf (text : List Char) : List Char := (text.reverse.takeWhile (· ≠ '@')).reverse

theorem toList_site (a : Authority) : a.site.toList = siteOf a.text.toList := by
  rw [site, String.toList_ofList, siteOf]

theorem exists_user (text : List Char) : ∃ user, text = user ++ siteOf text := by
  refine ⟨(text.reverse.dropWhile (· ≠ '@')).reverse, ?_⟩
  rw [siteOf, ← List.reverse_append, List.takeWhile_append_dropWhile, List.reverse_reverse]

theorem siteOf_append {after : List Char} (h : '@' ∉ after) (before : List Char) :
    siteOf (before ++ after) = siteOf before ++ after := by
  rw [siteOf, siteOf, List.reverse_append, List.takeWhile_append_of_pos, List.reverse_append,
    List.reverse_reverse]
  intro c hc
  have : c ≠ '@' := by rintro rfl; exact h (List.mem_reverse.mp hc)
  simpa using this

theorem siteOf_of_notMem {text : List Char} (h : '@' ∉ text) : siteOf text = text := siteOf_append h []

/-! ## Hosts and ports -/

/-- A character of a name, which says nothing about users, ports and brackets. -/
def isNameChar (c : Char) : Bool := isUriChar c && !(c ∈ [':', '@', '[', ']'])

theorem isNameChar_iff {c : Char} :
    isNameChar c = true ↔ isUriChar c = true ∧ c ≠ ':' ∧ c ≠ '@' ∧ c ≠ '[' ∧ c ≠ ']' := by
  simp [isNameChar]

theorem Scan.step_name {s : Scan} (hend : s.atEnd = false) {c : Char} (hc : isNameChar c = true) :
    s.step c = some s := by
  obtain ⟨huri, hcolon, hat, hopen, hclose⟩ := isNameChar_iff.mp hc
  have hpercent : c ≠ '%' := by rintro rfl; revert huri; decide
  have hsame : { s with atEnd := false } = s := by cases s; cases hend; rfl
  simp only [Scan.step]
  rw [if_pos huri, hsame]

/-- Characters of names and not too many colons: only the colons count. -/
theorem scan_names {text : List Char} {s : Scan} (hend : s.atEnd = false)
    (htext : ∀ c ∈ text, isNameChar c = true ∨ c = ':') (hcolons : s.colons + text.count ':' ≤ 8) :
    text.foldlM Scan.step s = some { s with colons := s.colons + text.count ':' } := by
  induction text generalizing s with
  | nil => rfl
  | cons c rest ih =>
    obtain ⟨hc, hrest⟩ := List.forall_mem_cons.mp htext
    rw [List.foldlM_cons]
    rcases hc with hc | rfl
    · have hne : c ≠ ':' := (isNameChar_iff.mp hc).2.1
      rw [List.count_cons_of_ne hne] at hcolons ⊢
      rw [Scan.step_name hend hc, Option.bind_eq_bind, Option.bind_some, ih hend hrest hcolons]
    · rw [List.count_cons_self] at hcolons ⊢
      have hstep : s.step ':' = some { s with colons := s.colons + 1, atEnd := false } := by
        simp only [Scan.step]
        rw [if_neg (by omega)]
      rw [hstep, Option.bind_eq_bind, Option.bind_some, ih rfl hrest (by simp only; omega)]
      simp only [hend]
      rw [Nat.add_assoc, Nat.add_comm 1]

variable {name port : List Char}

theorem isAuthority_name (hname : ∀ c ∈ name, isNameChar c = true) (hport : ∀ c ∈ port, isNameChar c = true) :
    isAuthority (name ++ ':' :: port) = true := by
  have hcount : (name ++ ':' :: port).count ':' = 1 := by
    rw [List.count_append, List.count_cons_self,
      List.count_eq_zero_of_not_mem fun h => (isNameChar_iff.mp (hname _ h)).2.1 rfl,
      List.count_eq_zero_of_not_mem fun h => (isNameChar_iff.mp (hport _ h)).2.1 rfl]
  have htext : ∀ c ∈ name ++ ':' :: port, isNameChar c = true ∨ c = ':' := by
    intro c hc
    rcases List.mem_append.mp hc with h | h
    · exact .inl (hname c h)
    · exact (List.mem_cons.mp h).symm.imp_left (hport c)
  have hscan := scan_names (s := {}) rfl htext (by rw [hcount]; decide)
  rw [hcount] at hscan
  exact isAuthority_iff.mpr ⟨by simp, _, hscan, rfl⟩

theorem isAuthority_bracketed (hname : ∀ c ∈ name, isNameChar c = true ∨ c = ':') (hcolons : name.count ':' ≤ 8)
    (hport : ∀ c ∈ port, isNameChar c = true) : isAuthority ('[' :: (name ++ [']']) ++ ':' :: port) = true := by
  have hinner := scan_names (s := { opened := true }) rfl hname (by simpa using hcolons)
  have hcount : (':' :: port).count ':' = 1 := by
    rw [List.count_cons_self, List.count_eq_zero_of_not_mem fun h => (isNameChar_iff.mp (hport _ h)).2.1 rfl]
  have hrest : ∀ c ∈ ':' :: port, isNameChar c = true ∨ c = ':' :=
    List.forall_mem_cons.mpr ⟨.inr rfl, fun c hc => .inl (hport c hc)⟩
  have houter := scan_names (s := { opened := true, closed := true }) rfl hrest (by rw [hcount]; decide)
  rw [hcount] at houter
  have hscan :=
    calc ('[' :: (name ++ [']']) ++ ':' :: port).foldlM Scan.step {}
        = (name ++ ']' :: ':' :: port).foldlM Scan.step { opened := true } := by
          rw [List.cons_append, List.append_assoc, List.foldlM_cons]; rfl
      _ = (':' :: port).foldlM Scan.step { opened := true, closed := true } := by
          rw [List.foldlM_append, hinner]; rfl
      _ = _ := houter
  exact isAuthority_iff.mpr ⟨by simp, _, hscan, rfl⟩

end ReverseProxy.Authority
