import Mathlib.Data.List.Basic
import ReverseProxy.Http.Header
import ReverseProxy.Proofs.Text.Bytes

/-! # Names of header fields, and their values -/

namespace ReverseProxy

/-! ## Names -/

/-- One character to 65535, each of which may stand in a token. -/
structure IsToken (text : List Char) : Prop where
  nonempty : text ≠ []
  length_le : text.length ≤ 65535
  chars : ∀ c ∈ text, isTokenChar c = true

theorem toNat_lt_of_isTokenChar {c : Char} (h : isTokenChar c = true) : c.toNat < 128 := by
  simp only [isTokenChar, Bool.or_eq_true, decide_eq_true_eq] at h
  rcases h with h | h
  · exact Ascii.toNat_lt_of_isAlphanum h
  · exact of_decide_eq_true ((List.all_eq_true (p := fun c => decide (c.toNat < 128))).mp (by decide) c h)

theorem toLower_of_not_isUpper {c : Char} (h : c.isUpper = false) : c.toLower = c := by
  refine dif_neg ?_
  rintro ⟨hle, hge⟩
  have hupper : c.isUpper = true := decide_eq_true (p := 65 ≤ c.val ∧ c.val ≤ 90) ⟨hle, hge⟩
  cases h.symm.trans hupper

theorem isTokenChar_toLower (c : Char) : (isTokenChar c.toLower && !c.toLower.isUpper) = isTokenChar c := by
  have hascii : ∀ c : Char, c.toNat < 128 → (isTokenChar c.toLower && !c.toLower.isUpper) = isTokenChar c :=
    Ascii.forall_char (by decide +kernel)
  by_cases hc : c.toNat < 128
  · exact hascii c hc
  · have hno : isTokenChar c = false := by
      by_contra h
      exact hc (toNat_lt_of_isTokenChar (by simpa using h))
    rw [Ascii.toLower_of_le (Nat.le_of_not_lt hc), hno, Bool.false_and]

theorem isHeaderName_lower {text : String} : isHeaderName (Ascii.lower text) = true ↔ IsToken text.toList := by
  have hall : ((text.toList.map Char.toLower).all fun c => isTokenChar c && !c.isUpper) =
      text.toList.all isTokenChar := by
    rw [List.all_map]
    exact congrArg text.toList.all (funext isTokenChar_toLower)
  have hempty : Ascii.lower text = "" ↔ text.toList = [] := by
    rw [← String.toList_eq_nil_iff, Ascii.toList_lower, List.map_eq_nil_iff]
  have hsize (hchars : ∀ c ∈ text.toList, isTokenChar c = true) :
      (Ascii.lower text).utf8ByteSize = text.toList.length := by
    rw [Ascii.lower, Bytes.utf8ByteSize_ascii, List.length_map]
    exact List.forall_mem_map.mpr fun c hc => Ascii.toLower_lt c (toNat_lt_of_isTokenChar (hchars c hc))
  simp only [isHeaderName, Ascii.toList_lower, hall, Bool.and_eq_true, decide_eq_true_eq, List.all_eq_true, ne_eq,
    hempty]
  constructor
  · rintro ⟨⟨hne, hle⟩, hchars⟩
    exact ⟨hne, hsize hchars ▸ hle, hchars⟩
  · rintro ⟨hne, hle, hchars⟩
    exact ⟨⟨hne, hsize hchars ▸ hle⟩, hchars⟩

namespace HeaderName

theorem text_inj {a b : HeaderName} : a.text = b.text ↔ a = b := by
  cases a
  cases b
  simp

theorem isToken_of_lower {name : HeaderName} {text : String} (h : name.text = Ascii.lower text) :
    IsToken text.toList := isHeaderName_lower.mp (h ▸ name.valid)

theorem ofText?_eq_some {text : String} {name : HeaderName} :
    ofText? text = some name ↔ name.text = Ascii.lower text := by
  unfold ofText?
  split
  next hvalid => simp only [Option.some.injEq, ← text_inj, eq_comm]
  next hvalid =>
    refine ⟨fun h => (by cases h), fun h => absurd ?_ hvalid⟩
    exact h ▸ name.valid

theorem lower_text (name : HeaderName) : Ascii.lower name.text = name.text := by
  have hvalid := name.valid
  simp only [isHeaderName, Bool.and_eq_true, List.all_eq_true, Bool.not_eq_true'] at hvalid
  have hsame : name.text.toList.map Char.toLower = name.text.toList := by
    conv_rhs => rw [← List.map_id name.text.toList]
    exact List.map_congr_left fun c hc => toLower_of_not_isUpper (hvalid.2 c hc).2
  rw [Ascii.lower, hsame, String.ofList_toList]

theorem isToken_text (name : HeaderName) : IsToken name.text.toList := isToken_of_lower name.lower_text.symm

theorem toNat_lt_of_mem_text (name : HeaderName) : ∀ c ∈ name.text.toList, c.toNat < 128 :=
  fun c hc => toNat_lt_of_isTokenChar (name.isToken_text.chars c hc)

theorem bytes_text (name : HeaderName) : Bytes.ofText name.text = name.text.toList.map Bytes.ofChar := by
  conv_lhs => rw [← String.ofList_toList (s := name.text)]
  exact Bytes.ofText_ascii name.toNat_lt_of_mem_text

/-- Bytes are read as a name if their small letters write it. -/
theorem ofText?_char {bytes : Bytes} {name : HeaderName} :
    ofText? (String.ofList (bytes.map Bytes.char)) = some name ↔ bytes.map Bytes.lower = Bytes.ofText name.text := by
  have hlower : (bytes.map Bytes.char).map Char.toLower = (bytes.map Bytes.lower).map Bytes.char := by
    rw [List.map_map, List.map_map]
    exact List.map_congr_left fun byte _ => Bytes.toLower_char byte
  rw [ofText?_eq_some, ← String.toList_inj, Ascii.toList_lower, String.toList_ofList, hlower, bytes_text]
  constructor
  · intro h
    rw [h, Bytes.map_ofChar_char]
  · intro h
    rw [h, Bytes.map_char_ofChar name.toNat_lt_of_mem_text]

theorem isToken_char {bytes : Bytes} {name : HeaderName} (h : bytes.map Bytes.lower = Bytes.ofText name.text) :
    IsToken (bytes.map Bytes.char) := by
  have htoken := isToken_of_lower (ofText?_eq_some.mp (ofText?_char.mpr h))
  rwa [String.toList_ofList] at htoken

end HeaderName

/-! ## Values -/

namespace Headers

variable {headers : Headers} {name : HeaderName} {value : Bytes}

theorem mem_values : value ∈ headers.values name ↔ (name, value) ∈ headers := by
  simp [values]

theorem has_iff : headers.has name = true ↔ ∃ value, (name, value) ∈ headers := by
  simp [has]

theorem first?_eq_some :
    headers.first? name = some value ↔
      ∃ before after, headers = before ++ (name, value) :: after ∧ ∀ field ∈ before, field.1 ≠ name := by
  rw [first?, values, List.head?_map, List.head?_filter, Option.map_eq_some_iff]
  constructor
  · rintro ⟨⟨found, _⟩, hfind, rfl⟩
    obtain ⟨hname, before, after, rfl, hbefore⟩ := List.find?_eq_some_iff_append.mp hfind
    obtain rfl : found = name := by simpa using hname
    exact ⟨before, after, rfl, by simpa using hbefore⟩
  · rintro ⟨before, after, rfl, hbefore⟩
    exact ⟨(name, value), List.find?_eq_some_iff_append.mpr ⟨by simp, before, after, rfl, by simpa using hbefore⟩, rfl⟩

theorem values_filter (p : HeaderName → Bool) :
    Headers.values (headers.filter fun field => p field.1) name = if p name then headers.values name else [] := by
  have hfilter : ∀ field ∈ headers, (decide (field.1 = name) && p field.1) = (decide (field.1 = name) && p name) := by
    intro field _
    by_cases h : field.1 = name <;> simp [h]
  rw [values, List.filter_filter, List.filter_congr hfilter]
  cases p name <;> simp [values]

/-! ## One value in place of all others -/

theorem values_set_other {other : HeaderName} (h : other ≠ name) (headers : Headers) (value : Bytes) :
    (headers.set name value).values other = headers.values other := by
  have hkeep : ∀ field ∈ headers, (decide (field.1 = other) && decide (field.1 ≠ name)) = decide (field.1 = other) := by
    intro field _
    by_cases hfield : field.1 = other <;> simp [hfield, h]
  rw [values, values, set, without, List.filter_append, List.filter_filter, List.filter_congr hkeep]
  simp [Ne.symm h]

theorem values_set (headers : Headers) (name : HeaderName) (value : Bytes) :
    (headers.set name value).values name = [value] := by
  simp [values, set, without, List.filter_append, List.filter_filter]

theorem first?_set (headers : Headers) (name : HeaderName) (value : Bytes) :
    (headers.set name value).first? name = some value := by
  rw [first?, values_set, List.head?_cons]

theorem set_set (headers : Headers) (name : HeaderName) (value last : Bytes) :
    (headers.set name value).set name last = headers.set name last := by
  simp [set, without, List.filter_append, List.filter_filter]

/-! ## A value for a name that has none -/

theorem has_eq_isSome (headers : Headers) (name : HeaderName) : headers.has name = (headers.first? name).isSome := by
  rw [Bool.eq_iff_iff, has_iff, first?, List.isSome_head?, ne_eq, List.eq_nil_iff_forall_not_mem]
  simp only [mem_values, not_forall, not_not]

theorem first?_setDefault (headers : Headers) (name : HeaderName) (value : Bytes) :
    (headers.setDefault name value).first? name = some ((headers.first? name).getD value) := by
  unfold setDefault
  rw [has_eq_isSome]
  cases h : headers.first? name with
  | some own => simpa using h
  | none =>
    have hnone : headers.values name = [] := List.head?_eq_none_iff.mp h
    rw [values, List.map_eq_nil_iff] at hnone
    simp [first?, values, List.filter_append, hnone]

theorem values_setDefault_other {other : HeaderName} (h : other ≠ name) (headers : Headers) (value : Bytes) :
    (headers.setDefault name value).values other = headers.values other := by
  unfold setDefault
  split
  · rfl
  · simp [values, List.filter_append, Ne.symm h]

end Headers

end ReverseProxy
