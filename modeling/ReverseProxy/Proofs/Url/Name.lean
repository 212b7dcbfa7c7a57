import ReverseProxy.Proofs.Http.Authority
import ReverseProxy.Proofs.Text.Bytes
import ReverseProxy.Proofs.Unicode.Ascii
import ReverseProxy.Proofs.Url.Ipv6
import ReverseProxy.Url.Host

/-! # Hosts that every reader of an address takes -/

namespace ReverseProxy

namespace Percent

theorem encodeChar_ascii : ∀ c : Char, c.toNat < 128 → c ≠ '%' → 0x25 ∉ String.utf8EncodeChar c :=
  Ascii.forall_char (by decide +kernel)

theorem decodeBytes_of_notMem {bytes : Bytes} (h : 0x25 ∉ bytes) : decodeBytes bytes = bytes := by
  fun_induction decodeBytes bytes with
  | case1 => simp at h
  | case2 => simp at h
  | case3 byte rest _ ih => rw [ih (fun hmem => h (List.mem_cons_of_mem _ hmem))]
  | case4 => rfl

theorem decode_ascii {text : List Char} (h : ∀ c ∈ text, c.toNat < 128 ∧ c ≠ '%') :
    decode text = Bytes.ofText (String.ofList text) := by
  refine decodeBytes_of_notMem ?_
  rw [Bytes.ofText_ofList]
  intro hmem
  obtain ⟨c, hc, hbyte⟩ := List.mem_flatMap.mp hmem
  exact encodeChar_ascii c (h c hc).1 (h c hc).2 hbyte

end Percent

/-! ## Names -/

namespace Domain

variable {text label : List Char}

theorem fold?_ascii (h : ∀ c ∈ text, c.toNat < 128) : fold? text = some (text.map Char.toLower) := by
  have hmap : text.mapM Unicode.mapChar = some (text.map fun c => [c.toLower]) := by
    rw [mapM_eq_some, List.forall₂_map_right_iff, List.forall₂_same]
    exact fun c hc => Unicode.mapChar_ascii c (h c hc)
  have hflat : (text.map fun c => [c.toLower]).flatten = text.map Char.toLower := by
    rw [← List.flatMap_def, ← List.map_eq_flatMap]
  rw [fold?, hmap, Option.map_some, hflat, Unicode.normalize_ascii]
  exact List.forall_mem_map.mpr fun c hc => Ascii.toLower_lt c (h c hc)

theorem joinLabels_split (text : List Char) : joinLabels (Parts.split '.' text) = text := by
  induction text with
  | nil => rfl
  | cons c rest ih =>
    by_cases hc : c = '.'
    · subst hc
      obtain ⟨first, others, heq⟩ := List.exists_cons_of_ne_nil (Parts.split_ne_nil '.' rest)
      rw [Parts.split_mark, heq, joinLabels, ← heq, ih, List.nil_append]
      simp
    · obtain ⟨first, others, heq, hsplit⟩ := Parts.exists_split_cons hc rest
      rw [hsplit]
      rw [heq] at ih
      cases others with
      | nil => rw [← ih]; rfl
      | cons second others => rw [← ih]; rfl

def IsPlain (label : List Char) : Prop := ¬ ['x', 'n', '-', '-'] <+: label

instance (label : List Char) : Decidable (IsPlain label) := inferInstanceAs (Decidable (¬ _))

theorem readLabel?_of_plain (h : IsPlain label) : readLabel? label = some label := by
  unfold readLabel?
  split
  next code => exact absurd (List.prefix_append ['x', 'n', '-', '-'] code) h
  next => rfl

theorem write_ascii (h : ∀ c ∈ label, c.toNat < 128) : write label = label := by
  rw [write, if_pos]
  exact List.all_eq_true.mpr fun c hc => decide_eq_true (h c hc)

theorem joinersFit_ascii (h : ∀ c ∈ label, c.toNat < 128) (before : List Char) : joinersFit before label = true := by
  induction label generalizing before with
  | nil => rfl
  | cons c rest ih =>
    obtain ⟨hc, hrest⟩ := List.forall_mem_cons.mp h
    have hjoiner : c ≠ '\u200d' ∧ c ≠ '\u200c' := by
      constructor <;> (rintro rfl; revert hc; decide)
    simp [joinersFit, hjoiner, ih hrest]

theorem isLabel_ascii (h : ∀ c ∈ label, c.toNat < 128) (hdot : '.' ∉ label) : isLabel label = true := by
  have hmark : label.head?.any Unicode.isMark = false := by
    cases label with
    | nil => rfl
    | cons c rest => exact Unicode.isMark_ascii (h c List.mem_cons_self)
  simp [isLabel, hmark, joinersFit_ascii h, hdot]

theorem isBidi_ascii (h : ∀ c ∈ label, c.toNat < 128) : isBidi label = false := by
  rw [isBidi, List.any_eq_false]
  intro c hc
  simpa using Unicode.direction_ascii c (h c hc)

/-- An ASCII name becomes small, if it has no label in Punycode and no character that names may not have. -/
theorem ofText?_ascii (h : ∀ c ∈ text, c.toNat < 128 ∧ isForbidden c.toLower = false)
    (hplain : ∀ label ∈ Parts.split '.' (text.map Char.toLower), IsPlain label) :
    ofText? text = some (text.map Char.toLower) := by
  have hlabel : ∀ label ∈ Parts.split '.' (text.map Char.toLower), (∀ c ∈ label, c.toNat < 128) ∧ '.' ∉ label := by
    intro label hmem
    refine ⟨?_, fun hdot => (Parts.of_mem_split hmem hdot).2 rfl⟩
    intro c hc
    obtain ⟨d, hd, rfl⟩ := List.mem_map.mp (Parts.of_mem_split hmem hc).1
    exact Ascii.toLower_lt d (h d hd).1
  have hread : (Parts.split '.' (text.map Char.toLower)).mapM readLabel? =
      some (Parts.split '.' (text.map Char.toLower)) := by
    rw [mapM_eq_some, List.forall₂_same]
    exact fun label hmem => readLabel?_of_plain (hplain label hmem)
  have hwrite : (Parts.split '.' (text.map Char.toLower)).map write = Parts.split '.' (text.map Char.toLower) := by
    rw [List.map_congr_left fun label hmem => write_ascii (hlabel label hmem).1, List.map_id']
  have hlabels : (Parts.split '.' (text.map Char.toLower)).all isLabel = true :=
    List.all_eq_true.mpr fun label hmem => isLabel_ascii (hlabel label hmem).1 (hlabel label hmem).2
  have hbidi : (Parts.split '.' (text.map Char.toLower)).any isBidi = false :=
    List.any_eq_false.mpr fun label hmem => by simp [isBidi_ascii (hlabel label hmem).1]
  have hforbidden : (text.map Char.toLower).any isForbidden = false :=
    List.any_eq_false.mpr (List.forall_mem_map.mpr fun c hc => by simp [(h c hc).2])
  simp only [ofText?, fold?_ascii fun c hc => (h c hc).1, Option.bind_eq_bind, Option.bind_some, hread, hwrite,
    joinLabels_split, hlabels, hbidi, hforbidden]
  rfl

end Domain

namespace Host

open Authority

theorem inBrackets?_append (inner : List Char) : inBrackets? (inner ++ [']']) = some inner := by
  simp [inBrackets?]

theorem of_ofBracketed {text name : List Char} (h : ofBracketed text = .ok name) :
    ∃ inner pieces, text = inner ++ [']'] ∧ Ipv6.parse? inner = some pieces := by
  unfold ofBracketed at h
  split at h
  next pieces hpieces =>
    obtain ⟨inner, hinner, hparse⟩ := Option.bind_eq_some_iff.mp hpieces
    unfold inBrackets? at hinner
    split at hinner
    next hlast =>
      cases hinner
      exact ⟨text.dropLast, pieces, (List.dropLast_append_getLast? _ hlast).symm, hparse⟩
    next => cases hinner
  next => cases h

/-- The text between brackets is an IPv6 address, or the name is in ASCII and no label of it in Punycode.
A name that ends in a number is an IPv4 address. -/
inductive Ordinary : List Char → Prop
  | bracketed {inner : List Char} : (Ipv6.parse? inner).isSome = true → Ordinary ('[' :: (inner ++ [']']))
  | name {text : List Char} :
    text ≠ [] → (∀ c ∈ text, isNameChar c = true) →
    (∀ label ∈ Parts.split '.' (text.map Char.toLower), Domain.IsPlain label) →
    (Ipv4.isNumeric (text.map Char.toLower) = true → (Ipv4.parse? (text.map Char.toLower)).isSome = true) →
    Ordinary text

theorem plain_of_isNameChar {c : Char} (h : isNameChar c = true) :
    c.toNat < 128 ∧ c ≠ '%' ∧ Domain.isForbidden c.toLower = false := by
  have hall : ∀ c : Char, c.toNat < 128 → isNameChar c = true → c ≠ '%' ∧ Domain.isForbidden c.toLower = false :=
    Ascii.forall_char (by decide +kernel)
  have hlt := toNat_lt_of_isUriChar (isNameChar_iff.mp h).1
  exact ⟨hlt, hall c hlt h⟩

theorem Ordinary.normalize {host : List Char} (h : Ordinary host) : ∃ found, Host.normalize host = .ok found := by
  cases h with
  | @bracketed inner hinner =>
    obtain ⟨pieces, hpieces⟩ := Option.isSome_iff_exists.mp hinner
    refine ⟨'[' :: (Ipv6.print pieces ++ [']']), ?_⟩
    rw [Host.normalize, ofBracketed, inBrackets?_append, Option.bind_some, hpieces]
  | name hne hchars hlabels hnumeric =>
    have hplain := fun c hc => plain_of_isNameChar (hchars c hc)
    have hdecode := Percent.decode_ascii fun c hc => ⟨(hplain c hc).1, (hplain c hc).2.1⟩
    have hname : Domain.ofBytes? (Percent.decode host) = some (host.map Char.toLower) := by
      rw [Domain.ofBytes?, hdecode, Bytes.text?_ofText, Option.bind_eq_bind, Option.bind_some, String.toList_ofList]
      exact Domain.ofText?_ascii (fun c hc => ⟨(hplain c hc).1, (hplain c hc).2.2⟩) hlabels
    have hofName : Host.normalize host = ofName host := by
      unfold Host.normalize
      split
      · exact absurd rfl hne
      · exact absurd (hchars '[' List.mem_cons_self) (by decide)
      · rfl
    rw [hofName, ofName, hname]
    simp only [List.map_eq_nil_iff, if_neg hne]
    by_cases hlast : Ipv4.isNumeric (host.map Char.toLower) = true
    · obtain ⟨bytes, hbytes⟩ := Option.isSome_iff_exists.mp (hnumeric hlast)
      exact ⟨Ipv4.print bytes, by rw [if_pos hlast, ofNumeric, hbytes]⟩
    · exact ⟨host.map Char.toLower, by rw [if_neg hlast]⟩

end Host

end ReverseProxy
