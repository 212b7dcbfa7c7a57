import Mathlib.Data.List.InsertIdx
import ReverseProxy.Proofs.Url.Name

/-! # Names with colons

No name holds a colon. Neither decoding nor the tables of characters nor Punycode make one disappear, so a host
with a colon stands in brackets.
-/

namespace ReverseProxy

/-! ## Bytes -/

theorem colon_of_mem_utf8 {c : Char} (h : 0x3A ∈ String.utf8EncodeChar c) : c = ':' := by
  by_cases hascii : c.toNat < 128
  · have hall : ∀ c : Char, c.toNat < 128 → 0x3A ∈ String.utf8EncodeChar c → c = ':' :=
      Ascii.forall_char (by decide +kernel)
    exact hall c hascii h
  · have hbig : ¬ c.val.toNat ≤ 127 := fun hle => hascii (Nat.lt_succ_of_le hle)
    have hhigh : ∀ byte ∈ String.utf8EncodeChar c, 128 ≤ byte.toNat := by
      intro byte hbyte
      simp only [String.utf8EncodeChar, if_neg hbig] at hbyte
      split at hbyte
      · simp only [List.mem_cons, List.not_mem_nil, or_false] at hbyte
        rcases hbyte with rfl | rfl <;> simp <;> omega
      · split at hbyte
        · simp only [List.mem_cons, List.not_mem_nil, or_false] at hbyte
          rcases hbyte with rfl | rfl | rfl <;> simp <;> omega
        · simp only [List.mem_cons, List.not_mem_nil, or_false] at hbyte
          rcases hbyte with rfl | rfl | rfl | rfl <;> simp <;> omega
    exact absurd (hhigh _ h) (by decide)

theorem Bytes.colon_mem_iff (text : String) : 0x3A ∈ Bytes.ofText text ↔ ':' ∈ text.toList := by
  conv_lhs => rw [← String.ofList_toList (s := text), Bytes.ofText_ofList, List.mem_flatMap]
  constructor
  · rintro ⟨c, hc, hbyte⟩
    exact colon_of_mem_utf8 hbyte ▸ hc
  · exact fun h => ⟨':', h, by decide⟩

theorem Bytes.ofText_of_text? {bytes : Bytes} {text : String} (h : bytes.text? = some text) :
    Bytes.ofText text = bytes := by
  unfold Bytes.text? String.fromUTF8? at h
  split at h
  · cases h; simp [Bytes.ofText, String.toUTF8, String.fromUTF8]
  · cases h

theorem Ascii.hexValue?_colon : hexValue? (Char.ofNat (UInt8.toNat 0x3A)) = none := by decide

theorem Percent.colon_mem_decodeBytes {bytes : Bytes} (h : 0x3A ∈ bytes) : 0x3A ∈ decodeBytes bytes := by
  fun_induction decodeBytes bytes with
  | case1 a b rest high low hlow hhigh ih =>
    simp only [List.mem_cons] at h ⊢
    rcases h with h | rfl | rfl | h
    · exact absurd h (by decide)
    · cases Ascii.hexValue?_colon.symm.trans hhigh
    · cases Ascii.hexValue?_colon.symm.trans hlow
    · exact .inr (ih h)
  | case2 a b rest _ ih => exact List.mem_cons_of_mem _ (ih ((List.mem_cons.mp h).resolve_left (by decide)))
  | case3 byte rest _ ih => exact List.mem_cons.mpr ((List.mem_cons.mp h).imp_right ih)
  | case4 => cases h

/-! ## Punycode -/

namespace Punycode

theorem readNumber?_colon {bias : Nat} {text : List Char} {place weight sum : Nat} {result : Nat × List Char}
    (h : readNumber? bias text place weight sum = some result) (hcolon : ':' ∈ text) : ':' ∈ result.2 := by
  induction text generalizing place weight sum with
  | nil => cases hcolon
  | cons c rest ih =>
    simp only [readNumber?] at h
    split at h
    next => cases h
    next d hd =>
      have hrest : ':' ∈ rest := by
        refine (List.mem_cons.mp hcolon).resolve_left ?_
        rintro rfl
        cases hd
      split at h
      · cases h
        exact hrest
      · exact ih h hrest

/-- A colon is no digit, and no character that was put in is lost. -/
theorem readAll?_colon {bias n at' : Nat} {out text result : List Char}
    (h : readAll? bias n at' out text = some result) (hcolon : ':' ∈ out ∨ ':' ∈ text) : ':' ∈ result := by
  fun_induction readAll? bias n at' out text with
  | case1 => cases h; exact hcolon.resolve_right List.not_mem_nil
  | case2 => cases h
  | case3 bias n at' out c rest sum after hread points m hscalar ih =>
    refine ih h (hcolon.imp (fun hmem => ?_) (readNumber?_colon hread))
    exact List.subset_insertIdx _ _ _ hmem
  | case4 => cases h

theorem decode?_colon {text result : List Char} (h : decode? text = some result) (hcolon : ':' ∈ text) :
    ':' ∈ result := by
  simp only [decode?] at h
  refine readAll?_colon h ?_
  split
  next => exact .inr hcolon
  next =>
    rw [← List.mem_reverse, ← List.takeWhile_append_dropWhile (p := (· ≠ '-')) (l := text.reverse),
      List.mem_append] at hcolon
    rcases hcolon with hafter | hbefore
    · exact .inr (List.mem_reverse.mpr hafter)
    · -- Only the last hyphen is dropped between the two parts.
      refine .inl (List.mem_reverse.mpr ?_)
      cases hdrop : text.reverse.dropWhile (· ≠ '-') with
      | nil =>
        rw [hdrop] at hbefore
        cases hbefore
      | cons d rest =>
        rw [hdrop] at hbefore
        refine (List.mem_cons.mp hbefore).resolve_left ?_
        rintro rfl
        have hhead := List.head?_dropWhile_not (· ≠ '-') text.reverse
        rw [hdrop] at hhead
        cases hhead

theorem encode_colon {text : List Char} (hcolon : ':' ∈ text) : ':' ∈ encode text := by
  simp only [encode]
  exact List.mem_append_left _ (List.mem_append_left _ (List.mem_filter.mpr ⟨hcolon, by decide⟩))

end Punycode

/-! ## Names and hosts -/

namespace Domain

variable {text label : List Char}

theorem fold?_colon {folded : List Char} (h : fold? text = some folded) (hcolon : ':' ∈ text) : ':' ∈ folded := by
  obtain ⟨parts, hparts, rfl⟩ := Option.map_eq_some_iff.mp h
  obtain ⟨part, hmem, hpart⟩ := exists_of_mem_left (mapM_eq_some.mp hparts) hcolon
  rw [Unicode.mapChar_ascii ':' (by decide)] at hpart
  cases hpart
  exact Unicode.colon_mem_normalize (List.mem_flatten.mpr ⟨_, hmem, by decide⟩)

theorem readLabel?_colon {plain : List Char} (h : readLabel? label = some plain) (hcolon : ':' ∈ label) :
    ':' ∈ plain := by
  unfold readLabel? at h
  split at h
  next code =>
    have hcode : ':' ∈ code := by simpa using hcolon
    split at h
    next =>
      split at h
      next decoded hdecoded =>
        split at h
        · cases h
        · cases h
          exact Punycode.decode?_colon hdecoded hcode
      next => cases h
    next => cases h
  next => cases h; exact hcolon

theorem write_colon (hcolon : ':' ∈ label) : ':' ∈ write label := by
  unfold write
  split
  · exact hcolon
  · exact List.mem_append_right _ (Punycode.encode_colon hcolon)

theorem mem_joinLabels {c : Char} {labels : List (List Char)} (hlabel : label ∈ labels) (hc : c ∈ label) :
    c ∈ joinLabels labels := by
  fun_induction joinLabels labels with
  | case1 => cases hlabel
  | case2 last => exact List.mem_singleton.mp hlabel ▸ hc
  | case3 first rest _ ih =>
    rcases List.mem_cons.mp hlabel with rfl | hrest
    · exact List.mem_append_left _ hc
    · exact List.mem_append_right _ (List.mem_cons_of_mem _ (ih hrest))

theorem ofText?_colon (hcolon : ':' ∈ text) : ofText? text = none := by
  rw [Option.eq_none_iff_forall_not_mem]
  intro name hname
  obtain ⟨folded, hfolded, hname⟩ := Option.bind_eq_some_iff.mp hname
  obtain ⟨labels, hlabels, hname⟩ := Option.bind_eq_some_iff.mp hname
  obtain ⟨part, hpart, hmem⟩ := (Parts.mem_split '.' folded ':' (fold?_colon hfolded hcolon)).resolve_left (by decide)
  obtain ⟨label, hlabel, hread⟩ := exists_of_mem_left (mapM_eq_some.mp hlabels) hpart
  have hwritten : ':' ∈ joinLabels (labels.map write) :=
    mem_joinLabels (List.mem_map_of_mem hlabel) (write_colon (readLabel?_colon hread hmem))
  have hforbidden : (joinLabels (labels.map write)).any isForbidden = true :=
    List.any_eq_true.mpr ⟨':', hwritten, by decide⟩
  simp [hforbidden] at hname

end Domain

/-- A host with a colon is refused, if it does not stand in brackets. -/
theorem Host.head_of_colon {host name : List Char} (h : Host.normalize host = .ok name) (hcolon : ':' ∈ host) :
    host.head? = some '[' := by
  unfold Host.normalize at h
  split at h
  next => cases h
  next => rfl
  next =>
    have hbytes : 0x3A ∈ Percent.decode host := by
      refine Percent.colon_mem_decodeBytes ((Bytes.colon_mem_iff _).mpr ?_)
      rwa [String.toList_ofList]
    have hnone : Domain.ofBytes? (Percent.decode host) = none := by
      unfold Domain.ofBytes?
      cases htext : (Percent.decode host).text? with
      | none => rfl
      | some text =>
        rw [← Bytes.ofText_of_text? htext, Bytes.colon_mem_iff] at hbytes
        exact Domain.ofText?_colon hbytes
    rw [ofName, hnone] at h
    cases h

end ReverseProxy
