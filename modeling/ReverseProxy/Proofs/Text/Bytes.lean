import Mathlib.Data.List.Basic
import ReverseProxy.Proofs.Text.Ascii
import ReverseProxy.Text.Bytes

/-! # Bytes of texts -/

namespace ReverseProxy.Bytes

theorem text?_ofText (text : String) : text? (ofText text) = some text := by
  have hbytes : (⟨(ofText text).toArray⟩ : ByteArray) = text.toByteArray := by
    rw [ofText, Array.toArray_toList]
    rfl
  rw [text?, hbytes, String.fromUTF8?, dif_pos text.isValidUTF8]
  rfl

theorem ofText_ofList (text : List Char) : ofText (String.ofList text) = text.flatMap String.utf8EncodeChar := by
  rw [ofText, String.toUTF8, String.toByteArray_ofList, List.utf8Encode, List.data_toByteArray]

theorem ofText_append (first second : String) : ofText (first ++ second) = ofText first ++ ofText second := by
  rw [ofText, String.toUTF8, String.toByteArray_append, ByteArray.data_append, Array.toList_append]
  rfl

theorem length_ofText (text : String) : (ofText text).length = text.utf8ByteSize := by
  rw [ofText, Array.length_toList]
  rfl

/-! ## Order -/

theorem utf8EncodeChar_lt {c d : Char} (h : c < d) (first second : Bytes) :
    String.utf8EncodeChar c ++ first < String.utf8EncodeChar d ++ second := by
  have hlt : c.val.toNat < d.val.toNat := h
  have hmax : d.val.toNat < 0x110000 := by rcases d.valid with hvalid | hvalid <;> omega
  by_cases hfour : c.val.toNat ≤ 0xffff
  · simp only [String.utf8EncodeChar]
    split_ifs <;>
      simp only [List.cons_append, List.nil_append, List.cons_lt_cons_iff, UInt8.lt_iff_toNat_lt,
        ← UInt8.toNat_inj, UInt8.toNat_ofNat'] <;>
      omega
  · -- Four bytes each. The first place in base 64 in which the characters differ is the smaller one in `c`.
    have hplaces : c.val.toNat / 262144 < d.val.toNat / 262144 ∨ c.val.toNat / 262144 = d.val.toNat / 262144 ∧
        (c.val.toNat / 4096 % 64 < d.val.toNat / 4096 % 64 ∨ c.val.toNat / 4096 = d.val.toNat / 4096 ∧
          (c.val.toNat / 64 % 64 < d.val.toNat / 64 % 64 ∨ c.val.toNat / 64 = d.val.toNat / 64 ∧
            c.val.toNat % 64 < d.val.toNat % 64)) := by omega
    rw [String.utf8EncodeChar, if_neg (by omega), if_neg (by omega), if_neg hfour,
      String.utf8EncodeChar, if_neg (by omega), if_neg (by omega), if_neg (by omega)]
    simp only [List.cons_append, List.nil_append, List.cons_lt_cons_iff, UInt8.lt_iff_toNat_lt,
      ← UInt8.toNat_inj, UInt8.toNat_ofNat']
    rcases hplaces with hplace | ⟨_, hplace | ⟨_, hplace | ⟨_, hplace⟩⟩⟩ <;> omega

/-- Texts come in the order of their bytes. -/
theorem ofText_lt {first second : String} (h : first < second) : ofText first < ofText second := by
  have hencode : ∀ {cs ds : List Char}, cs < ds →
      cs.flatMap String.utf8EncodeChar < ds.flatMap String.utf8EncodeChar := by
    intro cs ds h
    induction h with
    | nil =>
      obtain ⟨byte, bytes, hcons⟩ := List.exists_cons_of_ne_nil String.utf8EncodeChar_ne_nil
      rw [List.flatMap_cons, hcons]
      exact List.nil_lt_cons _ _
    | rel hlt => exact utf8EncodeChar_lt hlt _ _
    | cons _ ih => exact List.append_left_lt ih
  have h' := hencode (String.lt_iff.mp h)
  rwa [← ofText_ofList, ← ofText_ofList, String.ofList_toList, String.ofList_toList] at h'

/-! ## ASCII -/

/-- The character that an ASCII byte writes. -/
def char (byte : UInt8) : Char := Char.ofNat byte.toNat

/-- The byte that writes an ASCII character. -/
def ofChar (c : Char) : UInt8 := UInt8.ofNat c.toNat

def lower (byte : UInt8) : UInt8 := if 0x41 ≤ byte ∧ byte ≤ 0x5A then byte + 0x20 else byte

theorem forall_byte {P : UInt8 → Prop} (h : ∀ n < 256, P (UInt8.ofNat n)) (byte : UInt8) : P byte := by
  have := h byte.toNat byte.toNat_lt
  rwa [UInt8.ofNat_toNat] at this

theorem char_ofChar : ∀ c : Char, c.toNat < 128 → char (ofChar c) = c := Ascii.forall_char (by decide +kernel)

theorem ofChar_char : ∀ byte : UInt8, ofChar (char byte) = byte := forall_byte (by decide +kernel)

theorem map_ofChar_char (bytes : Bytes) : (bytes.map char).map ofChar = bytes := by
  rw [List.map_map, show ofChar ∘ char = id from funext ofChar_char, List.map_id]

theorem map_char_ofChar {text : List Char} (h : ∀ c ∈ text, c.toNat < 128) : (text.map ofChar).map char = text := by
  conv_rhs => rw [← List.map_id text]
  rw [List.map_map]
  exact List.map_congr_left fun c hc => char_ofChar c (h c hc)

theorem char_inj {a b : UInt8} : char a = char b ↔ a = b := by
  refine ⟨fun h => ?_, congrArg char⟩
  rw [← ofChar_char a, h, ofChar_char]

theorem toLower_char : ∀ byte : UInt8, (char byte).toLower = char (lower byte) := forall_byte (by decide +kernel)

theorem ofText_ascii {text : List Char} (h : ∀ c ∈ text, c.toNat < 128) :
    ofText (String.ofList text) = text.map ofChar := by
  have hencode : ∀ c : Char, c.toNat < 128 → String.utf8EncodeChar c = [ofChar c] :=
    Ascii.forall_char (by decide +kernel)
  rw [ofText_ofList, List.map_eq_flatMap]
  exact List.flatMap_congr fun c hc => hencode c (h c hc)

theorem utf8ByteSize_ascii {text : List Char} (h : ∀ c ∈ text, c.toNat < 128) :
    (String.ofList text).utf8ByteSize = text.length := by
  rw [← length_ofText, ofText_ascii h, List.length_map]

/-! ## Visible bytes -/

theorem toNat_char_of_isVisible : ∀ byte : UInt8, isVisible byte = true → (char byte).toNat < 128 :=
  forall_byte (by decide +kernel)

theorem visible?_isSome (bytes : Bytes) : (visible? bytes).isSome = bytes.all isVisible := by
  unfold visible?
  split <;> simp_all

theorem ofText_of_visible? {bytes : Bytes} {text : String} (h : visible? bytes = some text) : ofText text = bytes := by
  unfold visible? at h
  split at h
  next hvisible =>
    cases h
    have hascii : ∀ c ∈ bytes.map char, c.toNat < 128 := by
      intro c hc
      obtain ⟨byte, hbyte, rfl⟩ := List.mem_map.mp hc
      exact toNat_char_of_isVisible byte (List.all_eq_true.mp hvisible byte hbyte)
    calc ofText (String.ofList (bytes.map char)) = (bytes.map char).map ofChar := ofText_ascii hascii
      _ = bytes := map_ofChar_char bytes
  next => cases h

end ReverseProxy.Bytes
