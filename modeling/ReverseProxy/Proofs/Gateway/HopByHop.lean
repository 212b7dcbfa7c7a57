import Mathlib.Data.List.Perm.Subperm
import ReverseProxy.Gateway.Forward
import ReverseProxy.Proofs.Http.Header
import ReverseProxy.Proofs.Text.Parts

/-! # Which fields go on to the next server -/

namespace ReverseProxy.Forward

/-! ## Names in the values of `connection` -/

def isSpace (byte : UInt8) : Bool := byte = 0x20 || byte = 0x09

/-- The bytes are the name, in any case of letters and with any space round it. -/
def Spells (token : Bytes) (name : HeaderName) : Prop :=
  ∃ left core right, token = left ++ core ++ right ∧ (∀ byte ∈ left ++ right, isSpace byte = true) ∧
    core.map Bytes.lower = Bytes.ofText name.text

def comma : UInt8 := 0x2C

/-- One of the texts between the commas of a value is the name. -/
def Lists (value : Bytes) (name : HeaderName) : Prop := ∃ token ∈ value.splitOn comma, Spells token name

def Listed (headers : Headers) (name : HeaderName) : Prop := ∃ value ∈ headers.values .connection, Lists value name

/-- A name that a value of `connection` lists, all of whose bytes are visible. -/
def ListedVisibly (headers : Headers) (name : HeaderName) : Prop :=
  ∃ value ∈ headers.values .connection, value.all Bytes.isVisible = true ∧ Lists value name

variable {value token : Bytes} {name : HeaderName} {headers : Headers}

theorem isSpace_of_isBlank :
    ∀ byte : UInt8, Bytes.isVisible byte = true → Blank.isBlank (Bytes.char byte) = isSpace byte :=
  Bytes.forall_byte (by decide +kernel)

theorem isBlank_of_isSpace : ∀ byte : UInt8, isSpace byte = true → Blank.isBlank (Bytes.char byte) = true :=
  Bytes.forall_byte (by decide +kernel)

theorem isBlank_of_isTokenChar : ∀ c : Char, isTokenChar c = true → Blank.isBlank c = false := by
  have hascii : ∀ c : Char, c.toNat < 128 → isTokenChar c = true → Blank.isBlank c = false :=
    Ascii.forall_char (by decide +kernel)
  exact fun c hc => hascii c (toNat_lt_of_isTokenChar hc) hc

theorem ofText?_trim (hvisible : ∀ byte ∈ token, Bytes.isVisible byte = true) :
    HeaderName.ofText? (Blank.trim (String.ofList (token.map Bytes.char))) = some name ↔ Spells token name := by
  rw [Blank.trim, String.toList_ofList]
  constructor
  · intro h
    obtain ⟨left, right, htext, hblank⟩ := Blank.exists_trimList (token.map Bytes.char)
    obtain ⟨rest, after, rfl, hrest, rfl⟩ := List.map_eq_append_iff.mp htext
    obtain ⟨before, core, rfl, rfl, hcore⟩ := List.map_eq_append_iff.mp hrest
    refine ⟨before, core, after, rfl, ?_, HeaderName.ofText?_char.mp (hcore ▸ h)⟩
    intro byte hbyte
    rw [← List.map_append] at hblank
    have hmem : byte ∈ before ++ core ++ after := by
      simp only [List.mem_append] at hbyte ⊢
      exact hbyte.imp_left .inl
    rw [← isSpace_of_isBlank byte (hvisible byte hmem)]
    exact hblank _ (List.mem_map_of_mem hbyte)
  · rintro ⟨left, core, right, rfl, hspace, hcore⟩
    have htoken := HeaderName.isToken_char hcore
    have hblank : ∀ c ∈ (left ++ right).map Bytes.char, Blank.isBlank c = true :=
      List.forall_mem_map.mpr fun byte hbyte => isBlank_of_isSpace byte (hspace byte hbyte)
    rw [List.map_append, List.forall_mem_append] at hblank
    have htrim := Blank.trimList_append hblank.1 htoken.nonempty
      (fun c hc => isBlank_of_isTokenChar c (htoken.chars c hc)) hblank.2
    rw [List.map_append, List.map_append, htrim, HeaderName.ofText?_char.mpr hcore]

theorem visible_of_mem_splitOn (hvisible : value.all Bytes.isVisible = true) (h : token ∈ value.splitOn comma) :
    ∀ byte ∈ token, Bytes.isVisible byte = true := by
  have hjoin := @List.intercalate_splitOn _ value _ _ comma
  rw [← hjoin, Parts.all_intercalate (by decide), List.all_eq_true] at hvisible
  exact List.all_eq_true.mp (hvisible token h)

theorem mem_namesIn : name ∈ namesIn value ↔ value.all Bytes.isVisible = true ∧ Lists value name := by
  unfold namesIn Bytes.visible?
  by_cases hvisible : value.all Bytes.isVisible = true
  · have hsplit : Parts.split ',' (value.map Bytes.char) = (value.splitOn comma).map (List.map Bytes.char) := by
      rw [Parts.split_eq_splitOn, show ',' = Bytes.char comma by decide,
        Parts.splitOn_map fun byte h => Bytes.char_inj.mp h]
    have hread : ∀ token ∈ value.splitOn comma,
        HeaderName.ofText? (Blank.trim (String.ofList (token.map Bytes.char))) = some name ↔ Spells token name :=
      fun token h => ofText?_trim (visible_of_mem_splitOn hvisible h)
    rw [if_pos hvisible]
    dsimp only
    rw [String.toList_ofList, show (fun b : UInt8 => Char.ofNat b.toNat) = Bytes.char from rfl, hsplit]
    simp only [List.mem_filterMap, List.mem_map, exists_exists_and_eq_and, hvisible, true_and, Lists]
    exact exists_congr fun token => and_congr_right fun h => hread token h
  · simp [hvisible]

theorem mem_connectionNames : name ∈ connectionNames headers ↔ ListedVisibly headers name := by
  simp only [connectionNames, List.mem_flatMap, mem_namesIn, ListedVisibly]

theorem ListedVisibly.listed (h : ListedVisibly headers name) : Listed headers name := by
  obtain ⟨value, hmem, -, hlists⟩ := h
  exact ⟨value, hmem, hlists⟩

/-! ## Fields that stay -/

def goesOn (headers : Headers) (name : HeaderName) : Bool :=
  name ∉ connectionNames headers && name ∉ hopByHop

theorem strip_eq_filter (headers : Headers) : strip headers = headers.filter fun field => goesOn headers field.1 := rfl

theorem goesOn_iff : goesOn headers name = true ↔ name ∉ hopByHop ∧ ¬ListedVisibly headers name := by
  simp [goesOn, mem_connectionNames, and_comm]

theorem mem_strip {field : HeaderName × Bytes} :
    field ∈ strip headers ↔ field ∈ headers ∧ field.1 ∉ hopByHop ∧ ¬ListedVisibly headers field.1 := by
  rw [strip_eq_filter, List.mem_filter, goesOn_iff]

/-- What goes on is just what came, is not fixed to the connection and is listed in no visible value. -/
theorem strip_thorough (headers : Headers) (name : HeaderName) :
    (strip headers).has name = true ↔
      headers.has name = true ∧ name ∉ hopByHop ∧
        ∀ value ∈ headers.values .connection, value.all Bytes.isVisible = true → ¬Lists value name := by
  simp only [Headers.has_iff, mem_strip, exists_and_right, ListedVisibly, not_exists, not_and]

def xPrivate : HeaderName := ⟨"x-private", by decide⟩

/-- A name is listed, and behind it a byte that is not visible. -/
def evading : Headers := [(.connection, Bytes.ofText "x-private, " ++ [0xFF]), (xPrivate, [0x31])]

/-- A value with such a byte lists names in vain. -/
theorem strip_evaded : Listed evading xPrivate ∧ (strip evading).has xPrivate = true := by
  have hlists : Lists (Bytes.ofText "x-private, " ++ [0xFF]) xPrivate :=
    ⟨Bytes.ofText "x-private", by decide, [], Bytes.ofText "x-private", [], by simp, by simp, by decide⟩
  exact ⟨⟨_, by decide, hlists⟩, by decide⟩

/-! ## Fields that are not listed -/

/-- A token that cannot be meant for any field of the request. -/
inductive Idle (headers : Headers) (token : Bytes) : Prop where
  | empty (h : ∀ byte ∈ token, isSpace byte = true)
  | invalid (h : ∀ name, ¬Spells token name)
  | absent (h : ∀ name, Spells token name → headers.has name = false)

theorem not_spells_of_empty (h : ∀ byte ∈ token, isSpace byte = true) : ¬Spells token name := by
  rintro ⟨left, core, right, rfl, -, hcore⟩
  have htoken := HeaderName.isToken_char hcore
  obtain ⟨byte, rest, rfl⟩ := List.exists_cons_of_ne_nil fun hnil => htoken.nonempty (List.map_eq_nil_iff.mpr hnil)
  have hblank := isBlank_of_isSpace byte (h byte (by simp))
  rw [isBlank_of_isTokenChar _ (htoken.chars _ (by simp))] at hblank
  cases hblank

theorem Idle.absent_of_spells (h : Idle headers token) (hspells : Spells token name) : headers.has name = false := by
  cases h with
  | empty h => exact absurd hspells (not_spells_of_empty h)
  | invalid h => exact absurd hspells (h name)
  | absent h => exact h name hspells

/-- The value of `connection` that is made of some tokens. -/
def listing (tokens : List Bytes) : HeaderName × Bytes := (.connection, [comma].intercalate tokens)

/-- What is left of the fields of a request is what nobody asked to drop. -/
structure Spares (headers : Headers) : Prop where
  kept : ∀ name, name ∉ hopByHop → ¬Listed headers name → (strip headers).values name = headers.values name
  /-- A name goes with all its values or stays with all of them. -/
  whole : ∀ name, (strip headers).values name = [] ∨ (strip headers).values name = headers.values name
  unadded : (strip headers).Subperm headers
  settled : strip (strip headers) = strip headers
  /-- A field that stays without an idle token stays with it. -/
  idle : ∀ before left token right after, headers = before ++ listing (left ++ token :: right) :: after →
    (∀ t ∈ left ++ token :: right, comma ∉ t) → Idle headers token →
      (strip (before ++ listing (left ++ right) :: after)).Subperm (strip headers)

theorem values_strip (headers : Headers) (name : HeaderName) :
    (strip headers).values name = if goesOn headers name then headers.values name else [] :=
  Headers.values_filter (goesOn headers)

/-- Nothing is listed when `connection` itself is gone. -/
theorem strip_strip (headers : Headers) : strip (strip headers) = strip headers := by
  have hgone : (strip headers).values .connection = [] := by
    rw [values_strip, if_neg]
    simp [goesOn, hopByHop]
  conv_lhs => rw [strip_eq_filter]
  rw [List.filter_eq_self]
  intro field hfield
  refine goesOn_iff.mpr ⟨(mem_strip.mp hfield).2.1, ?_⟩
  rintro ⟨value, hmem, -⟩
  rw [hgone] at hmem
  cases hmem

section Idle

variable {before after : Headers} {left right : List Bytes}

/-- What stands in `connection` decides over other fields only. -/
theorem strip_listing (before after : Headers) (tokens : List Bytes) :
    strip (before ++ listing tokens :: after) =
      (before ++ after).filter fun field => goesOn (before ++ listing tokens :: after) field.1 := by
  rw [strip_eq_filter, List.filter_append, List.filter_append, List.filter_cons_of_neg]
  simp [listing, goesOn, hopByHop]

theorem mem_values_listing {tokens : List Bytes} :
    value ∈ Headers.values (before ++ listing tokens :: after) .connection ↔
      value ∈ Headers.values (before ++ after) .connection ∨ value = [comma].intercalate tokens := by
  simp only [Headers.mem_values, listing, List.mem_append, List.mem_cons, Prod.mk.injEq, true_and]
  tauto

theorem ListedVisibly.without (htokens : ∀ t ∈ left ++ token :: right, comma ∉ t)
    (hidle : ¬Spells token name) (h : ListedVisibly (before ++ listing (left ++ token :: right) :: after) name) :
    ListedVisibly (before ++ listing (left ++ right) :: after) name := by
  have hothers : ∀ t ∈ left ++ right, t ∈ left ++ token :: right := by
    intro t ht
    simp only [List.mem_append, List.mem_cons] at ht ⊢
    tauto
  obtain ⟨value, hmem, hvisible, part, hpart, hspells⟩ := h
  rcases mem_values_listing.mp hmem with hmem | rfl
  · exact ⟨value, mem_values_listing.mpr (.inl hmem), hvisible, part, hpart, hspells⟩
  · rw [List.splitOn_intercalate comma htokens (by simp)] at hpart
    have hother : part ∈ left ++ right := by
      simp only [List.mem_append, List.mem_cons] at hpart ⊢
      rcases hpart with h | rfl | h
      · exact .inl h
      · exact absurd hspells hidle
      · exact .inr h
    refine ⟨_, mem_values_listing.mpr (.inr rfl), ?_, part, ?_, hspells⟩
    · rw [Parts.all_intercalate (by decide), List.all_eq_true] at hvisible ⊢
      exact fun t ht => hvisible t (hothers t ht)
    · rwa [List.splitOn_intercalate comma (fun t ht => htokens t (hothers t ht)) (List.ne_nil_of_mem hother)]

theorem strip_without_subperm (htokens : ∀ t ∈ left ++ token :: right, comma ∉ t)
    (hidle : Idle (before ++ listing (left ++ token :: right) :: after) token) :
    (strip (before ++ listing (left ++ right) :: after)).Subperm
      (strip (before ++ listing (left ++ token :: right) :: after)) := by
  have hstays : ∀ field ∈ before ++ after, goesOn (before ++ listing (left ++ right) :: after) field.1 = true →
      goesOn (before ++ listing (left ++ token :: right) :: after) field.1 = true := by
    intro field hfield hgoes
    rw [goesOn_iff] at hgoes ⊢
    refine ⟨hgoes.1, fun hlisted => hgoes.2 (hlisted.without htokens fun hspells => ?_)⟩
    have habsent := hidle.absent_of_spells hspells
    have hpresent : Headers.has (before ++ listing (left ++ token :: right) :: after) field.1 = true := by
      rw [Headers.has_iff]
      refine ⟨field.2, ?_⟩
      simp only [List.mem_append, List.mem_cons] at hfield ⊢
      exact hfield.imp_right .inr
    rw [hpresent] at habsent
    cases habsent
  have hfilter : ∀ field ∈ before ++ after, goesOn (before ++ listing (left ++ right) :: after) field.1 =
      (goesOn (before ++ listing (left ++ right) :: after) field.1 &&
        goesOn (before ++ listing (left ++ token :: right) :: after) field.1) := by
    intro field hfield
    cases hgoes : goesOn (before ++ listing (left ++ right) :: after) field.1 with
    | false => rfl
    | true => rw [hstays field hfield hgoes, Bool.and_self]
  rw [strip_listing, strip_listing, List.filter_congr hfilter, ← List.filter_filter]
  exact List.filter_sublist.subperm

end Idle

theorem strip_spares (headers : Headers) : Spares headers := by
  constructor
  case kept =>
    intro name hname hlisted
    rw [values_strip, if_pos (goesOn_iff.mpr ⟨hname, fun h => hlisted h.listed⟩)]
  case whole =>
    intro name
    rw [values_strip]
    split
    · exact .inr rfl
    · exact .inl rfl
  case unadded => exact List.filter_sublist.subperm
  case settled => exact strip_strip headers
  case idle =>
    rintro before left token right after rfl htokens hidle
    exact strip_without_subperm htokens hidle

def soapAction : HeaderName := ⟨"soapaction", by decide⟩

/-- An empty token, a name with a capital, and a field that comes twice. -/
def mixed : Headers := [listing [[0x20], Bytes.ofText " X-Private"], (soapAction, Bytes.ofText "foo"),
  (xPrivate, Bytes.ofText "1"), (.keepAlive, []), (soapAction, Bytes.ofText "bar")]

theorem strip_spares_mixed :
    soapAction ∉ hopByHop ∧ ¬Listed mixed soapAction ∧
      (strip mixed).values soapAction = [Bytes.ofText "foo", Bytes.ofText "bar"] ∧
      Idle mixed [0x20] ∧ (strip (listing [Bytes.ofText " X-Private"] :: mixed.tail)).Subperm (strip mixed) := by
  have hvisible : ∀ value ∈ mixed.values .connection, value.all Bytes.isVisible = true := by decide
  have hlisted : ¬Listed mixed soapAction := by
    rintro ⟨value, hmem, hlists⟩
    have hnames := mem_connectionNames.mpr ⟨value, hmem, hvisible value hmem, hlists⟩
    revert hnames
    decide
  have hidle : Idle mixed [0x20] := .empty (by simp [isSpace])
  refine ⟨by decide, hlisted, ?_, hidle, ?_⟩
  · rw [(strip_spares mixed).kept soapAction (by decide) hlisted]
    decide
  · exact (strip_spares mixed).idle [] [] [0x20] [Bytes.ofText " X-Private"] mixed.tail rfl (by decide) hidle

example : strip mixed = [(soapAction, Bytes.ofText "foo"), (soapAction, Bytes.ofText "bar")] := by decide

end ReverseProxy.Forward
