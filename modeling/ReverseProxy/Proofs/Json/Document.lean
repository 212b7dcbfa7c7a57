import ReverseProxy.Json.Document
import ReverseProxy.Json.Write

/-! # Words that are read as a document, and the document of words -/

namespace ReverseProxy.Json

def isAtom : Node → Bool
  | .sequence _ _ | .mapping _ _ | .broken => false
  | _ => true

/-- A string, though perhaps one that names no text. -/
def isKey : Node → Bool
  | .text _ | .garbled => true
  | _ => false

/-- A document with every container closed, strings for keys, and `atom` for its values without parts. -/
inductive WellFormed (atom : Node → Prop) : Node → Prop where
  | atom {node : Node} (hatom : isAtom node) (h : atom node) : WellFormed atom node
  | sequence {items : List Node} (h : ∀ item ∈ items, WellFormed atom item) :
    WellFormed atom (.sequence items true)
  | mapping {members : List (Node × Node)} (hkeys : ∀ m ∈ members, isKey m.1 ∧ atom m.1)
      (h : ∀ m ∈ members, WellFormed atom m.2) : WellFormed atom (.mapping members true)

abbrev IsValue : Node → Prop := WellFormed fun _ => True

variable {atom : Node → Prop} {node : Node} {frames : List Frame} {expect : Expect} {rest : List Token}

theorem words_of_isAtom (h : isAtom node) : words node = [.atom node] := by
  cases node <;> first | rfl | cases h

theorem wellFormed_atom_iff (h : isAtom node) : WellFormed atom node ↔ atom node := by
  constructor
  · intro hnode
    cases hnode with
    | atom _ hatom => exact hatom
    | sequence => cases h
    | mapping => cases h
  · exact .atom h

theorem wellFormed_text_iff {s : String} : WellFormed atom (.text s) ↔ atom (.text s) := wellFormed_atom_iff rfl

theorem wellFormed_integer_iff {n : Int} : WellFormed atom (.integer n) ↔ atom (.integer n) := wellFormed_atom_iff rfl

theorem wellFormed_null_iff : WellFormed atom .null ↔ atom .null := wellFormed_atom_iff rfl

theorem wellFormed_sequence_iff {items : List Node} :
    WellFormed atom (.sequence items true) ↔ ∀ item ∈ items, WellFormed atom item := by
  constructor
  · intro h
    cases h with
    | atom hatom => cases hatom
    | sequence h => exact h
  · exact .sequence

theorem wellFormed_mapping_iff {members : List (Node × Node)} :
    WellFormed atom (.mapping members true) ↔ ∀ m ∈ members, (isKey m.1 ∧ atom m.1) ∧ WellFormed atom m.2 := by
  constructor
  · intro h
    cases h with
    | atom hatom => cases hatom
    | mapping hkeys h => exact fun m hm => ⟨hkeys m hm, h m hm⟩
  · exact fun h => .mapping (fun m hm => (h m hm).1) fun m hm => (h m hm).2

theorem isValue_mapping_iff {members : List (Node × Node)} :
    IsValue (.mapping members true) ↔ ∀ m ∈ members, isKey m.1 ∧ IsValue m.2 := by
  simp [IsValue, wellFormed_mapping_iff]

theorem areWhole_iff {items : List Node} : Node.areWhole items ↔ ∀ item ∈ items, item.isWhole := by
  induction items with
  | nil => simp [Node.areWhole]
  | cons item items ih => simp [Node.areWhole, ih]

theorem membersWhole_iff {members : List (Node × Node)} :
    Node.membersWhole members ↔ ∀ m ∈ members, m.1.isWhole ∧ m.2.isWhole := by
  induction members with
  | nil => simp [Node.membersWhole]
  | cons member members ih => simp [Node.membersWhole, ih]

theorem WellFormed.isWhole (h : WellFormed atom node) : node.isWhole := by
  induction h with
  | @atom node hatom _ => cases node <;> first | rfl | cases hatom
  | sequence _ ih => simpa [Node.isWhole, areWhole_iff] using ih
  | mapping hkeys _ ih =>
    rw [Node.isWhole, Bool.true_and, membersWhole_iff]
    intro m hm
    have hkey := (hkeys m hm).1
    refine ⟨?_, ih m hm⟩
    cases h : m.1 <;> rw [h] at hkey <;> first | rfl | cases hkey

/-- A node that is complete is the document, or goes into the container round it. -/
def deliver (node : Node) (frames : List Frame) (rest : List Token) : Document :=
  match frames with
  | [] => ⟨node, rest.isEmpty⟩
  | frame :: outer => read (frame.put node :: outer) .next rest

def Expect.isValue : Expect → Bool
  | value | first => true
  | _ => false

/-! ## One word -/

theorem read_atom (h : expect.isValue) : read frames expect (.atom node :: rest) = deliver node frames rest := by
  cases expect <;> first | cases frames <;> rfl | cases h

theorem read_openArray (h : expect.isValue) :
    read frames expect (.openArray :: rest) = read (.array [] :: frames) .first rest := by
  cases expect <;> first | rfl | cases h

theorem read_openObject (h : expect.isValue) :
    read frames expect (.openObject :: rest) = read (.object [] :: frames) .firstKey rest := by
  cases expect <;> first | rfl | cases h

theorem read_closeArray (items : List Node) :
    read (.array items :: frames) .next (.closeArray :: rest) = deliver (.sequence items.reverse true) frames rest := by
  cases frames <;> rfl

theorem read_closeObject (members : List (Node × Node)) :
    read (.object members :: frames) .next (.closeObject :: rest) =
      deliver (.mapping members.reverse true) frames rest := by
  cases frames <;> rfl

def Expect.isKey : Expect → Bool
  | key | firstKey => true
  | _ => false

theorem read_key {key : Node} (hkey : isKey key) (h : expect.isKey) (members : List (Node × Node)) :
    read (.object members :: frames) expect (.atom key :: .colon :: rest) =
      read (.member members key :: frames) .value rest := by
  cases expect with
  | key | firstKey => cases key <;> first | rfl | nomatch hkey
  | _ => cases h

/-! ## All words of a document -/

/-- The words of a node are read as this node, wherever a value may stand. -/
def ReadBack (node : Node) : Prop :=
  ∀ (frames : List Frame) (expect : Expect) (rest : List Token), expect.isValue →
    read frames expect (words node ++ rest) = deliver node frames rest

theorem read_moreItems {items : List Node} (h : ∀ item ∈ items, ReadBack item) (before : List Node) :
    read (.array before :: frames) .next (moreItems items ++ rest) =
      deliver (.sequence (before.reverse ++ items) true) frames rest := by
  induction items generalizing before with
  | nil => simp [moreItems, read_closeArray]
  | cons item items ih =>
    obtain ⟨hitem, hrest⟩ := List.forall_mem_cons.mp h
    have hcomma : ∀ rest, read (.array before :: frames) .next (.comma :: rest) =
        read (.array before :: frames) .value rest := fun _ => rfl
    rw [moreItems, List.cons_append, hcomma, List.append_assoc, hitem _ _ _ rfl]
    refine (ih hrest (item :: before)).trans ?_
    simp

theorem read_moreMembers {members : List (Node × Node)}
    (h : ∀ m ∈ members, isKey m.1 ∧ ReadBack m.2) (before : List (Node × Node)) :
    read (.object before :: frames) .next (moreMembers members ++ rest) =
      deliver (.mapping (before.reverse ++ members) true) frames rest := by
  induction members generalizing before with
  | nil => simp [moreMembers, read_closeObject]
  | cons member members ih =>
    obtain ⟨key, value⟩ := member
    obtain ⟨⟨hkey, hvalue⟩, hrest⟩ := List.forall_mem_cons.mp h
    have hcomma : ∀ rest, read (.object before :: frames) .next (.comma :: rest) =
        read (.object before :: frames) .key rest := fun _ => rfl
    rw [moreMembers, List.cons_append, hcomma, List.cons_append, List.cons_append, read_key hkey rfl,
      List.append_assoc, hvalue _ _ _ rfl]
    refine (ih hrest ((key, value) :: before)).trans ?_
    simp

theorem readBack (h : WellFormed atom node) : ReadBack node := by
  induction h with
  | atom hatom _ =>
    intro frames expect rest hexpect
    rw [words_of_isAtom hatom]
    exact read_atom hexpect
  | @sequence items _ ih =>
    intro frames expect rest hexpect
    cases items with
    | nil =>
      rw [words, List.cons_append, read_openArray hexpect]
      cases frames <;> rfl
    | cons item items =>
      obtain ⟨hitem, hrest⟩ := List.forall_mem_cons.mp ih
      rw [words, List.cons_append, read_openArray hexpect, List.append_assoc, hitem _ _ _ rfl]
      exact read_moreItems hrest [item]
  | @mapping members hkeys _ ih =>
    intro frames expect rest hexpect
    cases members with
    | nil =>
      rw [words, List.cons_append, read_openObject hexpect]
      cases frames <;> rfl
    | cons member members =>
      obtain ⟨key, value⟩ := member
      obtain ⟨⟨hkey, -⟩, hkeys⟩ := List.forall_mem_cons.mp hkeys
      obtain ⟨hvalue, hrest⟩ := List.forall_mem_cons.mp ih
      rw [words, List.cons_append, read_openObject hexpect, List.cons_append, List.cons_append,
        read_key hkey rfl, List.append_assoc, hvalue _ _ _ rfl]
      exact read_moreMembers (fun m hm => ⟨(hkeys m hm).1, hrest m hm⟩) [(key, value)]

/-- A text with the words of a document is this document and holds nothing else. -/
theorem ofText_of_words {text : String} (h : WellFormed atom node) (hwords : Token.scan text.toList = words node) :
    Document.ofText text = ⟨node, true⟩ := by
  have hread := readBack h [] .value [] rfl
  rw [List.append_nil] at hread
  rw [Document.ofText, hwords, hread]
  rfl

/-! ## The words of a document -/

/-- The values among the words have no parts. -/
def Token.isSound : Token → Bool
  | .atom node => isAtom node
  | _ => true

theorem read_first {token : Token} (h : token ≠ .closeArray) :
    read frames .first (token :: rest) = read frames .value (token :: rest) := by
  cases token <;> first | rfl | exact absurd rfl h

theorem exists_key {tokens : List Token} {before : List (Node × Node)} (hexpect : expect.isKey)
    (hopen : expect = .key ∨ tokens.head? ≠ some .closeObject)
    (h : (read (.object before :: frames) expect tokens).alone) :
    ∃ key rest, isKey key ∧ tokens = .atom key :: .colon :: rest ∧
      (read (.member before key :: frames) .value rest).alone := by
  have hcolon : ∀ (key : Node) (tokens : List Token), (read (.member before key :: frames) .colon tokens).alone →
      ∃ rest, tokens = .colon :: rest ∧ (read (.member before key :: frames) .value rest).alone := by
    intro key tokens h
    cases tokens with
    | nil => cases h
    | cons token rest => cases token <;> first | exact ⟨rest, rfl, h⟩ | cases h
  cases tokens with
  | nil => cases expect <;> cases h
  | cons token rest =>
    cases token with
    | atom node =>
      have hkey : isKey node ∧ (read (.member before node :: frames) .colon rest).alone := by
        cases expect with
        | key | firstKey => cases node <;> first | exact ⟨rfl, h⟩ | cases h
        | _ => cases hexpect
      obtain ⟨after, rfl, hvalue⟩ := hcolon node rest hkey.2
      exact ⟨node, after, hkey.1, rfl, hvalue⟩
    | closeObject =>
      rcases hopen with rfl | hne
      · cases h
      · exact absurd rfl hne
    | _ => cases expect <;> first | cases h | cases hexpect

/-- Words that are read as a value, or as what is left of a container, begin with the words of one. -/
structure Spells (tokens : List Token) : Prop where
  value : ∀ frames, (read frames .value tokens).alone → ∃ node rest, IsValue node ∧ tokens = words node ++ rest
  items : ∀ before frames, (read (.array before :: frames) .next tokens).alone →
    ∃ items rest, (∀ item ∈ items, IsValue item) ∧ tokens = moreItems items ++ rest
  members : ∀ before frames, (read (.object before :: frames) .next tokens).alone →
    ∃ members rest, (∀ m ∈ members, isKey m.1 ∧ IsValue m.2) ∧ tokens = moreMembers members ++ rest

section

variable {tokens : List Token}

theorem Spells.exists_value (hspells : Spells tokens) (h : (read frames .value tokens).alone) :
    ∃ node rest, IsValue node ∧ tokens = words node ++ rest ∧ (deliver node frames rest).alone := by
  obtain ⟨node, rest, hnode, rfl⟩ := hspells.value frames h
  rw [readBack hnode _ _ _ rfl] at h
  exact ⟨node, rest, hnode, rfl, h⟩

theorem Spells.exists_items (hspells : ∀ rest, rest <:+ tokens → Spells rest) {before : List Node}
    (h : (read (.array before :: frames) .value tokens).alone) :
    ∃ item items rest, (∀ i ∈ item :: items, IsValue i) ∧ tokens = words item ++ (moreItems items ++ rest) := by
  obtain ⟨item, rest, hitem, rfl, hnext⟩ := (hspells tokens List.suffix_rfl).exists_value h
  obtain ⟨items, rest, hitems, rfl⟩ := (hspells rest (List.suffix_append _ _)).items _ _ hnext
  exact ⟨item, items, rest, List.forall_mem_cons.mpr ⟨hitem, hitems⟩, rfl⟩

theorem Spells.exists_members (hspells : ∀ rest, rest <:+ tokens → Spells rest)
    {before : List (Node × Node)} (hexpect : expect.isKey)
    (hopen : expect = .key ∨ tokens.head? ≠ some .closeObject)
    (h : (read (.object before :: frames) expect tokens).alone) :
    ∃ key value members rest, (∀ m ∈ (key, value) :: members, isKey m.1 ∧ IsValue m.2) ∧
      tokens = .atom key :: .colon :: (words value ++ (moreMembers members ++ rest)) := by
  obtain ⟨key, after, hkey, rfl, hvalue⟩ := exists_key hexpect hopen h
  obtain ⟨value, rest, hnode, rfl, hnext⟩ := (hspells after ⟨[_, _], rfl⟩).exists_value hvalue
  obtain ⟨members, rest, hmembers, rfl⟩ := (hspells rest ⟨.atom key :: .colon :: words value, by simp⟩).members _ _ hnext
  exact ⟨key, value, members, rest, List.forall_mem_cons.mpr ⟨⟨hkey, hnode⟩, hmembers⟩, rfl⟩

theorem Spells.cons {token : Token} (hsound : token.isSound)
    (hspells : ∀ rest, rest <:+ tokens → Spells rest) : Spells (token :: tokens) where
  value := by
    intro frames h
    cases token with
    | atom node => exact ⟨node, tokens, .atom hsound trivial, by rw [words_of_isAtom hsound]; rfl⟩
    | openArray =>
      rw [read_openArray rfl] at h
      cases tokens with
      | nil => cases h
      | cons second tokens =>
        by_cases hclose : second = .closeArray
        · exact ⟨.sequence [] true, tokens, .sequence (List.forall_mem_nil _), by rw [hclose]; rfl⟩
        · rw [read_first hclose] at h
          obtain ⟨item, items, rest, hitems, htokens⟩ := exists_items hspells h
          exact ⟨.sequence (item :: items) true, rest, wellFormed_sequence_iff.mpr hitems,
            by rw [htokens, words, List.cons_append, List.append_assoc]⟩
    | openObject =>
      rw [read_openObject rfl] at h
      by_cases hclose : tokens.head? = some .closeObject
      · obtain ⟨tokens, rfl⟩ := List.head?_eq_some_iff.mp hclose
        exact ⟨.mapping [] true, tokens, isValue_mapping_iff.mpr (List.forall_mem_nil _), rfl⟩
      · obtain ⟨key, value, members, rest, hmembers, htokens⟩ := exists_members hspells rfl (Or.inr hclose) h
        exact ⟨.mapping ((key, value) :: members) true, rest, isValue_mapping_iff.mpr hmembers,
          by rw [htokens, words]; simp⟩
    | _ => cases h
  items := by
    intro before frames h
    cases token with
    | closeArray => exact ⟨[], tokens, List.forall_mem_nil _, rfl⟩
    | comma =>
      obtain ⟨item, items, rest, hitems, htokens⟩ := exists_items hspells h
      exact ⟨item :: items, rest, hitems, by rw [htokens, moreItems, List.cons_append, List.append_assoc]⟩
    | _ => cases h
  members := by
    intro before frames h
    cases token with
    | closeObject => exact ⟨[], tokens, List.forall_mem_nil _, rfl⟩
    | comma =>
      obtain ⟨key, value, members, rest, hmembers, htokens⟩ := exists_members hspells rfl (Or.inl rfl) h
      exact ⟨(key, value) :: members, rest, hmembers, by rw [htokens, moreMembers]; simp⟩
    | _ => cases h

end

theorem spells {tokens : List Token} (hsound : ∀ token ∈ tokens, token.isSound) {rest : List Token}
    (hrest : rest <:+ tokens) : Spells rest := by
  induction tokens generalizing rest with
  | nil =>
    obtain rfl := List.suffix_nil.mp hrest
    exact ⟨nofun, nofun, nofun⟩
  | cons token tokens ih =>
    obtain ⟨htoken, htokens⟩ := List.forall_mem_cons.mp hsound
    rcases List.suffix_cons_iff.mp hrest with rfl | hshorter
    · exact .cons htoken fun _ => ih htokens
    · exact ih htokens hshorter

/-- A text that is one document and nothing else has the words of it. -/
theorem words_of_alone {tokens : List Token} (hsound : ∀ token ∈ tokens, token.isSound)
    (h : (read [] .value tokens).alone) :
    IsValue (read [] .value tokens).root ∧ tokens = words (read [] .value tokens).root := by
  obtain ⟨node, rest, hnode, rfl, hrest⟩ := (spells hsound List.suffix_rfl).exists_value h
  obtain rfl : rest = [] := List.isEmpty_iff.mp hrest
  rw [readBack hnode _ _ _ rfl]
  exact ⟨hnode, List.append_nil _⟩

end ReverseProxy.Json
