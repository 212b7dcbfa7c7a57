import ReverseProxy.Proofs.Toml.Scalar
import ReverseProxy.Proofs.Toml.Table

/-! # Keys, arrays and inline tables that were written -/

namespace ReverseProxy.Toml

variable {rest : List Char}

/-! ## Dark characters -/

/-- A character that is no blank and begins no comment or line end. -/
def isDark (c : Char) : Bool := !isWs c && c ≠ '#' && c ≠ '\n' && c ≠ '\r'

theorem not_isWs_of_isDark {c : Char} (h : isDark c) : isWs c = false := by
  simp only [isDark, Bool.and_eq_true, Bool.not_eq_true'] at h
  exact h.1.1.1

theorem skipWs_of_isDark {c : Char} (h : isDark c) (s : List Char) : skipWs (c :: s) = c :: s := by
  simp [skipWs, not_isWs_of_isDark h]

theorem isDark_of_isBare {c : Char} (h : isBare c) : isDark c := by
  simp only [isDark, isWs, Bool.and_eq_true, Bool.not_eq_true', Bool.or_eq_false_iff, decide_eq_true_eq,
    decide_eq_false_iff_not]
  refine ⟨⟨⟨⟨?_, ?_⟩, ?_⟩, ?_⟩, ?_⟩ <;> rintro rfl <;> revert h <;> decide

/-! ## Keys -/

def Bare (key : String) : Prop := key.toList ≠ [] ∧ key.toList.all isBare

instance (key : String) : Decidable (Bare key) := inferInstanceAs (Decidable (_ ∧ _))

/-- A mark that stands behind a key. -/
def EndsKey (rest : List Char) : Prop := ∃ c r, rest = c :: r ∧ isBare c = false

theorem Bare.exists_cons {key : String} (h : Bare key) (rest : List Char) :
    ∃ c s, key.toList ++ rest = c :: s ∧ isBare c := by
  obtain ⟨c, s, hs⟩ := List.exists_cons_of_ne_nil h.1
  exact ⟨c, s ++ rest, by rw [hs, List.cons_append], List.all_eq_true.mp h.2 c (by simp [hs])⟩

theorem Bare.skipWs {key : String} (h : Bare key) (rest : List Char) :
    skipWs (key.toList ++ rest) = key.toList ++ rest := by
  obtain ⟨c, s, hs, hc⟩ := h.exists_cons rest
  rw [hs]
  exact skipWs_of_isDark (isDark_of_isBare hc) s

theorem simpleKey?_bare {key : String} (h : Bare key) (hrest : EndsKey rest) :
    simpleKey? (key.toList ++ rest) = some (key, rest) := by
  have hall : ∀ c ∈ key.toList, isBare c := List.all_eq_true.mp h.2
  obtain ⟨m, r, rfl, hm⟩ := hrest
  have htake : (key.toList ++ m :: r).takeWhile isBare = key.toList := by
    rw [List.takeWhile_append_of_pos hall]
    simp [hm]
  have hdrop : (key.toList ++ m :: r).dropWhile isBare = m :: r := by
    rw [List.dropWhile_append_of_pos hall]
    simp [hm]
  obtain ⟨c, s, hs, hc⟩ := h.exists_cons (m :: r)
  have hquotes : ∀ other, isBare other = false → ∀ s, key.toList ++ m :: r ≠ other :: s := by
    rintro other hother t heq
    rw [hs] at heq
    cases heq
    rw [hc] at hother
    cases hother
  rw [simpleKey?]
  · simp only [htake, hdrop, String.ofList_toList]
    simp [h.1]
  · exact hquotes '"' (by decide)
  · exact hquotes '\'' (by decide)

section

variable {α : Type} {item : Reader α} {mark : Char} {s : List Char} {a : α}

theorem separated?_last {c : Char} (h : item s = some (a, c :: rest)) (hc : c ≠ mark) :
    separated? item mark s = some ([a], c :: rest) := by
  rw [separated?, h]
  exact if_neg hc

theorem separated?_cons (h : item s = some (a, mark :: rest)) (hlength : rest.length < s.length) :
    separated? item mark s = (separated? item mark rest).map fun (as, r) => (a :: as, r) := by
  rw [separated?, h]
  simp [hlength]

end

theorem key?_bare {key : String} {s t after : List Char} {c : Char} (h : Bare key) (hs : skipWs s = key.toList ++ t)
    (ht : EndsKey t) (hafter : skipWs t = c :: after) (hc : c ≠ '.') : key? s = some (([], key), c :: after) := by
  have hlast := fun (item? : List Char → Option (String × List Char)) (hitem : item? s = some (key, c :: after)) =>
    separated?_last hitem hc
  rw [key?, hlast]
  · simp [maxDepth]
  · simp only [hs, simpleKey?_bare h ht, Option.map_some, hafter]

/-! ## Line ends -/

theorem newline?_of_isDark {c : Char} (h : isDark c) (s : List Char) : newline? (c :: s) = none := by
  unfold newline?
  split
  next heq => cases heq; cases h
  next heq => cases heq; cases h
  next => rfl

theorem skipLines?_of_skipWs {c : Char} {s : List Char} (h : skipWs s = c :: rest) (hc : isDark c) :
    skipLines? s = some (c :: rest) := by
  rw [skipLines?]
  split
  next heq =>
    rw [h] at heq
    cases heq
    cases hc
  next heq =>
    rw [h] at heq
    cases heq
    split
    next hline =>
      rw [newline?_of_isDark hc] at hline
      cases hline
    next =>
      refine if_neg ?_
      rintro rfl
      cases hc
  next heq =>
    rw [h] at heq
    cases heq

/-! ## Values -/

/-- What can be written on one line, with so many containers inside one another at most. -/
inductive Plain : Nat → Node → Prop where
  | text {depth : Nat} (s : String) : Plain depth (.text s)
  | integer {depth n : Nat} (h : n < 0x8000000000000000) : Plain depth (.integer n)
  | sequence {depth : Nat} {items : List Node} (h : ∀ item ∈ items, Plain depth item) :
    Plain (depth + 1) (Node.list items)
  | mapping {depth : Nat} {pairs : List (String × Node)} (hkeys : ∀ p ∈ pairs, Bare p.1)
      (hnodup : (pairs.map (·.1)).Nodup) (h : ∀ p ∈ pairs, Plain depth p.2) :
    Plain (depth + 1) (Node.record pairs)

variable {depth : Nat} {node : Node}

theorem value?_scalar {c : Char} (harray : c ≠ '[') (htable : c ≠ '\x7b') (s : List Char) :
    value? depth (c :: s) = scalar? (c :: s) := by
  cases depth with
  | zero => rw [value?] <;> simp [harray, htable]
  | succ depth => rw [value?] <;> simp [harray, htable]

theorem Plain.exists_cons (h : Plain depth node) : ∃ c s, writeValue node = c :: s ∧ isDark c ∧ c ≠ ']' := by
  cases h with
  | text s => exact ⟨'"', _, rfl, rfl, by decide⟩
  | @integer _ n =>
    obtain ⟨c, s, hs, hc⟩ := exists_digit_cons n []
    rw [List.append_nil] at hs
    refine ⟨c, s, ?_, ?_, ?_⟩
    · simp [writeValue, Json.decimal, hs]
    · exact isDark_of_isBare (by simp [isBare, Char.isAlphanum, hc])
    · rintro rfl
      cases hc
  | @sequence _ items _ => cases items <;> exact ⟨'[', _, rfl, rfl, by decide⟩
  | @mapping _ pairs _ _ _ => cases pairs <;> exact ⟨'\x7b', _, rfl, rfl, by decide⟩

theorem Plain.skipWs (h : Plain depth node) (rest : List Char) :
    skipWs (writeValue node ++ rest) = writeValue node ++ rest := by
  obtain ⟨c, s, hs, hc, -⟩ := h.exists_cons
  rw [hs, List.cons_append]
  exact skipWs_of_isDark hc _

/-- The text of a value is read as the value. -/
def ReadBack (depth : Nat) (node : Node) : Prop :=
  ∀ rest, Stops rest → value? depth (writeValue node ++ rest) = some (node, rest)

theorem readBack_integer {n : Nat} (h : n < 0x8000000000000000) : ReadBack depth (.integer n) := by
  intro rest hrest
  obtain ⟨c, s, hs, hc⟩ := exists_digit_cons n rest
  have htext : writeValue (.integer n) ++ rest = Nat.toDigits 10 n ++ rest := by simp [writeValue, Json.decimal]
  rw [htext, ← scalar?_digits hrest h, hs]
  refine value?_scalar ?_ ?_ s <;> rintro rfl <;> cases hc

theorem readBack_text (s : String) : ReadBack depth (.text s) := by
  intro rest hrest
  refine Eq.trans ?_ (scalar?_quoted hrest s)
  exact value?_scalar (by decide) (by decide) _

/-! ## Arrays -/

theorem items?_last {value : Reader Node} {s t after : List Char} {c : Char} (hs : skipLines? s = some (c :: t))
    (hc : c ≠ ']') (hvalue : value (c :: t) = some (node, after)) (hafter : skipLines? after = some (']' :: rest)) :
    items? value s = some ([node], rest) := by
  rw [items?, hs]
  simp only [if_neg hc, hvalue, hafter]

theorem items?_cons {value : Reader Node} {s t after : List Char} {c : Char} (hs : skipLines? s = some (c :: t))
    (hc : c ≠ ']') (hvalue : value (c :: t) = some (node, after)) (hafter : skipLines? after = some (',' :: rest))
    (hlength : rest.length < s.length) :
    items? value s = (items? value rest).map fun (nodes, r) => (node :: nodes, r) := by
  rw [items?, hs]
  simp only [if_neg hc, hvalue, hafter, dif_pos hlength]

theorem stops_moreItems (items : List Node) (rest : List Char) : Stops (moreItems items ++ rest) := by
  cases items <;> simp [moreItems, Stops]

theorem items?_written {item : Node} {items : List Node} (hitem : Plain depth item ∧ ReadBack depth item)
    (hitems : ∀ item ∈ items, Plain depth item ∧ ReadBack depth item) (s : List Char)
    (hs : skipWs s = writeValue item ++ (moreItems items ++ rest)) :
    items? (value? depth) s = some (item :: items, rest) := by
  induction items generalizing item s with
  | nil =>
    obtain ⟨c, t, ht, hdark, hc⟩ := hitem.1.exists_cons
    have hread := hitem.2 _ (stops_moreItems [] rest)
    rw [ht, List.cons_append] at hs hread
    refine items?_last (skipLines?_of_skipWs hs hdark) hc hread ?_
    exact skipLines?_of_skipWs rfl rfl
  | cons next items ih =>
    obtain ⟨hnext, hitems⟩ := List.forall_mem_cons.mp hitems
    obtain ⟨c, t, ht, hdark, hc⟩ := hitem.1.exists_cons
    have hread := hitem.2 _ (stops_moreItems (next :: items) rest)
    have hlength := skipWs_length s
    rw [ht, List.cons_append] at hs hread
    have hmore : moreItems (next :: items) ++ rest =
        ',' :: ' ' :: (writeValue next ++ (moreItems items ++ rest)) := by simp [moreItems]
    rw [hmore] at hs hread
    rw [items?_cons (skipLines?_of_skipWs hs hdark) hc hread (skipLines?_of_skipWs rfl rfl),
      ih hnext hitems (' ' :: _) (hnext.1.skipWs _)]
    · rfl
    · rw [hs] at hlength
      simp only [List.length_cons, List.length_append] at *
      omega

theorem readBack_sequence {items : List Node} (h : ∀ item ∈ items, Plain depth item ∧ ReadBack depth item) :
    ReadBack (depth + 1) (Node.list items) := by
  intro rest _
  cases items with
  | nil =>
    have hempty : items? (value? depth) (']' :: rest) = some ([], rest) := by
      rw [items?, skipLines?_of_skipWs (c := ']') rfl rfl]
      rfl
    rw [Node.list, writeValue, List.cons_append, value?, List.singleton_append, hempty]
    rfl
  | cons item items =>
    obtain ⟨hitem, hitems⟩ := List.forall_mem_cons.mp h
    have hread := items?_written hitem hitems (writeValue item ++ (moreItems items ++ rest)) (hitem.1.skipWs _)
    rw [Node.list, writeValue, List.cons_append, value?, List.append_assoc, hread]
    rfl

/-! ## Inline tables -/

def members (pairs : List (String × Node)) : List (Node × Node) := pairs.map fun p => (.text p.1, p.2)

theorem stops_morePairs (pairs : List (Node × Node)) (rest : List Char) : Stops (morePairs pairs ++ rest) := by
  cases pairs <;> simp [morePairs, Stops]

theorem inlinePair?_written {key : String} {after : List Char} {c : Char} (hkey : Bare key)
    (hplain : Plain depth node) (hnode : ReadBack depth node) (hrest : Stops rest)
    (hafter : skipWs rest = c :: after) (s : List Char)
    (hs : skipWs s = key.toList ++ ' ' :: '=' :: ' ' :: (writeValue node ++ rest)) :
    inlinePair? (value? depth) s = some ((([], key), node), c :: after) := by
  have hends : EndsKey (' ' :: '=' :: ' ' :: (writeValue node ++ rest)) := ⟨' ', _, rfl, by decide⟩
  have hname := key?_bare hkey hs hends rfl (by decide)
  have hvalue : value? depth (skipWs (' ' :: (writeValue node ++ rest))) = some (node, rest) := by
    refine Eq.trans ?_ (hnode rest hrest)
    exact congrArg _ (hplain.skipWs rest)
  simp [inlinePair?, hname, expect?, hvalue, hafter]

theorem inlinePairs?_written {key : String} {pairs : List (String × Node)} (hkey : Bare key)
    (hnode : Plain depth node ∧ ReadBack depth node)
    (hpairs : ∀ p ∈ pairs, Bare p.1 ∧ Plain depth p.2 ∧ ReadBack depth p.2) (s : List Char)
    (hs : skipWs s = key.toList ++ ' ' :: '=' :: ' ' :: (writeValue node ++ (morePairs (members pairs) ++ rest))) :
    separated? (inlinePair? (value? depth)) ',' s =
      some ((([], key), node) :: pairs.map fun p => (([], p.1), p.2), '\x7d' :: rest) := by
  induction pairs generalizing key node s with
  | nil =>
    have hpair := inlinePair?_written hkey hnode.1 hnode.2 (stops_morePairs (members []) rest) rfl s hs
    exact separated?_last hpair (by decide)
  | cons p pairs ih =>
    obtain ⟨⟨hp, hvalue⟩, hpairs⟩ := List.forall_mem_cons.mp hpairs
    have hlength := skipWs_length s
    have hmore : morePairs (members (p :: pairs)) ++ rest = ',' :: ' ' :: (p.1.toList ++ ' ' :: '=' :: ' ' ::
        (writeValue p.2 ++ (morePairs (members pairs) ++ rest))) := by
      simp [members, morePairs, writeKey]
    have hpair := inlinePair?_written hkey hnode.1 hnode.2 (stops_morePairs (members (p :: pairs)) rest)
      (congrArg skipWs hmore) s hs
    rw [hmore] at hs
    rw [separated?_cons hpair, ih hp hvalue hpairs (' ' :: _) (hp.skipWs _)]
    · rfl
    · rw [hs] at hlength
      simp only [List.length_cons, List.length_append] at *
      omega

theorem readBack_mapping {pairs : List (String × Node)} (hnodup : (pairs.map (·.1)).Nodup)
    (h : ∀ p ∈ pairs, Bare p.1 ∧ Plain depth p.2 ∧ ReadBack depth p.2) :
    ReadBack (depth + 1) (Node.record pairs) := by
  intro rest _
  cases pairs with
  | nil =>
    rw [Node.record, List.map_nil, writeValue, List.cons_append, value?]
    rfl
  | cons p pairs =>
    obtain ⟨⟨hp, hvalue⟩, hpairs⟩ := List.forall_mem_cons.mp h
    have htext : writeValue (Node.record (p :: pairs)) ++ rest = '\x7b' :: ' ' :: (p.1.toList ++ ' ' :: '=' :: ' ' ::
        (writeValue p.2 ++ (morePairs (members pairs) ++ rest))) := by
      simp [Node.record, members, writeValue, writeKey]
    have hread : separated? (inlinePair? (value? depth)) ',' (' ' :: (p.1.toList ++ ' ' :: '=' :: ' ' ::
          (writeValue p.2 ++ (morePairs (members pairs) ++ rest)))) =
        some ((p :: pairs).map fun p => (([], p.1), p.2), '\x7d' :: rest) :=
      inlinePairs?_written hp hvalue hpairs _ (hp.skipWs _)
    have hfill := foldlM_ofPairs hnodup
    obtain ⟨c, s, hs, hc⟩ :=
      hp.exists_cons (' ' :: '=' :: ' ' :: (writeValue p.2 ++ (morePairs (members pairs) ++ rest)))
    have hskip := hp.skipWs (' ' :: '=' :: ' ' :: (writeValue p.2 ++ (morePairs (members pairs) ++ rest)))
    rw [htext, value?, inlineTable?]
    split
    next hbrace =>
      have hbrace : p.1.toList ++ _ = '\x7d' :: _ := hskip.symm.trans hbrace
      rw [hs] at hbrace
      cases hbrace
      cases hc
    next =>
      rw [hread]
      simp only [Option.bind_eq_bind, Option.bind_some, expect?, if_true, List.foldlM_map, hfill, toNode_ofPairs]
      rfl

/-- What is written on a line is read as it was. -/
theorem Plain.readBack (h : Plain depth node) : ReadBack depth node := by
  induction h with
  | text s => exact readBack_text s
  | integer h => exact readBack_integer h
  | sequence h ih => exact readBack_sequence fun item hitem => ⟨h item hitem, ih item hitem⟩
  | mapping hkeys hnodup h ih => exact readBack_mapping hnodup fun p hp => ⟨hkeys p hp, h p hp, ih p hp⟩

end ReverseProxy.Toml
