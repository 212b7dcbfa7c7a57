import Mathlib.Data.List.Basic
import ReverseProxy.Proofs.Text.Ascii
import ReverseProxy.Text.Blank

/-! # What stands between marks, and between blanks -/

namespace ReverseProxy

/-! ## Marks -/

namespace Parts

theorem split_eq_splitOn (mark : Char) (text : List Char) : split mark text = text.splitOn mark := by
  induction text with
  | nil => rfl
  | cons c rest ih =>
    rw [List.splitOn_cons_eq_if_modifyHead, ← ih]
    by_cases hc : c = mark
    · subst hc
      simp [split_mark]
    · obtain ⟨first, others, heq, hsplit⟩ := exists_split_cons hc rest
      rw [hsplit, heq, if_neg (by simpa using hc), List.modifyHead_cons]

theorem notMem_of_mem_splitOn {α : Type} [BEq α] [LawfulBEq α] {mark : α} {text part : List α}
    (h : part ∈ text.splitOn mark) : mark ∉ part := by
  induction text generalizing part with
  | nil => simp_all
  | cons c rest ih =>
    obtain ⟨first, others, heq⟩ := List.exists_cons_of_ne_nil (List.splitOn_ne_nil mark rest)
    rw [heq] at ih
    rw [List.splitOn_cons_eq_if_modifyHead, heq] at h
    split at h
    next =>
      rcases List.mem_cons.mp h with rfl | h
      · exact List.not_mem_nil
      · exact ih h
    next hc =>
      rw [List.modifyHead_cons] at h
      rcases List.mem_cons.mp h with rfl | h
      · have hne : mark ≠ c := fun h => hc (by simp [h])
        simp [hne, ih List.mem_cons_self]
      · exact ih (List.mem_cons_of_mem _ h)

/-- The parts of a text in other characters, among which the marks can still be told. -/
theorem splitOn_map {α β : Type} [BEq α] [LawfulBEq α] [BEq β] [LawfulBEq β] {f : α → β} {mark : α}
    (hf : ∀ a, f a = f mark → a = mark) (text : List α) :
    (text.map f).splitOn (f mark) = (text.splitOn mark).map (List.map f) := by
  induction text with
  | nil => rfl
  | cons a rest ih =>
    have hmark : (f a == f mark) = (a == mark) := by
      rw [Bool.eq_iff_iff, beq_iff_eq, beq_iff_eq]
      exact ⟨hf a, congrArg f⟩
    rw [List.map_cons, List.splitOn_cons_eq_if_modifyHead, List.splitOn_cons_eq_if_modifyHead, ih, hmark]
    obtain ⟨first, others, heq⟩ := List.exists_cons_of_ne_nil (List.splitOn_ne_nil mark rest)
    split <;> simp [heq]

theorem all_intercalate {α : Type} {p : α → Bool} {mark : α} (hmark : p mark = true) (parts : List (List α)) :
    ([mark].intercalate parts).all p = parts.all fun part => part.all p := by
  induction parts with
  | nil => rfl
  | cons part rest ih =>
    cases rest with
    | nil => simp
    | cons next rest => simp [List.intercalate_cons_cons, List.all_append, hmark, ih]

theorem splitOn_injective (mark : Char) : Function.Injective (List.splitOn mark) := by
  intro a b h
  calc
    a = [mark].intercalate (a.splitOn mark) := (List.intercalate_splitOn mark).symm
    _ = [mark].intercalate (b.splitOn mark) := by rw [h]
    _ = b := List.intercalate_splitOn mark

/-- A text and a mark begin another text if its parts go on behind those of the first. -/
theorem prefix_mark_iff {mark : Char} {short long : List Char} :
    short ++ [mark] <+: long ↔
      short.splitOn mark <+: long.splitOn mark ∧ short.splitOn mark ≠ long.splitOn mark := by
  constructor
  · rintro ⟨rest, rfl⟩
    rw [List.append_assoc, List.singleton_append, List.splitOn_append_cons_self]
    refine ⟨List.prefix_append _ _, fun h => ?_⟩
    exact List.splitOn_ne_nil mark rest (List.self_eq_append_right.mp h)
  · rintro ⟨⟨parts, hparts⟩, hne⟩
    have hmore : parts ≠ [] := by
      rintro rfl
      exact hne (by rw [← hparts, List.append_nil])
    -- What the further parts were split from stands behind the mark.
    have hrest : ([mark].intercalate parts).splitOn mark = parts := by
      refine List.splitOn_intercalate mark (fun part hpart => ?_) hmore
      exact notMem_of_mem_splitOn (hparts ▸ List.mem_append_right _ hpart)
    refine ⟨[mark].intercalate parts, splitOn_injective mark ?_⟩
    rw [List.append_assoc, List.singleton_append, List.splitOn_append_cons_self, hrest, hparts]

theorem split_eq_pair {mark : Char} {text first last : List Char} :
    split mark text = [first, last] ↔ text = first ++ mark :: last ∧ mark ∉ first ∧ mark ∉ last := by
  rw [split_eq_splitOn]
  constructor
  · intro h
    have hjoin := @List.intercalate_splitOn _ text _ _ mark
    have hparts : ∀ part ∈ text.splitOn mark, mark ∉ part := fun _ => notMem_of_mem_splitOn
    rw [h] at hjoin hparts
    refine ⟨?_, hparts first (by simp), hparts last (by simp)⟩
    rw [← hjoin]
    simp
  · rintro ⟨rfl, hfirst, hlast⟩
    rw [List.splitOn_append_cons_self_of_not_mem hfirst, List.splitOn_eq_singleton hlast]

end Parts

/-! ## Blanks -/

namespace Blank

theorem exists_trimList (text : List Char) :
    ∃ left right, text = left ++ trimList text ++ right ∧ ∀ c ∈ left ++ right, isBlank c = true := by
  have hends := List.takeWhile_append_dropWhile (p := isBlank) (l := (text.dropWhile isBlank).reverse)
  refine ⟨text.takeWhile isBlank, ((text.dropWhile isBlank).reverse.takeWhile isBlank).reverse, ?_, ?_⟩
  · rw [trimList, List.append_assoc, ← List.reverse_append, hends, List.reverse_reverse,
      List.takeWhile_append_dropWhile]
  · intro c hc
    rcases List.mem_append.mp hc with h | h
    · exact List.all_eq_true.mp List.all_takeWhile c h
    · exact List.all_eq_true.mp List.all_takeWhile c (List.mem_reverse.mp h)

theorem trimList_append {left core right : List Char} (hleft : ∀ c ∈ left, isBlank c = true) (hne : core ≠ [])
    (hcore : ∀ c ∈ core, isBlank c = false) (hright : ∀ c ∈ right, isBlank c = true) :
    trimList (left ++ core ++ right) = core := by
  have hkeep : ∀ rest : List Char, ∀ text ≠ [], (∀ c ∈ text, isBlank c = false) →
      (text ++ rest).dropWhile isBlank = text ++ rest := by
    intro rest text hne htext
    obtain ⟨c, text, rfl⟩ := List.exists_cons_of_ne_nil hne
    simp [htext c List.mem_cons_self]
  rw [trimList, List.append_assoc, List.dropWhile_append_of_pos hleft, hkeep right core hne hcore, List.reverse_append,
    List.dropWhile_append_of_pos fun c hc => hright c (List.mem_reverse.mp hc)]
  have hback := hkeep [] core.reverse (by simpa using hne) fun c hc => hcore c (List.mem_reverse.mp hc)
  rw [List.append_nil] at hback
  rw [hback, List.reverse_reverse]

end Blank

end ReverseProxy
