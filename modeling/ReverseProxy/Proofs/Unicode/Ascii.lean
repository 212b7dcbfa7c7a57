import ReverseProxy.Proofs.Except
import ReverseProxy.Proofs.Text.Ascii
import ReverseProxy.Unicode.Classes
import ReverseProxy.Unicode.Compose
import ReverseProxy.Unicode.Mapping

/-! # ASCII in the tables of Unicode

An ASCII text is composed, and each of its characters is mapped to its small form. In any text, a colon stays
what it is.
-/

namespace ReverseProxy.Unicode

/-! ## Single characters -/

theorem Runs.find?_of_lt {start n : Nat} {line : String} {rest : Runs} (h : n < start) :
    Runs.find? ((start, line) :: rest) n = none := by
  rw [Runs.find?, List.takeWhile_cons_of_neg (by simpa using h)]
  rfl

theorem mapChar_ascii : ∀ c : Char, c.toNat < 128 → mapChar c = some [c.toLower] :=
  Ascii.forall_char (by decide +kernel)

theorem direction_ascii : ∀ c : Char, c.toNat < 128 → direction c ≠ 'r' ∧ direction c ≠ 'a' :=
  Ascii.forall_char (by decide +kernel)

variable {n : Nat}

theorem isMark_ascii {c : Char} (h : c.toNat < 128) : isMark c = false := by
  have hnone : Runs.find? markRuns c.toNat = none := Runs.find?_of_lt (by omega)
  simp [isMark, classIn, hnone]

theorem combiningClass_ascii (h : n < 128) : combiningClass n = 0 := by
  have hnone : Runs.find? classRuns n = none := Runs.find?_of_lt (by omega)
  simp [combiningClass, hnone]

theorem takeApart_ascii (h : n < 128) : takeApart n = [n] := by
  have hsyllable : isSyllable n = false := by simp only [isSyllable, Bool.and_eq_false_imp, decide_eq_true_eq]; omega
  have hnone : Runs.find? pairRuns n = none := Runs.find?_of_lt (by omega)
  have hpair : pair? n = none := by rw [pair?, hnone]
  rw [takeApart, hsyllable, hpair]
  rfl

/-! ## Pairs

The first of two characters that are composed is never a colon, and the second is never in ASCII. The table is
checked line by line.
-/

def composesMarks (line : List Char) : Bool :=
  (Parts.split ' ' line).all fun word =>
    match Runs.numbers ((Runs.readRun word).2.drop 1) with
    | [a, b] => a ≠ 0x3A && 128 ≤ b
    | _ => true

theorem composesMarks_cons {start : Nat} {line : List Char} {rest : Runs} (hline : composesMarks line = true)
    (hrest : ∀ run ∈ rest, composesMarks run.2.toList = true) :
    ∀ run ∈ (start, String.ofList line) :: rest, composesMarks run.2.toList = true := by
  refine List.forall_mem_cons.mpr ⟨?_, hrest⟩
  rwa [String.toList_ofList]

theorem pairRuns_composesMarks : ∀ run ∈ pairRuns, composesMarks run.2.toList = true := by
  unfold pairRuns
  -- Line by line: a literal is unified with the list of its characters, so that no string has to be decoded.
  repeat refine composesMarks_cons (by decide +kernel) ?_
  exact List.forall_mem_nil _

theorem Runs.of_mem_allFrom {start : Nat} {words : List (List Char)} {run : Nat × List Char}
    (h : run ∈ Runs.allFrom start words) : ∃ word ∈ words, run.2 = (Runs.readRun word).2 := by
  induction words generalizing start with
  | nil => cases h
  | cons word rest ih =>
    rcases List.mem_cons.mp h with rfl | hrest
    · exact ⟨word, List.mem_cons_self, rfl⟩
    · obtain ⟨other, hmem, heq⟩ := ih hrest
      exact ⟨other, List.mem_cons_of_mem _ hmem, heq⟩

theorem of_mem_pairs {a b : Nat} (h : (n, a, b) ∈ pairs) : a ≠ 0x3A ∧ 128 ≤ b := by
  obtain ⟨⟨m, action⟩, hrun, hnumbers⟩ := List.mem_filterMap.mp h
  obtain ⟨line, hline, hword⟩ := List.mem_flatMap.mp hrun
  obtain ⟨word, hmem, heq⟩ := Runs.of_mem_allFrom hword
  have hends := List.all_eq_true.mp (pairRuns_composesMarks line hline) word hmem
  rw [← heq] at hends
  simp only at hnumbers hends
  split at hnumbers
  next hpair =>
    cases hnumbers
    rw [hpair] at hends
    simpa using hends
  next => cases hnumbers

theorem compose?_of_forall {a b : Nat} (hsyllable : composeSyllable? a b = none)
    (h : ∀ n c d, (n, c, d) ∈ pairs → ¬ (c = a ∧ d = b)) : compose? a b = none := by
  rw [compose?, hsyllable, Option.none_or, Option.map_eq_none_iff, List.find?_eq_none]
  rintro ⟨n, c, d⟩ hmem hfits
  exact h n c d hmem (by simpa using hfits)

theorem compose?_ascii {b : Nat} (h : b < 128) (a : Nat) : compose? a b = none := by
  refine compose?_of_forall (by rw [composeSyllable?, if_neg (by omega), if_neg (by omega)]) ?_
  rintro n c d hmem ⟨-, rfl⟩
  have := (of_mem_pairs hmem).2
  omega

theorem compose?_colon (b : Nat) : compose? 0x3A b = none := by
  refine compose?_of_forall (by simp [composeSyllable?, isSyllable]) ?_
  rintro n c d hmem ⟨hfirst, -⟩
  exact (of_mem_pairs hmem).1 hfirst

/-! ## Texts -/

theorem decompose_ascii {text : List Nat} (h : ∀ n ∈ text, n < 128) : decompose text = text := by
  have hapart : text.flatMap takeApart = text := by
    rw [List.flatMap_congr fun n hn => takeApart_ascii (h n hn), List.flatMap_singleton']
  have hplace : ∀ done, text.foldl (fun done n => place n done) done = text.reverse ++ done := by
    clear hapart
    induction text with
    | nil => exact fun done => rfl
    | cons n rest ih =>
      obtain ⟨hn, hrest⟩ := List.forall_mem_cons.mp h
      intro done
      have hfirst : place n done = n :: done := by
        cases done with
        | nil => rfl
        | cons last before => rw [place, if_neg fun hclass => hclass.1 (combiningClass_ascii hn)]
      rw [List.foldl_cons, hfirst, ih hrest, List.reverse_cons, List.append_assoc, List.singleton_append]
  rw [decompose, hapart, hplace, List.append_nil, List.reverse_reverse]

theorem composeFrom_ascii {text : List Nat} (h : ∀ n ∈ text, n < 128) (first : Nat) :
    composeFrom first [] text = first :: text := by
  induction text generalizing first with
  | nil => rfl
  | cons n rest ih =>
    obtain ⟨hn, hrest⟩ := List.forall_mem_cons.mp h
    simp [composeFrom, compose?_ascii hn, combiningClass_ascii hn, ih hrest]

theorem compose_ascii {text : List Nat} (h : ∀ n ∈ text, n < 128) : compose text = text := by
  cases text with
  | nil => rfl
  | cons n rest =>
    obtain ⟨hn, hrest⟩ := List.forall_mem_cons.mp h
    rw [compose, if_pos (combiningClass_ascii hn), composeFrom_ascii hrest]

theorem normalize_ascii {text : List Char} (h : ∀ c ∈ text, c.toNat < 128) : normalize text = text := by
  have hnumbers : ∀ n ∈ text.map (·.toNat), n < 128 := List.forall_mem_map.mpr h
  rw [normalize, decompose_ascii hnumbers, compose_ascii hnumbers, List.map_map]
  exact List.map_id'' (fun c => Char.ofNat_toNat c) text

/-! ## Colons -/

theorem mem_place {a : Nat} {done : List Nat} : a ∈ place n done ↔ a = n ∨ a ∈ done := by
  induction done with
  | nil => simp [place]
  | cons last before ih =>
    rw [place]
    split
    · rw [List.mem_cons, ih, List.mem_cons, or_left_comm]
    · rw [List.mem_cons]

theorem mem_decompose {text : List Nat} (h : n ∈ text) (hn : n < 128) : n ∈ decompose text := by
  have hplace : ∀ (parts done : List Nat), n ∈ parts ∨ n ∈ done →
      n ∈ parts.foldl (fun done n => place n done) done := by
    intro parts
    induction parts with
    | nil => exact fun done h => h.resolve_left (List.not_mem_nil)
    | cons m rest ih =>
      intro done h
      refine ih _ ?_
      rw [List.mem_cons, or_assoc, or_left_comm] at h
      exact h.imp_right mem_place.mpr
  rw [decompose, List.mem_reverse]
  exact hplace _ _ (.inl (List.mem_flatMap.mpr ⟨n, h, by rw [takeApart_ascii hn]; exact List.mem_singleton_self n⟩))

theorem composeFrom_cons (first : Nat) (held : List Nat) (n : Nat) (rest : List Nat) : ∃ free : Bool,
    composeFrom first held (n :: rest) =
      match if free then compose? first n else none with
      | some together => composeFrom together held rest
      | none =>
        if combiningClass n = 0 then (first :: held.reverse) ++ composeFrom n [] rest
        else composeFrom first (n :: held) rest :=
  ⟨_, composeFrom.eq_def first held (n :: rest)⟩

/-- A colon is not composed into what is before it, and nothing is composed into a colon. -/
theorem mem_composeFrom {text : List Nat} {first : Nat} (held : List Nat) (h : 0x3A = first ∨ 0x3A ∈ text) :
    0x3A ∈ composeFrom first held text := by
  induction text generalizing first held with
  | nil =>
    rw [composeFrom]
    exact List.mem_cons.mpr (.inl (h.resolve_right List.not_mem_nil))
  | cons n rest ih =>
    obtain ⟨free, heq⟩ := composeFrom_cons first held n rest
    rw [heq]
    split
    next together hfree =>
      have hcompose : compose? first n = some together := by
        split at hfree
        · exact hfree
        · cases hfree
      have hfirst : 0x3A ≠ first := by
        rintro rfl
        rw [compose?_colon] at hcompose
        cases hcompose
      have hsecond : 0x3A ≠ n := by
        rintro rfl
        rw [compose?_ascii (by decide)] at hcompose
        cases hcompose
      exact ih held (.inr ((List.mem_cons.mp (h.resolve_left hfirst)).resolve_left hsecond))
    next =>
      split
      next =>
        rw [List.mem_append, List.mem_cons]
        exact h.imp .inl fun hmem => ih [] (List.mem_cons.mp hmem)
      next hclass =>
        have hsecond : 0x3A ≠ n := by
          rintro rfl
          exact hclass (combiningClass_ascii (by decide))
        exact ih (n :: held) (h.imp_right fun hmem => (List.mem_cons.mp hmem).resolve_left hsecond)

theorem mem_compose {text : List Nat} (h : 0x3A ∈ text) : 0x3A ∈ compose text := by
  induction text with
  | nil => cases h
  | cons n rest ih =>
    rw [compose]
    split
    next => exact mem_composeFrom [] (List.mem_cons.mp h)
    next hclass =>
      have hsecond : 0x3A ≠ n := by
        rintro rfl
        exact hclass (combiningClass_ascii (by decide))
      exact List.mem_cons_of_mem _ (ih ((List.mem_cons.mp h).resolve_left hsecond))

theorem colon_mem_normalize {text : List Char} (h : ':' ∈ text) : ':' ∈ normalize text := by
  have hnumber : 0x3A ∈ text.map (·.toNat) := List.mem_map.mpr ⟨':', h, rfl⟩
  exact List.mem_map.mpr ⟨0x3A, mem_compose (mem_decompose hnumber (by decide)), rfl⟩

end ReverseProxy.Unicode
