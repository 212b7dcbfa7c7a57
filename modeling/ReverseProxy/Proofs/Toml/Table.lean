import Mathlib.Data.List.Basic
import ReverseProxy.Toml.Document

/-! # Tables that are filled pair by pair -/

namespace ReverseProxy.Toml

open Table

variable {entries : List (String × Entry)} {key : String} {entry : Entry} {pairs : List (String × Node)}

def Table.headed (entries : List (String × Entry)) : Table := mk false false entries

def Table.ofPairs (pairs : List (String × Node)) : Table := headed (pairs.map fun p => (p.1, .value p.2))

/-- The keys are new to a table that has the others. -/
def Fresh (entries : List (String × Entry)) (key : String) : Prop := key ∉ entries.map (·.1)

theorem find?_fresh (h : Fresh entries key) : (headed entries).find? key = none := by
  refine List.lookup_eq_none_iff.mpr ?_
  intro p hp
  rw [bne_iff_ne]
  rintro rfl
  exact h (List.mem_map_of_mem hp)

theorem find?_last (h : Fresh entries key) : (headed (entries ++ [(key, entry)])).find? key = some entry := by
  have hnone : entries.lookup key = none := find?_fresh h
  show (entries ++ [(key, entry)]).lookup key = some entry
  rw [List.lookup_append, hnone]
  simp

theorem replace_last (h : Fresh entries key) (other : Entry) :
    (headed (entries ++ [(key, entry)])).replace key other = headed (entries ++ [(key, other)]) := by
  simp only [headed, replace, Table.entries, Table.implicit, Table.dotted, List.map_append, List.map_cons, if_true,
    List.map_nil]
  refine congrArg (fun kept => headed (kept ++ [(key, other)])) ((List.map_congr_left ?_).trans (List.map_id entries))
  rintro ⟨k, e⟩ hp
  refine if_neg ?_
  rintro rfl
  exact h (List.mem_map_of_mem hp)

/-! ## Pairs -/

theorem assign_fresh (h : Fresh entries key) (node : Node) :
    (headed entries).assign [] key node = some (headed (entries ++ [(key, .value node)])) := by
  have hnone : (mk false false entries).find? key = none := find?_fresh h
  simp [assign, change, hnone, headed, push, Table.entries, Table.implicit, Table.dotted]

theorem foldlM_assign (hnodup : (pairs.map (·.1)).Nodup) (hfresh : ∀ p ∈ pairs, Fresh entries p.1) :
    pairs.foldlM (fun t p => t.assign [] p.1 p.2) (headed entries) =
      some (headed (entries ++ pairs.map fun p => (p.1, .value p.2))) := by
  induction pairs generalizing entries with
  | nil => simp
  | cons p pairs ih =>
    obtain ⟨hp, hpairs⟩ := List.forall_mem_cons.mp hfresh
    rw [List.map_cons, List.nodup_cons] at hnodup
    rw [List.foldlM_cons, assign_fresh hp]
    refine (ih hnodup.2 ?_).trans ?_
    · intro q hq hmem
      rw [List.map_append, List.mem_append, List.map_singleton, List.mem_singleton] at hmem
      rcases hmem with hmem | hkey
      · exact hpairs q hq hmem
      · exact hnodup.1 (hkey ▸ List.mem_map_of_mem hq)
    · simp

theorem foldlM_ofPairs (hnodup : (pairs.map (·.1)).Nodup) :
    pairs.foldlM (fun t p => t.assign [] p.1 p.2) Table.empty = some (ofPairs pairs) :=
  @foldlM_assign [] _ hnodup fun _ _ => List.not_mem_nil

theorem toNode_headed (entries : List (String × Entry)) :
    (headed entries).toNode = Node.record (entries.map fun e => (e.1, e.2.toNode)) := by
  have hentries : entriesToNodes entries = entries.map fun e => (.text e.1, e.2.toNode) := by
    induction entries with
    | nil => rfl
    | cons e entries ih => simp [entriesToNodes, ih]
  simp [headed, Table.toNode, hentries, Node.record]

theorem toNode_ofPairs (pairs : List (String × Node)) : (ofPairs pairs).toNode = Node.record pairs := by
  rw [ofPairs, toNode_headed]
  simp [Function.comp_def, Entry.toNode]

/-! ## Headers -/

theorem openTable_fresh (h : Fresh entries key) :
    (headed entries).openTable [] key = some (headed (entries ++ [(key, .table (headed []))])) := by
  have hnone := find?_fresh h
  rw [openTable, change]
  simp only [hnone]
  rfl

theorem openArray_fresh (h : Fresh entries key) :
    (headed entries).openArray [] key = some (headed (entries ++ [(key, .tables [headed []])])) := by
  have hnone := find?_fresh h
  rw [openArray, change]
  simp only [hnone]
  rfl

theorem openArray_last (h : Fresh entries key) (tables : List Table) :
    (headed (entries ++ [(key, .tables tables)])).openArray [] key =
      some (headed (entries ++ [(key, .tables (tables ++ [headed []]))])) := by
  have hlast : (headed (entries ++ [(key, .tables tables)])).find? key = some (.tables tables) := find?_last h
  rw [openArray, change]
  simp only [hlast]
  exact congrArg some (replace_last h _)

/-! ## Where pairs go -/

/-- The path leads to the one table that is left open in the document. -/
def Focus (path : List String) (document : Table → Table) : Prop :=
  ∀ (f : Table → Option Table) t t', f t = some t' → (document t).change false path f = some (document t')

theorem focus_root : Focus [] id := fun _ _ _ h => h

theorem focus_table (h : Fresh entries key) : Focus [key] fun t => headed (entries ++ [(key, .table t)]) := by
  intro f t t' hf
  have hlast : (headed (entries ++ [(key, .table t)])).find? key = some (.table t) := find?_last h
  have hinner : t.change false [] f = some t' := by rw [change, hf]
  rw [change, hlast]
  simp only [Bool.false_and, Bool.false_eq_true, if_false, hinner]
  exact congrArg some (replace_last h _)

theorem focus_tables (h : Fresh entries key) (before : List Table) :
    Focus [key] fun t => headed (entries ++ [(key, .tables (before ++ [t]))]) := by
  intro f t t' hf
  have hlast : (headed (entries ++ [(key, .tables (before ++ [t]))])).find? key =
      some (.tables (before ++ [t])) := find?_last h
  have hinner : t.change false [] f = some t' := by rw [change, hf]
  obtain ⟨first, rest, hrow⟩ : ∃ first rest, before ++ [t] = first :: rest :=
    List.exists_cons_of_ne_nil (List.concat_ne_nil t before)
  have hget : (first :: rest).getLast (List.cons_ne_nil first rest) = t := by simp [← hrow]
  have hdrop : (first :: rest).dropLast = before := by simp [← hrow]
  dsimp only
  rw [change, hlast, hrow]
  simp only [hget, hdrop, hinner]
  rw [← hrow]
  exact congrArg some (replace_last h _)

theorem foldlM_pair {path : List String} {document : Table → Table} (h : Focus path document) {t t' : Table}
    (hpairs : pairs.foldlM (fun t p => t.assign [] p.1 p.2) t = some t') :
    (pairs.map fun p => Statement.pair [] p.1 p.2).foldlM Draft.apply ⟨document t, path⟩ =
      some ⟨document t', path⟩ := by
  induction pairs generalizing t with
  | nil =>
    cases hpairs
    rfl
  | cons p pairs ih =>
    rw [List.foldlM_cons] at hpairs
    obtain ⟨middle, hmiddle, hpairs⟩ := Option.bind_eq_some_iff.mp hpairs
    rw [List.map_cons, List.foldlM_cons, Draft.apply, h _ t middle hmiddle]
    exact ih hpairs

end ReverseProxy.Toml
