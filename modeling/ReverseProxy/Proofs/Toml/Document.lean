import Mathlib.Data.List.Nodup
import ReverseProxy.Proofs.Toml.Value

/-! # Documents that were written line by line -/

namespace ReverseProxy.Toml

variable {rest : List Char} {key : String} {node : Node} {pairs : List (String × Node)}

/-! ## Statements -/

theorem lineTail?_newline (rest : List Char) : lineTail? ('\n' :: rest) = some rest := rfl

theorem statement?_pair (hkey : Bare key) (hnode : Plain maxDepth node) :
    statement? (key.toList ++ ' ' :: '=' :: ' ' :: (writeValue node ++ '\n' :: rest)) =
      some (.pair [] key node, rest) := by
  have hstops : Stops ('\n' :: rest) := by simp [Stops]
  have hname := key?_bare (t := ' ' :: '=' :: ' ' :: (writeValue node ++ '\n' :: rest)) hkey (hkey.skipWs _)
    ⟨' ', _, rfl, by decide⟩ rfl (by decide)
  have hvalue : value? maxDepth (skipWs (' ' :: (writeValue node ++ '\n' :: rest))) = some (node, '\n' :: rest) := by
    refine Eq.trans ?_ (hnode.readBack _ hstops)
    exact congrArg _ (hnode.skipWs _)
  obtain ⟨c, s, hs, hc⟩ := hkey.exists_cons (' ' :: '=' :: ' ' :: (writeValue node ++ '\n' :: rest))
  have hbracket : c ≠ '[' := by
    rintro rfl
    cases hc
  rw [hs] at hname ⊢
  rw [statement?]
  · simp [hname, expect?, hvalue, lineTail?_newline]
  · simp [hbracket]
  · simp [hbracket]

theorem statement?_header (hkey : Bare key) :
    statement? ('[' :: (key.toList ++ ']' :: '\n' :: rest)) = some (.header [] key, rest) := by
  have hname := key?_bare (t := ']' :: '\n' :: rest) hkey (hkey.skipWs _)
    ⟨']', _, rfl, by decide⟩ rfl (by decide)
  obtain ⟨c, s, hs, hc⟩ := hkey.exists_cons (']' :: '\n' :: rest)
  have hbracket : c ≠ '[' := by
    rintro rfl
    cases hc
  rw [hs] at hname ⊢
  rw [statement?]
  · simp [hname, expect?, lineTail?_newline]
  · simp [hbracket]

theorem statement?_arrayHeader (hkey : Bare key) :
    statement? ('[' :: '[' :: (key.toList ++ ']' :: ']' :: '\n' :: rest)) = some (.arrayHeader [] key, rest) := by
  have hname := key?_bare (t := ']' :: ']' :: '\n' :: rest) hkey (hkey.skipWs _)
    ⟨']', _, rfl, by decide⟩ rfl (by decide)
  rw [statement?]
  simp [hname, expect?, lineTail?_newline]

theorem statements?_cons {c : Char} {s after : List Char} {statement : Statement} (hc : isDark c)
    (h : statement? (c :: s) = some (statement, after)) (hlength : after.length < s.length + 1) :
    statements? (c :: s) = (statements? after).map (statement :: ·) := by
  have hcomment : c ≠ '#' := by
    rintro rfl
    cases hc
  have hline := newline?_of_isDark hc s
  rw [statements?, if_neg (by simp [not_isWs_of_isDark hc]), if_neg hcomment]
  split
  next heq =>
    rw [hline] at heq
    cases heq
  next =>
    rw [h]
    simp [hlength]

/-! ## Lines and headers -/

/-- Pairs that can be written on lines of their own. -/
structure Lines (pairs : List (String × Node)) : Prop where
  keys : ∀ p ∈ pairs, Bare p.1
  nodup : (pairs.map (·.1)).Nodup
  plain : ∀ p ∈ pairs, Plain maxDepth p.2

def lineOf (p : String × Node) : Statement := .pair [] p.1 p.2

theorem statements?_pairs (hkeys : ∀ p ∈ pairs, Bare p.1) (hplain : ∀ p ∈ pairs, Plain maxDepth p.2)
    (rest : List Char) :
    statements? (writePairs (members pairs) ++ rest) = (statements? rest).map (pairs.map lineOf ++ ·) := by
  induction pairs with
  | nil => simp [members, writePairs]
  | cons p pairs ih =>
    obtain ⟨hkey, hkeys⟩ := List.forall_mem_cons.mp hkeys
    obtain ⟨hnode, hplain⟩ := List.forall_mem_cons.mp hplain
    have htext : writePairs (members (p :: pairs)) ++ rest = p.1.toList ++ ' ' :: '=' :: ' ' ::
        (writeValue p.2 ++ '\n' :: (writePairs (members pairs) ++ rest)) := by
      simp [members, writePairs, writeKey]
    have hstatement := @statement?_pair (writePairs (members pairs) ++ rest) _ _ hkey hnode
    obtain ⟨c, s, hs, hc⟩ := hkey.exists_cons (' ' :: '=' :: ' ' :: (writeValue p.2 ++ '\n' ::
      (writePairs (members pairs) ++ rest)))
    have hlength := congrArg List.length hs
    rw [hs] at hstatement
    rw [htext, hs, statements?_cons (isDark_of_isBare hc) hstatement, ih hkeys hplain]
    · simp [lineOf, Function.comp_def]
    · simp only [List.length_append, List.length_cons] at *
      omega

/-- The text adds a member to a document, behind all that are there. -/
def Adds (text : List Char) (key : String) (node : Node) : Prop :=
  ∃ statements entry, (∀ rest, statements? (text ++ rest) = (statements? rest).map (statements ++ ·)) ∧
    (∀ entries path, Fresh entries key → ∃ path', statements.foldlM Draft.apply ⟨.headed entries, path⟩ =
      some ⟨.headed (entries ++ [(key, entry)]), path'⟩) ∧ entry.toNode = node

theorem adds_table (hkey : Bare key) (hpairs : Lines pairs) :
    Adds (writeHeaded (.text key) (Node.record pairs)) key (Node.record pairs) := by
  refine ⟨.header [] key :: pairs.map lineOf, .table (.ofPairs pairs), ?_, ?_, toNode_ofPairs pairs⟩
  · intro rest
    have htext : writeHeaded (.text key) (Node.record pairs) ++ rest =
        '[' :: (key.toList ++ ']' :: '\n' :: (writePairs (members pairs) ++ rest)) := by
      simp [writeHeaded, place, Node.record, members, writeKey]
    rw [htext, statements?_cons rfl (statement?_header hkey), statements?_pairs hpairs.keys hpairs.plain]
    · simp [Function.comp_def]
    · simp
      omega
  · intro entries path hfresh
    refine ⟨[key], ?_⟩
    rw [List.foldlM_cons, Draft.apply, openTable_fresh hfresh]
    exact foldlM_pair (focus_table hfresh) (foldlM_ofPairs hpairs.nodup)

/-! ## Arrays of tables -/

section

variable {rows : List (List (String × Node))} {entries : List (String × Entry)} {path : List String}

def rowStatements (key : String) (row : List (String × Node)) : List Statement :=
  .arrayHeader [] key :: row.map lineOf

theorem statements?_rows (hkey : Bare key) (hrows : ∀ row ∈ rows, Lines row) (rest : List Char) :
    statements? ((rows.map members).flatMap (fun ms =>
        '[' :: '[' :: (writeKey (.text key) ++ ']' :: ']' :: '\n' :: writePairs ms)) ++ rest) =
      (statements? rest).map (rows.flatMap (rowStatements key) ++ ·) := by
  induction rows with
  | nil => simp
  | cons row rows ih =>
    obtain ⟨hrow, hrows⟩ := List.forall_mem_cons.mp hrows
    simp only [List.map_cons, List.flatMap_cons, List.cons_append, List.append_assoc, writeKey] at ih ⊢
    rw [statements?_cons rfl (statement?_arrayHeader hkey), statements?_pairs hrow.keys hrow.plain, ih hrows]
    · simp [rowStatements, Function.comp_def]
    · simp
      omega

theorem foldlM_row {root : Table} (before : List Table) {row : List (String × Node)} (hfresh : Fresh entries key)
    (hopen : root.openArray [] key = some (.headed (entries ++ [(key, .tables (before ++ [.headed []]))])))
    (hnodup : (row.map (·.1)).Nodup) :
    (rowStatements key row).foldlM Draft.apply ⟨root, path⟩ =
      some ⟨.headed (entries ++ [(key, .tables (before ++ [.ofPairs row]))]), [key]⟩ := by
  rw [rowStatements, List.foldlM_cons, Draft.apply, hopen]
  exact foldlM_pair (focus_tables hfresh before) (foldlM_ofPairs hnodup)

theorem foldlM_rows (hfresh : Fresh entries key) (hrows : ∀ row ∈ rows, Lines row) (before : List Table)
    (path : List String) :
    ∃ path', (rows.flatMap (rowStatements key)).foldlM Draft.apply
        ⟨.headed (entries ++ [(key, .tables before)]), path⟩ =
      some ⟨.headed (entries ++ [(key, .tables (before ++ rows.map .ofPairs))]), path'⟩ := by
  induction rows generalizing before path with
  | nil => exact ⟨path, by simp⟩
  | cons row rows ih =>
    obtain ⟨hrow, hrows⟩ := List.forall_mem_cons.mp hrows
    obtain ⟨path', hrest⟩ := ih hrows (before ++ [.ofPairs row]) [key]
    refine ⟨path', ?_⟩
    rw [List.flatMap_cons, List.foldlM_append, foldlM_row before hfresh (openArray_last hfresh before) hrow.nodup]
    refine hrest.trans ?_
    simp

theorem rows?_records (rows : List (List (String × Node))) :
    rows? (rows.map Node.record) = some (rows.map members) := by
  induction rows with
  | nil => rfl
  | cons row rows ih => simp [rows?, Node.record, ih, members]

theorem adds_tables (hkey : Bare key) {row : List (String × Node)} (hrow : Lines row)
    (hrows : ∀ row ∈ rows, Lines row) :
    Adds (writeHeaded (.text key) (Node.list ((row :: rows).map Node.record))) key
      (Node.list ((row :: rows).map Node.record)) := by
  have hall : ∀ r ∈ row :: rows, Lines r := List.forall_mem_cons.mpr ⟨hrow, hrows⟩
  refine ⟨(row :: rows).flatMap (rowStatements key), .tables ((row :: rows).map .ofPairs), ?_, ?_, ?_⟩
  · intro rest
    rw [← statements?_rows hkey hall]
    simp only [writeHeaded, place, Node.list, rows?_records]
    rfl
  · intro entries path hfresh
    obtain ⟨path', hrest⟩ := foldlM_rows hfresh hrows [.ofPairs row] [key]
    refine ⟨path', ?_⟩
    rw [List.flatMap_cons, List.foldlM_append, foldlM_row [] hfresh (openArray_fresh hfresh) hrow.nodup]
    exact hrest
  · have htables : ∀ rows : List (List (String × Node)), tablesToNodes (rows.map .ofPairs) = rows.map Node.record := by
      intro rows
      induction rows with
      | nil => rfl
      | cons row rows ih => simp [tablesToNodes, toNode_ofPairs, ih]
    rw [Entry.toNode, htables, Node.list]

end

/-! ## Whole documents -/

/-- What can be written for a member of a document, wherever it stands. -/
inductive Placed : Node → Prop where
  | line {node : Node} (hline : isLine node) (h : Plain maxDepth node) : Placed node
  | table {pairs : List (String × Node)} (h : Lines pairs) : Placed (Node.record pairs)
  | tables {row : List (String × Node)} {rows : List (List (String × Node))} (h : Lines row)
      (hrows : ∀ row ∈ rows, Lines row) : Placed (Node.list ((row :: rows).map Node.record))

theorem not_isLine_tables (row : List (String × Node)) (rows : List (List (String × Node))) :
    isLine (Node.list ((row :: rows).map Node.record)) = false := by
  simp only [isLine, Node.list, place, rows?_records]
  rfl

theorem Placed.plain (h : Placed node) (hline : isLine node) : Plain maxDepth node := by
  cases h with
  | line _ h => exact h
  | table => cases hline
  | tables =>
    rw [not_isLine_tables] at hline
    cases hline

theorem Placed.adds (hkey : Bare key) (h : Placed node) (hline : isLine node = false) :
    Adds (writeHeaded (.text key) node) key node := by
  cases h with
  | line hyes =>
    rw [hline] at hyes
    cases hyes
  | table h => exact adds_table hkey h
  | tables h hrows => exact adds_tables hkey h hrows

theorem adds_all (hadds : ∀ p ∈ pairs, Adds (writeHeaded (.text p.1) p.2) p.1 p.2)
    (hnodup : (pairs.map (·.1)).Nodup) :
    ∃ statements news, (∀ rest, statements? ((members pairs).flatMap (fun m => writeHeaded m.1 m.2) ++ rest) =
        (statements? rest).map (statements ++ ·)) ∧
      (∀ entries path, (∀ p ∈ pairs, Fresh entries p.1) → ∃ path',
        statements.foldlM Draft.apply ⟨.headed entries, path⟩ = some ⟨.headed (entries ++ news), path'⟩) ∧
      news.map (fun e => (e.1, e.2.toNode)) = pairs := by
  induction pairs with
  | nil => exact ⟨[], [], fun rest => by simp [members], fun entries path _ => ⟨path, by simp⟩, rfl⟩
  | cons p pairs ih =>
    obtain ⟨hp, hadds⟩ := List.forall_mem_cons.mp hadds
    rw [List.map_cons, List.nodup_cons] at hnodup
    obtain ⟨first, entry, htext, hrun, hnode⟩ := hp
    obtain ⟨statements, news, htexts, hruns, hnodes⟩ := ih hadds hnodup.2
    refine ⟨first ++ statements, (p.1, entry) :: news, ?_, ?_, ?_⟩
    · intro rest
      simp only [members, List.map_cons, List.flatMap_cons, List.append_assoc] at htexts ⊢
      rw [htext, htexts, Option.map_map]
      simp [Function.comp_def]
    · intro entries path hfresh
      obtain ⟨hp, hfresh⟩ := List.forall_mem_cons.mp hfresh
      obtain ⟨path', hfirst⟩ := hrun entries path hp
      have hnext : ∀ q ∈ pairs, Fresh (entries ++ [(p.1, entry)]) q.1 := by
        intro q hq hmem
        rw [List.map_append, List.mem_append, List.map_singleton, List.mem_singleton] at hmem
        rcases hmem with hmem | hkey
        · exact hfresh q hq hmem
        · exact hnodup.1 (hkey ▸ List.mem_map_of_mem hq)
      obtain ⟨path'', hrest⟩ := hruns (entries ++ [(p.1, entry)]) path' hnext
      refine ⟨path'', ?_⟩
      rw [List.foldlM_append, hfirst]
      refine hrest.trans ?_
      simp
    · rw [List.map_cons, hnode, hnodes]

theorem statements?_mark (s : List Char) : statements? ('\ufeff' :: s) = none := by
  have hkey : key? ('\ufeff' :: s) = none := by
    rw [key?, separated?]
    rfl
  have hstatement : statement? ('\ufeff' :: s) = none := by
    rw [statement?]
    · simp [hkey]
    · simp
    · simp
  rw [statements?, if_neg (by decide), if_neg (by decide)]
  split
  next heq => cases heq
  next => rw [hstatement]

theorem exists_document {lines heads : List (String × Node)} (hlines : Lines lines)
    (hadds : ∀ p ∈ heads, Adds (writeHeaded (.text p.1) p.2) p.1 p.2) (hnodup : (heads.map (·.1)).Nodup)
    (hkeys : ∀ p ∈ heads, p.1 ∉ lines.map (·.1)) :
    ∃ statements draft, statements? (writePairs (members lines) ++
        (members heads).flatMap fun m => writeHeaded m.1 m.2) = some statements ∧
      statements.foldlM Draft.apply {} = some draft ∧ draft.root.toNode = Node.record (lines ++ heads) := by
  obtain ⟨statements, news, htext, hrun, hnews⟩ := adds_all hadds hnodup
  have hfresh : ∀ p ∈ heads, Fresh (lines.map fun p => (p.1, .value p.2)) p.1 := by
    intro p hp
    rw [Fresh, List.map_map]
    exact hkeys p hp
  obtain ⟨path, hrest⟩ := hrun (lines.map fun p => (p.1, .value p.2)) [] hfresh
  refine ⟨lines.map lineOf ++ statements, ⟨.headed (lines.map (fun p => (p.1, .value p.2)) ++ news), path⟩, ?_, ?_, ?_⟩
  · have hend := htext []
    rw [List.append_nil] at hend
    rw [statements?_pairs hlines.keys hlines.plain, hend, statements?]
    simp
  · have hpairs : (lines.map lineOf).foldlM Draft.apply {} = some ⟨.ofPairs lines, []⟩ :=
      foldlM_pair focus_root (foldlM_ofPairs hlines.nodup)
    rw [List.foldlM_append, hpairs]
    exact hrest
  · rw [toNode_headed, List.map_append, hnews, List.map_map]
    simp [Function.comp_def, Entry.toNode]

theorem arranged_members (pairs : List (String × Node)) :
    arranged (members pairs) =
      members (pairs.filter (fun p => isLine p.2) ++ pairs.filter fun p => !isLine p.2) := by
  simp [arranged, members, List.filter_map, Function.comp_def]

theorem arranged_perm (ms : List (Node × Node)) : (arranged ms).Perm ms := List.filter_append_perm _ ms

theorem toList_write (pairs : List (String × Node)) :
    (write (Node.record pairs)).toList = writePairs (members (pairs.filter fun p => isLine p.2)) ++
      (members (pairs.filter fun p => !isLine p.2)).flatMap fun m => writeHeaded m.1 m.2 := by
  simp [write, Node.record, members, List.filter_map, Function.comp_def]

/-- What is written is read as it was, with the lines first. -/
theorem document?_write (hkeys : ∀ p ∈ pairs, Bare p.1) (hnodup : (pairs.map (·.1)).Nodup)
    (h : ∀ p ∈ pairs, Placed p.2) :
    document? (write (Node.record pairs)) = some (.mapping (arranged (members pairs)) true) := by
  have hlines : Lines (pairs.filter fun p => isLine p.2) := by
    refine ⟨fun p hp => hkeys p (List.mem_of_mem_filter hp), (List.filter_sublist.map _).nodup hnodup, ?_⟩
    intro p hp
    obtain ⟨hp, hline⟩ := List.mem_filter.mp hp
    exact (h p hp).plain hline
  have hheads : ∀ p ∈ pairs.filter (fun p => !isLine p.2), Adds (writeHeaded (.text p.1) p.2) p.1 p.2 := by
    intro p hp
    obtain ⟨hp, hline⟩ := List.mem_filter.mp hp
    exact (h p hp).adds (hkeys p hp) (by simpa using hline)
  have hapart : ∀ p ∈ pairs.filter (fun p => !isLine p.2), p.1 ∉ (pairs.filter fun p => isLine p.2).map (·.1) := by
    intro p hp hmem
    obtain ⟨q, hq, hkey⟩ := List.mem_map.mp hmem
    obtain ⟨hp, hhead⟩ := List.mem_filter.mp hp
    obtain ⟨hq, hline⟩ := List.mem_filter.mp hq
    rw [List.inj_on_of_nodup_map hnodup hq hp hkey] at hline
    simp [hline] at hhead
  obtain ⟨statements, draft, htext, hrun, hroot⟩ :=
    exists_document hlines hheads ((List.filter_sublist.map _).nodup hnodup) hapart
  rw [← toList_write] at htext
  have hmark : ∀ rest, (write (Node.record pairs)).toList ≠ '\ufeff' :: rest := by
    intro rest heq
    rw [heq, statements?_mark] at htext
    cases htext
  rw [arranged_members]
  unfold document?
  split
  next rest heq => exact (hmark rest heq).elim
  next => simp only [htext, Option.bind_eq_bind, Option.bind_some, hrun, hroot]; rfl

end ReverseProxy.Toml
