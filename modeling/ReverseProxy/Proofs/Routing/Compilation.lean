import Mathlib.Data.List.Induction
import Mathlib.Data.List.Nodup
import Mathlib.Data.List.Perm.Basic
import ReverseProxy.Proofs.Except
import ReverseProxy.Routing.Table

/-! # What a table of routes is compiled to -/

open scoped List

namespace ReverseProxy

theorem Guard.isGuarded_parse (expression : String) :
    (Guard.parse expression).isGuarded = !decide (expression = "") := by
  unfold parse
  by_cases h : expression = ""
  · rw [if_pos h, decide_eq_true h]
    rfl
  · rw [if_neg h, decide_eq_false h]
    split
    · split
      · rfl
      · split <;> rfl
    · rfl

namespace RouteTable

variable {α : Type}

/-! ## URIs in the order in which they are first named -/

/-- The fold behind `firstSeen`. -/
def seenAfter (seen uris : List String) : List String :=
  uris.foldl (fun seen uri => if uri ∈ seen then seen else uri :: seen) seen

theorem mem_seenAfter {seen uris : List String} {uri : String} :
    uri ∈ seenAfter seen uris ↔ uri ∈ seen ∨ uri ∈ uris := by
  unfold seenAfter
  induction uris generalizing seen with
  | nil => simp
  | cons first uris ih =>
    rw [List.foldl_cons, ih]
    split
    · rw [List.mem_cons]
      constructor
      · tauto
      · rintro (h | rfl | h)
        · exact Or.inl h
        · exact Or.inl ‹_›
        · exact Or.inr h
    · rw [List.mem_cons, List.mem_cons]
      tauto

theorem seenAfter_append_singleton (seen uris : List String) (uri : String) :
    seenAfter seen (uris ++ [uri]) =
      if uri ∈ seenAfter seen uris then seenAfter seen uris else uri :: seenAfter seen uris :=
  List.foldl_append

theorem firstSeen_append_singleton (uris : List String) (uri : String) :
    firstSeen (uris ++ [uri]) = if uri ∈ uris then firstSeen uris else firstSeen uris ++ [uri] := by
  have hseen : uri ∈ seenAfter [] uris ↔ uri ∈ uris := by simp [mem_seenAfter]
  rw [firstSeen, firstSeen, ← seenAfter, ← seenAfter, seenAfter_append_singleton]
  simp only [hseen]
  split
  next => rfl
  next => rw [List.reverse_cons]

@[simp] theorem mem_firstSeen {uris : List String} {uri : String} :
    uri ∈ firstSeen uris ↔ uri ∈ uris := by
  rw [firstSeen, List.mem_reverse, ← seenAfter, mem_seenAfter]
  simp

theorem firstSeen_ordered (uris : List String) :
    (firstSeen uris).Pairwise fun a b => uris.idxOf a < uris.idxOf b := by
  induction uris using List.reverseRecOn with
  | nil => exact List.Pairwise.nil
  | append_singleton uris uri ih =>
    have hsame : ∀ {a}, a ∈ firstSeen uris → (uris ++ [uri]).idxOf a = uris.idxOf a := by
      intro a ha
      exact List.idxOf_append_of_mem (mem_firstSeen.mp ha)
    have hseen : (firstSeen uris).Pairwise fun a b => (uris ++ [uri]).idxOf a < (uris ++ [uri]).idxOf b := by
      refine ih.imp_of_mem ?_
      intro a b ha hb h
      rwa [hsame ha, hsame hb]
    rw [firstSeen_append_singleton]
    split
    next => exact hseen
    next hnew =>
      refine List.pairwise_append.mpr ⟨hseen, List.pairwise_singleton _ _, ?_⟩
      intro a ha b hb
      rw [List.mem_singleton.mp hb, hsame ha, List.idxOf_append_of_notMem hnew]
      exact Nat.lt_add_right _ (List.idxOf_lt_length_iff.mpr (mem_firstSeen.mp ha))

theorem firstSeen_nodup (uris : List String) : (firstSeen uris).Nodup := by
  refine (firstSeen_ordered uris).imp ?_
  rintro a b h rfl
  exact Nat.lt_irrefl _ h

/-- What is looked for in order is found where it stands in the whole list. -/
theorem find?_firstSeen (p : String → Bool) (uris : List String) :
    (firstSeen uris).find? p = uris.find? p := by
  induction uris using List.reverseRecOn with
  | nil => rfl
  | append_singleton uris uri ih =>
    rw [firstSeen_append_singleton, List.find?_append]
    split
    next hold =>
      rw [ih]
      cases hfind : uris.find? p with
      | some found => rfl
      | none => simp [List.find?_eq_none.mp hfind uri hold]
    next => rw [List.find?_append, ih]

/-! ## Groups -/

/-- The routes of a URI that ask something of a request, in configured order. -/
def guardedAt (uri : String) (routes : List (Route α)) : List (Route α) :=
  (routes.filter (·.uri = uri)).filter (·.guard.isGuarded)

def unguardedAt (uri : String) (routes : List (Route α)) : List (Route α) :=
  (routes.filter (·.uri = uri)).filter (!·.guard.isGuarded)

def compiled (routes : List (Route α)) (uri : String) : RouteGroup α :=
  ⟨uri, guardedAt uri routes ++ unguardedAt uri routes⟩

/-- Every route has a URI, and no URI has two routes that take every request. -/
structure Compiles (routes : List (Route α)) : Prop where
  named : ∀ r ∈ routes, r.uri ≠ ""
  single : ∀ uri, (unguardedAt uri routes).length ≤ 1

def crowded (routes : List (Route α)) (uri : String) : Bool := 1 < (unguardedAt uri routes).length

theorem group_eq (routes : List (Route α)) (uri : String) :
    group routes uri =
      if crowded routes uri then .error (.multipleUnguarded uri ((unguardedAt uri routes).map (·.name)))
      else .ok (compiled routes uri) := by
  unfold group RouteGroup.ofRoutes
  rw [List.partition_eq_filter_filter]
  simp only [crowded, decide_eq_true_eq]
  rfl

theorem crowded_eq_false {routes : List (Route α)} {uri : String} :
    crowded routes uri = false ↔ (unguardedAt uri routes).length ≤ 1 := by
  simp [crowded]

theorem unguardedAt_eq_nil {routes : List (Route α)} {uri : String} (h : uri ∉ routes.map (·.uri)) :
    unguardedAt uri routes = [] := by
  rw [unguardedAt, List.filter_filter, List.filter_eq_nil_iff]
  intro r hr hmem
  simp only [Bool.and_eq_true, decide_eq_true_eq] at hmem
  exact h (List.mem_map.mpr ⟨r, hr, hmem.2⟩)

/-- The first route without a URI decides, and else the first one whose URI is crowded. -/
theorem build_eq (routes : List (Route α)) :
    build routes =
      match routes.find? (·.uri = "") with
      | some r => .error (.emptyUri r.name)
      | none =>
        match routes.find? (crowded routes ·.uri) with
        | some r => .error (.multipleUnguarded r.uri ((unguardedAt r.uri routes).map (·.name)))
        | none => .ok ⟨(firstSeen (routes.map (·.uri))).map (compiled routes)⟩ := by
  have hfirst : (firstSeen (routes.map (·.uri))).find? (crowded routes) =
      (routes.find? (crowded routes ·.uri)).map (·.uri) := by
    rw [find?_firstSeen, List.find?_map]
    rfl
  rw [build, mapM_eq_find? (group_eq routes), hfirst]
  cases routes.find? (·.uri = "") with
  | some r => rfl
  | none => cases routes.find? (crowded routes ·.uri) <;> rfl

theorem find?_crowded_eq_none {routes : List (Route α)} :
    routes.find? (crowded routes ·.uri) = none ↔ ∀ uri, (unguardedAt uri routes).length ≤ 1 := by
  rw [List.find?_eq_none]
  constructor
  · intro h uri
    by_cases hmem : uri ∈ routes.map (·.uri)
    · obtain ⟨r, hr, rfl⟩ := List.mem_map.mp hmem
      exact crowded_eq_false.mp (Bool.eq_false_iff.mpr (h r hr))
    · rw [unguardedAt_eq_nil hmem]
      exact Nat.zero_le 1
  · intro h r _
    exact Bool.eq_false_iff.mp (crowded_eq_false.mpr (h r.uri))

theorem find?_unnamed_eq_none {routes : List (Route α)} :
    routes.find? (·.uri = "") = none ↔ ∀ r ∈ routes, r.uri ≠ "" := by
  simp

/-- A table can be built of just the routes that compile, and it has one group for each of their URIs. -/
theorem build_eq_ok {routes : List (Route α)} {table : RouteTable α} :
    build routes = .ok table ↔
      Compiles routes ∧ table.groups = (firstSeen (routes.map (·.uri))).map (compiled routes) := by
  rw [build_eq]
  constructor
  · intro h
    split at h
    next => cases h
    next hnamed =>
      split at h
      next => cases h
      next hsingle =>
        cases h
        exact ⟨⟨find?_unnamed_eq_none.mp hnamed, find?_crowded_eq_none.mp hsingle⟩, rfl⟩
  · rintro ⟨⟨hnamed, hsingle⟩, htable⟩
    rw [find?_unnamed_eq_none.mpr hnamed, find?_crowded_eq_none.mpr hsingle, ← htable]

/-! ## Routes that make no table -/

/--
What is told of routes that make no table: the first route without a URI, wherever it stands, and if there
is none the first URI that is crowded.
-/
inductive Defect (routes : List (Route α)) : RouteError → Prop where
  | emptyUri {before after : List (Route α)} {r : Route α} (hsplit : routes = before ++ r :: after)
      (hempty : r.uri = "") (hbefore : ∀ b ∈ before, b.uri ≠ "") : Defect routes (.emptyUri r.name)
  | multipleUnguarded {before after : List (Route α)} {r : Route α} (hnamed : ∀ b ∈ routes, b.uri ≠ "")
      (hsplit : routes = before ++ r :: after) (hmany : 1 < (unguardedAt r.uri routes).length)
      (hbefore : ∀ b ∈ before, (unguardedAt b.uri routes).length ≤ 1) :
      Defect routes (.multipleUnguarded r.uri ((unguardedAt r.uri routes).map (·.name)))

theorem build_eq_error {routes : List (Route α)} {e : RouteError} :
    build routes = .error e ↔ Defect routes e := by
  rw [build_eq]
  constructor
  · intro h
    split at h
    next r hfind =>
      cases h
      obtain ⟨hempty, before, after, hsplit, hbefore⟩ := List.find?_eq_some_iff_append.mp hfind
      exact .emptyUri hsplit (by simpa using hempty) (by simpa using hbefore)
    next hnamed =>
      split at h
      next r hfind =>
        cases h
        obtain ⟨hmany, before, after, hsplit, hbefore⟩ := List.find?_eq_some_iff_append.mp hfind
        refine .multipleUnguarded (find?_unnamed_eq_none.mp hnamed) hsplit (by simpa [crowded] using hmany) ?_
        exact fun b hb => crowded_eq_false.mp (by simpa using hbefore b hb)
      next => cases h
  · intro h
    cases h with
    | @emptyUri before after r hsplit hempty hbefore =>
      have hfind : routes.find? (·.uri = "") = some r :=
        List.find?_eq_some_iff_append.mpr ⟨by simpa using hempty, before, after, hsplit, by simpa using hbefore⟩
      rw [hfind]
    | @multipleUnguarded before after r hnamed hsplit hmany hbefore =>
      have hfind : routes.find? (crowded routes ·.uri) = some r := by
        refine List.find?_eq_some_iff_append.mpr ⟨by simpa [crowded] using hmany, before, after, hsplit, ?_⟩
        exact fun b hb => by simpa using crowded_eq_false.mpr (hbefore b hb)
      rw [find?_unnamed_eq_none.mpr hnamed, hfind]

example : build [⟨"a", "/svc", .always, 0⟩, ⟨"b", "/svc", .always, 1⟩, ⟨"c", "", .always, 2⟩] =
    .error (.emptyUri "c") := rfl

theorem build_error {routes : List (Route α)} {e : RouteError} (h : build routes = .error e) :
    (∃ r ∈ routes, r.uri = "" ∧ e = .emptyUri r.name) ∨
      ∃ uri, 1 < (unguardedAt uri routes).length ∧
        e = .multipleUnguarded uri ((unguardedAt uri routes).map (·.name)) := by
  cases build_eq_error.mp h with
  | @emptyUri before after r hsplit hempty hbefore => exact Or.inl ⟨r, by simp [hsplit], hempty, rfl⟩
  | @multipleUnguarded before after r hnamed hsplit hmany hbefore => exact Or.inr ⟨r.uri, hmany, rfl⟩

/-! ## Tables that were built -/

section Built

variable {routes : List (Route α)} {table : RouteTable α}

theorem exists_build (h : Compiles routes) : ∃ table, build routes = .ok table :=
  ⟨_, build_eq_ok.mpr ⟨h, rfl⟩⟩

theorem uris_of_build (h : build routes = .ok table) :
    table.groups.map (·.uri) = firstSeen (routes.map (·.uri)) := by
  rw [(build_eq_ok.mp h).2, List.map_map]
  exact List.map_id _

theorem mem_groups_of_build (h : build routes = .ok table) {g : RouteGroup α} :
    g ∈ table.groups ↔ ∃ r ∈ routes, g = compiled routes r.uri := by
  rw [(build_eq_ok.mp h).2, List.mem_map]
  constructor
  · rintro ⟨uri, huri, rfl⟩
    obtain ⟨r, hr, rfl⟩ := List.mem_map.mp (mem_firstSeen.mp huri)
    exact ⟨r, hr, rfl⟩
  · rintro ⟨r, hr, rfl⟩
    exact ⟨r.uri, mem_firstSeen.mpr (List.mem_map.mpr ⟨r, hr, rfl⟩), rfl⟩

theorem mem_of_build (h : build routes = .ok table) {g : RouteGroup α} (hg : g ∈ table.groups) {r : Route α}
    (hr : r ∈ g.routes) : r ∈ routes := by
  obtain ⟨r', -, rfl⟩ := (mem_groups_of_build h).mp hg
  rcases List.mem_append.mp hr with hr | hr
  · exact List.mem_of_mem_filter (List.mem_of_mem_filter hr)
  · exact List.mem_of_mem_filter (List.mem_of_mem_filter hr)

end Built

/-! ## All routes in their groups -/

/-- Sorting routes by their URIs loses none, also not of those that come more than once. -/
theorem flatMap_filter_perm {uris : List String} (hnodup : uris.Nodup) {routes : List (Route α)}
    (hall : ∀ r ∈ routes, r.uri ∈ uris) : (uris.flatMap fun uri => routes.filter (·.uri = uri)) ~ routes := by
  induction uris generalizing routes with
  | nil =>
    have hnone : routes = [] := List.eq_nil_iff_forall_not_mem.mpr fun r hr => by simpa using hall r hr
    rw [hnone]
    rfl
  | cons uri uris ih =>
    obtain ⟨hnew, hnodup⟩ := List.nodup_cons.mp hnodup
    -- The routes of the other URIs are found among those that are left without the first URI.
    have hothers : (uris.flatMap fun other => routes.filter (·.uri = other)) =
        uris.flatMap fun other => (routes.filter (·.uri ≠ uri)).filter (·.uri = other) := by
      refine List.flatMap_congr fun other hother => ?_
      rw [List.filter_filter]
      refine List.filter_congr fun r _ => ?_
      by_cases hr : r.uri = other
      · have hne : other ≠ uri := fun h => hnew (h ▸ hother)
        simp [hr, hne]
      · simp [hr]
    have hrest : ∀ r ∈ routes.filter (·.uri ≠ uri), r.uri ∈ uris := by
      intro r hr
      obtain ⟨hmem, hne⟩ := List.mem_filter.mp hr
      exact (List.mem_cons.mp (hall r hmem)).resolve_left (by simpa using hne)
    have hsplit : routes.filter (·.uri = uri) ++ routes.filter (·.uri ≠ uri) ~ routes := by
      simpa using List.filter_append_perm (·.uri = uri) routes
    rw [List.flatMap_cons, hothers]
    exact ((ih hnodup hrest).append_left _).trans hsplit

theorem compiled_perm (routes : List (Route α)) (uri : String) :
    (compiled routes uri).routes ~ routes.filter (·.uri = uri) :=
  List.filter_append_perm _ _

/-- The groups of a table hold the routes, sorted by their URIs. -/
structure Arranged (routes : List (Route α)) (table : RouteTable α) : Prop where
  named : ∀ uri, uri ∈ table.groups.map (·.uri) ↔ uri ∈ routes.map (·.uri)
  distinct : (table.groups.map (·.uri)).Nodup
  ordered : (table.groups.map (·.uri)).Pairwise fun a b =>
    (routes.map (·.uri)).idxOf a < (routes.map (·.uri)).idxOf b
  /-- No route is lost, and none comes twice. -/
  whole : table.groups.flatMap (·.routes) ~ routes
  own : ∀ g ∈ table.groups, ∀ r ∈ g.routes, r.uri = g.uri
  guardedFirst : ∀ g ∈ table.groups, g.routes = guardedAt g.uri routes ++ unguardedAt g.uri routes
  single : ∀ g ∈ table.groups, (unguardedAt g.uri routes).length ≤ 1

theorem arranged_of_build {routes : List (Route α)} {table : RouteTable α} (h : build routes = .ok table) :
    Arranged routes table := by
  obtain ⟨hcompiles, hgroups⟩ := build_eq_ok.mp h
  have huris := uris_of_build h
  have hcompiled : ∀ g ∈ table.groups, g = compiled routes g.uri := by
    intro g hg
    obtain ⟨r, -, rfl⟩ := (mem_groups_of_build h).mp hg
    rfl
  constructor
  case named =>
    intro uri
    rw [huris, mem_firstSeen]
  case distinct =>
    rw [huris]
    exact firstSeen_nodup _
  case ordered =>
    rw [huris]
    exact firstSeen_ordered _
  case whole =>
    rw [hgroups, List.flatMap_map]
    refine (List.Perm.flatMap_left _ fun uri _ => compiled_perm routes uri).trans ?_
    apply flatMap_filter_perm (firstSeen_nodup _)
    exact fun r hr => mem_firstSeen.mpr (List.mem_map.mpr ⟨r, hr, rfl⟩)
  case own =>
    intro g hg r hr
    rw [hcompiled g hg] at hr
    simpa using (List.mem_filter.mp ((compiled_perm routes g.uri).mem_iff.mp hr)).2
  case guardedFirst => exact fun g hg => congrArg RouteGroup.routes (hcompiled g hg)
  case single => exact fun g _ => hcompiles.single g.uri

/-- When routes make a table, what it is then, and what is told otherwise. -/
structure Compilation (routes : List (Route α)) : Prop where
  succeeds : (∃ table, build routes = .ok table) ↔ Compiles routes
  arranged : ∀ table, build routes = .ok table → Arranged routes table
  refused : ∀ e, build routes = .error e ↔ Defect routes e

theorem build_compilation (routes : List (Route α)) : Compilation routes := by
  refine ⟨⟨?_, exists_build⟩, fun _ => arranged_of_build, fun _ => build_eq_error⟩
  rintro ⟨table, h⟩
  exact (build_eq_ok.mp h).1

end RouteTable

end ReverseProxy
