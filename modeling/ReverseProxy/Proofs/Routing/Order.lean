import Mathlib.Data.List.Perm.Basic
import ReverseProxy.Proofs.Routing.Dispatch

/-! # Where the order of routes matters -/

open scoped List

namespace ReverseProxy.RouteTable

variable {α : Type}

/-- The same routes in another order, which is the same one for those of a URI that have guards. -/
structure Reordered (routes others : List (Route α)) : Prop where
  perm : routes ~ others
  guarded : ∀ uri, guardedAt uri routes = guardedAt uri others

theorem eq_of_perm_of_length_le_one {xs ys : List α} (h : xs ~ ys) (hlen : xs.length ≤ 1) : xs = ys := by
  match xs with
  | [] => exact (List.nil_perm.mp h).symm
  | [x] => exact List.singleton_perm.mp h
  | _ :: _ :: _ => simp at hlen

section Tables

variable {routes others : List (Route α)}

theorem unguardedAt_perm (h : routes ~ others) (uri : String) :
    unguardedAt uri routes ~ unguardedAt uri others :=
  (h.filter _).filter _

theorem Compiles.reorder (hcompiles : Compiles routes) (h : routes ~ others) : Compiles others := by
  constructor
  · intro r hr
    exact hcompiles.named r (h.mem_iff.mpr hr)
  · intro uri
    rw [← (unguardedAt_perm h uri).length_eq]
    exact hcompiles.single uri

/-- One route at most is left that could have moved within its group. -/
theorem compiled_congr (hcompiles : Compiles routes) (h : Reordered routes others) (uri : String) :
    compiled routes uri = compiled others uri := by
  have hunguarded : unguardedAt uri routes = unguardedAt uri others :=
    eq_of_perm_of_length_le_one (unguardedAt_perm h.perm uri) (hcompiles.single uri)
  rw [compiled, compiled, h.guarded uri, hunguarded]

theorem mem_groups_congr {table other : RouteTable α} (h : Reordered routes others)
    (htable : build routes = .ok table) (hother : build others = .ok other) (g : RouteGroup α) :
    g ∈ table.groups ↔ g ∈ other.groups := by
  have hcompiles := (build_eq_ok.mp htable).1
  rw [mem_groups_of_build htable, mem_groups_of_build hother]
  constructor
  · rintro ⟨r, hr, rfl⟩
    exact ⟨r, h.perm.mem_iff.mp hr, compiled_congr hcompiles h r.uri⟩
  · rintro ⟨r, hr, rfl⟩
    exact ⟨r, h.perm.mem_iff.mpr hr, (compiled_congr hcompiles h r.uri).symm⟩

/-- Both lists make a table or none does, and no request can tell the tables from one another. -/
structure Agree (routes others : List (Route α)) : Prop where
  builds : (∃ table, build routes = .ok table) ↔ ∃ other, build others = .ok other
  lookup : ∀ table other, build routes = .ok table → build others = .ok other →
    ∀ path, table.lookup path = other.lookup path
  decide : ∀ table other, build routes = .ok table → build others = .ok other →
    ∀ request, table.decide request = other.decide request

theorem lookup_of_reordered {table other : RouteTable α} (h : Reordered routes others)
    (htable : build routes = .ok table) (hother : build others = .ok other) (path : String) :
    table.lookup path = other.lookup path :=
  lookup_congr (distinct_of_build htable) (distinct_of_build hother) (mem_groups_congr h htable hother) path

theorem agree_of_reordered (h : Reordered routes others) : Agree routes others := by
  refine ⟨⟨?_, ?_⟩, fun _ _ => lookup_of_reordered h, ?_⟩
  · rintro ⟨table, htable⟩
    exact exists_build ((build_eq_ok.mp htable).1.reorder h.perm)
  · rintro ⟨other, hother⟩
    exact exists_build ((build_eq_ok.mp hother).1.reorder h.perm.symm)
  · intro table other htable hother request
    rw [decide, decide, lookup_of_reordered h htable hother]

end Tables

/-- The routes of two URIs. One of the expressions is none. -/
def written : List (Route Nat) := [
  { name := "a", uri := "/svc/", guard := .parse "x=1", target := 0 },
  { name := "b", uri := "/", guard := .always, target := 1 },
  { name := "c", uri := "/svc/", guard := .parse "x", target := 2 },
  { name := "d", uri := "/svc/", guard := .always, target := 3 }]

/-- The same routes, those without guards first. Now the other URI is the first to be named. -/
def rewritten : List (Route Nat) := [
  { name := "b", uri := "/", guard := .always, target := 1 },
  { name := "d", uri := "/svc/", guard := .always, target := 3 },
  { name := "a", uri := "/svc/", guard := .parse "x=1", target := 0 },
  { name := "c", uri := "/svc/", guard := .parse "x", target := 2 }]

theorem agree_of_reordered_written : Reordered written rewritten ∧ Agree written rewritten := by
  have hperm : written ~ rewritten :=
    (List.Perm.swap _ _ _).trans (List.Perm.cons _ (@List.perm_append_comm _ [_, _] [_]))
  have hguarded : written.filter (·.guard.isGuarded) = rewritten.filter (·.guard.isGuarded) := rfl
  have h : Reordered written rewritten := by
    refine ⟨hperm, ?_⟩
    intro uri
    rw [guardedAt, guardedAt, List.filter_comm, hguarded, List.filter_comm]
  exact ⟨h, agree_of_reordered h⟩

end ReverseProxy.RouteTable
