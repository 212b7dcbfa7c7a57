import ReverseProxy.Proofs.Routing.Compilation

/-! # Which group a path belongs to -/

open scoped List

namespace ReverseProxy

/-! ## Beginnings of a text -/

theorem exists_append_of_begins {short long : String} (h : short.toList <+: long.toList) :
    ∃ rest, long = short ++ rest := by
  obtain ⟨rest, hrest⟩ := h
  refine ⟨String.ofList rest, ?_⟩
  rw [← String.toList_inj, String.toList_append, String.toList_ofList, hrest]

theorem size_le_of_begins {short long : String} (h : short.toList <+: long.toList) :
    short.utf8ByteSize ≤ long.utf8ByteSize := by
  obtain ⟨rest, rfl⟩ := exists_append_of_begins h
  rw [String.utf8ByteSize_append]
  omega

theorem eq_of_begins_of_size_le {short long : String} (h : short.toList <+: long.toList)
    (hsize : long.utf8ByteSize ≤ short.utf8ByteSize) : short = long := by
  obtain ⟨rest, rfl⟩ := exists_append_of_begins h
  rw [String.utf8ByteSize_append] at hsize
  have hrest : rest = "" := String.utf8ByteSize_eq_zero_iff.mp (by omega)
  rw [hrest, String.append_empty]

variable {α : Type}

/-! ## Groups that take a path -/

namespace RouteGroup

/-- The path is the URI of the group, or below it. -/
def Takes (g : RouteGroup α) (path : String) : Prop := g.uri = path ∨ g.holds path

theorem Takes.begins {g : RouteGroup α} {path : String} (h : g.Takes path) :
    g.uri.toList <+: path.toList := by
  rcases h with rfl | h
  · exact List.prefix_rfl
  · rw [holds, Bool.and_eq_true] at h
    exact List.isPrefixOf_iff_prefix.mp h.2

/-- Of two URIs that take one path, the one that is not longer begins the other. -/
theorem Takes.uri_eq {a b : RouteGroup α} {path : String} (ha : a.Takes path) (hb : b.Takes path)
    (h : a.uri.utf8ByteSize = b.uri.utf8ByteSize) : a.uri = b.uri := by
  rcases List.prefix_or_prefix_of_prefix ha.begins hb.begins with hab | hba
  · exact eq_of_begins_of_size_le hab (Nat.le_of_eq h.symm)
  · exact (eq_of_begins_of_size_le hba (Nat.le_of_eq h)).symm

end RouteGroup

namespace RouteTable

/-- The group takes the path, and no other one that takes it has a longer URI. -/
structure IsLongest (table : RouteTable α) (path : String) (g : RouteGroup α) : Prop where
  mem : g ∈ table.groups
  takes : g.Takes path
  longest : ∀ other ∈ table.groups, other.Takes path → other.uri.utf8ByteSize ≤ g.uri.utf8ByteSize

def Distinct (table : RouteTable α) : Prop := (table.groups.map (·.uri)).Nodup

theorem distinct_of_build {routes : List (Route α)} {table : RouteTable α}
    (h : build routes = .ok table) : table.Distinct := by
  rw [Distinct, uris_of_build h]
  exact firstSeen_nodup _

theorem IsLongest.unique {table : RouteTable α} {path : String} {a b : RouteGroup α}
    (h : table.Distinct) (ha : table.IsLongest path a) (hb : table.IsLongest path b) : a = b := by
  have hsize := Nat.le_antisymm (hb.longest a ha.mem ha.takes) (ha.longest b hb.mem hb.takes)
  exact List.inj_on_of_nodup_map h ha.mem hb.mem (ha.takes.uri_eq hb.takes hsize)

/-! ## Lookup -/

theorem foldl_longer_some (groups : List (RouteGroup α)) (a : RouteGroup α) :
    ∃ g ∈ a :: groups, groups.foldl longer (some a) = some g ∧
      ∀ other ∈ a :: groups, other.uri.utf8ByteSize ≤ g.uri.utf8ByteSize := by
  induction groups generalizing a with
  | nil => exact ⟨a, by simp⟩
  | cons b groups ih =>
    rw [List.foldl_cons, longer]
    split
    next hlt =>
      obtain ⟨g, hg, hfold, hlongest⟩ := ih b
      refine ⟨g, List.mem_cons_of_mem a hg, hfold, ?_⟩
      rintro other (_ | ⟨_, hother⟩)
      · have hb := hlongest b List.mem_cons_self
        omega
      · exact hlongest other hother
    next hge =>
      obtain ⟨g, hg, hfold, hlongest⟩ := ih a
      refine ⟨g, ?_, hfold, ?_⟩
      · rcases List.mem_cons.mp hg with rfl | hg
        · exact List.mem_cons_self
        · exact List.mem_cons_of_mem a (List.mem_cons_of_mem b hg)
      · intro other hother
        have ha := hlongest a List.mem_cons_self
        rcases List.mem_cons.mp hother with rfl | hother
        · exact ha
        · rcases List.mem_cons.mp hother with rfl | hother
          · omega
          · exact hlongest other (List.mem_cons_of_mem a hother)

theorem foldl_longer {groups : List (RouteGroup α)} (h : groups ≠ []) :
    ∃ g ∈ groups, groups.foldl longer none = some g ∧
      ∀ other ∈ groups, other.uri.utf8ByteSize ≤ g.uri.utf8ByteSize := by
  cases groups with
  | nil => exact absurd rfl h
  | cons a groups => exact foldl_longer_some groups a

theorem lookup_cases (table : RouteTable α) (path : String) :
    (∃ g, table.lookup path = some g ∧ table.IsLongest path g) ∨
      table.lookup path = none ∧ ∀ g ∈ table.groups, ¬g.Takes path := by
  unfold lookup
  cases hfind : table.groups.find? (·.uri = path) with
  | some g =>
    have huri : g.uri = path := by simpa using List.find?_some hfind
    refine Or.inl ⟨g, rfl, List.mem_of_find?_eq_some hfind, Or.inl huri, ?_⟩
    intro other _ hother
    rw [huri]
    exact size_le_of_begins hother.begins
  | none =>
    have hexact : ∀ g ∈ table.groups, g.uri ≠ path := by simpa using hfind
    have htakes : ∀ g ∈ table.groups, g.Takes path → g ∈ table.groups.filter (·.holds path) := by
      rintro g hg (huri | hholds)
      · exact absurd huri (hexact g hg)
      · exact List.mem_filter.mpr ⟨hg, hholds⟩
    by_cases hnil : table.groups.filter (·.holds path) = []
    · refine Or.inr ⟨by rw [hnil]; rfl, ?_⟩
      intro g hg hpath
      simpa [hnil] using htakes g hg hpath
    · obtain ⟨g, hg, hfold, hlongest⟩ := foldl_longer hnil
      obtain ⟨hmem, hholds⟩ := List.mem_filter.mp hg
      exact Or.inl ⟨g, hfold, hmem, Or.inr hholds, fun other hother hpath =>
        hlongest other (htakes other hother hpath)⟩

theorem lookup_eq_some {table : RouteTable α} (h : table.Distinct) {path : String} {g : RouteGroup α} :
    table.lookup path = some g ↔ table.IsLongest path g := by
  rcases table.lookup_cases path with ⟨found, hlookup, hfound⟩ | ⟨hlookup, hnone⟩
  · rw [hlookup, Option.some.injEq]
    constructor
    · rintro rfl
      exact hfound
    · exact fun hg => hfound.unique h hg
  · rw [hlookup]
    constructor
    · intro hg
      cases hg
    · exact fun hg => absurd hg.takes (hnone g hg.mem)

theorem mem_of_lookup {table : RouteTable α} {path : String} {g : RouteGroup α}
    (h : table.lookup path = some g) : g ∈ table.groups := by
  rcases table.lookup_cases path with ⟨found, hlookup, hfound⟩ | ⟨hlookup, -⟩
  · rw [hlookup] at h
    cases h
    exact hfound.mem
  · rw [hlookup] at h
    cases h

theorem lookup_congr {a b : RouteTable α} (ha : a.Distinct) (hb : b.Distinct)
    (h : ∀ g, g ∈ a.groups ↔ g ∈ b.groups) (path : String) : a.lookup path = b.lookup path := by
  have hlongest : ∀ g, a.IsLongest path g ↔ b.IsLongest path g := by
    intro g
    constructor
    · rintro ⟨hmem, htakes, hlongest⟩
      exact ⟨(h g).mp hmem, htakes, fun other hother => hlongest other ((h other).mpr hother)⟩
    · rintro ⟨hmem, htakes, hlongest⟩
      exact ⟨(h g).mpr hmem, htakes, fun other hother => hlongest other ((h other).mp hother)⟩
  apply Option.ext
  intro g
  rw [lookup_eq_some ha, lookup_eq_some hb, hlongest]

/-! ## The longest match -/

/-- A URI matches a path if it is the path, or if it ends in a slash and the path begins with it. -/
def Matches (uri path : String) : Prop :=
  uri = path ∨ (∃ stem, uri = stem ++ "/") ∧ ∃ rest, path = uri ++ rest

theorem isSubtree_iff {g : RouteGroup α} : g.isSubtree ↔ ∃ stem, g.uri = stem ++ "/" := by
  rw [RouteGroup.isSubtree, decide_eq_true_iff, List.getLast?_eq_some_iff]
  constructor
  · rintro ⟨stem, hstem⟩
    refine ⟨String.ofList stem, ?_⟩
    rw [← String.toList_inj, String.toList_append, String.toList_ofList, hstem]
    rfl
  · rintro ⟨stem, hstem⟩
    exact ⟨stem.toList, by rw [hstem, String.toList_append]; rfl⟩

theorem begins_iff {short long : String} :
    short.toList.isPrefixOf long.toList ↔ ∃ rest, long = short ++ rest := by
  rw [List.isPrefixOf_iff_prefix]
  constructor
  · exact exists_append_of_begins
  · rintro ⟨rest, rfl⟩
    rw [String.toList_append]
    exact List.prefix_append _ _

theorem takes_iff {g : RouteGroup α} {path : String} : g.Takes path ↔ Matches g.uri path := by
  rw [RouteGroup.Takes, RouteGroup.holds, Bool.and_eq_true, isSubtree_iff, begins_iff, Matches]

theorem isLongest_iff {table : RouteTable α} (h : table.Distinct) {path : String} {g : RouteGroup α} :
    table.IsLongest path g ↔ g ∈ table.groups ∧ Matches g.uri path ∧
      ∀ other ∈ table.groups, Matches other.uri path → other ≠ g →
        other.uri.utf8ByteSize < g.uri.utf8ByteSize := by
  constructor
  · rintro ⟨hg, htakes, hlongest⟩
    refine ⟨hg, takes_iff.mp htakes, ?_⟩
    intro other hother hmatches hne
    have hother_takes := takes_iff.mpr hmatches
    refine Nat.lt_of_le_of_ne (hlongest other hother hother_takes) fun hsize => hne ?_
    exact List.inj_on_of_nodup_map h hother hg (hother_takes.uri_eq htakes hsize)
  · rintro ⟨hg, hmatches, hlongest⟩
    refine ⟨hg, takes_iff.mpr hmatches, ?_⟩
    intro other hother htakes
    by_cases hsame : other = g
    · exact Nat.le_of_eq (by rw [hsame])
    · exact Nat.le_of_lt (hlongest other hother (takes_iff.mp htakes) hsame)

/-- Where no URI is the path, the first hit among the subtrees is the right one if long URIs come first. -/
theorem lookup_eq_find? {table : RouteTable α} (h : table.Distinct) {path : String}
    (hexact : table.groups.find? (·.uri = path) = none) {roots : List (RouteGroup α)}
    (hroots : roots ~ table.groups.filter (·.isSubtree))
    (hsorted : roots.Pairwise fun a b => b.uri.utf8ByteSize ≤ a.uri.utf8ByteSize) :
    table.lookup path = roots.find? fun g => g.uri.toList.isPrefixOf path.toList := by
  have hmem : ∀ g, g ∈ roots ↔ g ∈ table.groups ∧ g.isSubtree := by
    intro g
    rw [hroots.mem_iff, List.mem_filter]
  have hother : ∀ g ∈ table.groups, g.Takes path → g ∈ roots ∧ g.uri.toList.isPrefixOf path.toList := by
    rintro g hg (huri | hholds)
    · simpa [huri] using List.find?_eq_none.mp hexact g hg
    · rw [RouteGroup.holds, Bool.and_eq_true] at hholds
      exact ⟨(hmem g).mpr ⟨hg, hholds.1⟩, hholds.2⟩
  cases hfind : roots.find? fun g => g.uri.toList.isPrefixOf path.toList with
  | none =>
    rcases table.lookup_cases path with ⟨g, -, hg⟩ | ⟨hlookup, -⟩
    · obtain ⟨hroot, hbegins⟩ := hother g hg.mem hg.takes
      exact absurd hbegins (List.find?_eq_none.mp hfind g hroot)
    · exact hlookup
  | some g =>
    obtain ⟨hbegins, before, after, hsplit, hbefore⟩ := List.find?_eq_some_iff_append.mp hfind
    obtain ⟨hg, hsubtree⟩ := (hmem g).mp (List.mem_of_find?_eq_some hfind)
    refine (lookup_eq_some h).mpr ⟨hg, Or.inr ?_, ?_⟩
    · rw [RouteGroup.holds, hsubtree, hbegins]
      rfl
    · intro other hmemother htakes
      obtain ⟨hroot, hbegun⟩ := hother other hmemother htakes
      rw [hsplit] at hroot hsorted
      -- What stands before the first hit does not begin the path, and what stands behind it is not longer.
      rcases List.mem_append.mp hroot with hroot | hroot
      · have hpassed := hbefore other hroot
        rw [hbegun] at hpassed
        cases hpassed
      · rcases List.mem_cons.mp hroot with rfl | hroot
        · exact Nat.le_refl _
        · exact (List.pairwise_cons.mp (List.pairwise_append.mp hsorted).2.1).1 other hroot

/-- A lookup gives the group with the longest URI that matches the path, which is the only one of that length. -/
structure LongestMatch (table : RouteTable α) (path : String) : Prop where
  none_iff : table.lookup path = none ↔ ∀ g ∈ table.groups, ¬Matches g.uri path
  some_iff : ∀ g, table.lookup path = some g ↔ g ∈ table.groups ∧ Matches g.uri path ∧
    ∀ other ∈ table.groups, Matches other.uri path → other ≠ g → other.uri.utf8ByteSize < g.uri.utf8ByteSize
  /-- It is enough to look for the path itself, and then through the subtrees in an order that has long URIs first. -/
  scanned : ∀ roots, roots ~ table.groups.filter (·.isSubtree) →
    roots.Pairwise (fun a b => b.uri.utf8ByteSize ≤ a.uri.utf8ByteSize) →
    table.lookup path = (table.groups.find? (·.uri = path)).or
      (roots.find? fun g => g.uri.toList.isPrefixOf path.toList)
  own : ∀ g ∈ table.groups, table.lookup g.uri = some g

theorem longestMatch_of_build {routes : List (Route α)} {table : RouteTable α} (h : build routes = .ok table)
    (path : String) : LongestMatch table path := by
  have hdistinct := distinct_of_build h
  constructor
  case none_iff =>
    rcases table.lookup_cases path with ⟨g, hlookup, hg⟩ | ⟨hlookup, hnone⟩
    · have hmatches := takes_iff.mp hg.takes
      simp only [hlookup, reduceCtorEq, false_iff]
      exact fun hnone => hnone g hg.mem hmatches
    · exact iff_of_true hlookup fun g hg hmatches => hnone g hg (takes_iff.mpr hmatches)
  case some_iff =>
    intro g
    rw [lookup_eq_some hdistinct, isLongest_iff hdistinct]
  case scanned =>
    intro roots hroots hsorted
    cases hexact : table.groups.find? (·.uri = path) with
    | some g => rw [lookup, hexact, Option.some_or]
    | none => rw [lookup_eq_find? hdistinct hexact hroots hsorted, Option.none_or]
  case own =>
    intro g hg
    refine (lookup_eq_some hdistinct).mpr ⟨hg, Or.inl rfl, fun other _ htakes => ?_⟩
    exact size_le_of_begins htakes.begins

def nested : List (Route Nat) := [
  { name := "root", uri := "/", guard := .always, target := 0 },
  { name := "health", uri := "/api/health", guard := .always, target := 1 },
  { name := "api", uri := "/api/", guard := .parse "x=1", target := 2 },
  { name := "rest", uri := "/api/", guard := .always, target := 3 }]

theorem longestMatch_of_build_nested :
    ∃ table, build nested = .ok table ∧ LongestMatch table "/api/health/deep" ∧
      (table.lookup "/api/health/deep").map (·.uri) = some "/api/" :=
  ⟨_, rfl, @longestMatch_of_build _ nested _ rfl _, by decide⟩

end RouteTable

end ReverseProxy
