import ReverseProxy.Proofs.Config.Encoding
import ReverseProxy.Proofs.Toml.Document

/-! # A configuration that was written is read as it was -/

namespace ReverseProxy

variable {σ α : Type}

open Toml

/-! ## Values -/

/-- The numbers that a TOML integer can hold. -/
def Signed (n : UInt64) : Prop := n.toNat ≤ 0x7FFFFFFFFFFFFFFF

/-- A value that is there and can be written on a line. -/
structure Shown (depth : Nat) (node : Node) : Prop where
  notNull : node ≠ .null
  present : present node = node
  plain : Plain depth node

theorem shown_text (depth : Nat) (s : String) : Shown depth (.text s) := ⟨nofun, rfl, .text s⟩

theorem shown_count {n : UInt64} (h : Signed n) (depth : Nat) : Shown depth (ofCount n) :=
  ⟨nofun, rfl, .integer (Nat.lt_succ_of_le h)⟩

theorem shown_policy (depth : Nat) (policy : Policy) : Shown depth (nameIn Policy.names policy) := by
  cases policy <;> exact shown_text depth _

theorem shown_kind (depth : Nat) (kind : CheckKind) : Shown depth (nameIn CheckKind.names kind) := by
  cases kind <;> exact shown_text depth _

theorem shown_logFormat (depth : Nat) (logFormat : LogFormat) : Shown depth (nameIn LogFormat.names logFormat) := by
  cases logFormat <;> exact shown_text depth _

theorem presentItems_eq_map (items : List Node) : presentItems items = items.map present := by
  induction items with
  | nil => rfl
  | cons item items ih => rw [presentItems, ih, List.map_cons]

theorem shown_texts (depth : Nat) (texts : List String) : Shown (depth + 1) (ofTexts texts) := by
  refine ⟨nofun, ?_, .sequence ?_⟩
  · simp [ofTexts, Node.list, Toml.present, presentItems_eq_map, Function.comp_def]
  · intro item hitem
    obtain ⟨s, -, rfl⟩ := List.mem_map.mp hitem
    exact .text s

theorem presentMembers_append {depth : Nat} {pairs : List (String × Node)} (h : ∀ p ∈ pairs, Shown depth p.2)
    (rest : List (Node × Node)) : presentMembers (members pairs ++ rest) = members pairs ++ presentMembers rest := by
  induction pairs with
  | nil => rfl
  | cons p pairs ih =>
    obtain ⟨hp, h⟩ := List.forall_mem_cons.mp h
    have hrest := ih h
    simp only [members, List.map_cons, List.cons_append] at hrest ⊢
    rw [presentMembers, hp.present, hrest]
    exact hp.notNull

theorem present_record {depth : Nat} {pairs : List (String × Node)} (h : ∀ p ∈ pairs, Shown depth p.2) :
    present (Node.record pairs) = Node.record pairs := by
  have hmembers := presentMembers_append h []
  rw [List.append_nil, presentMembers, List.append_nil] at hmembers
  exact congrArg (Node.mapping · true) hmembers

theorem shown_record {depth : Nat} {pairs : List (String × Node)} (hkeys : ∀ p ∈ pairs, Bare p.1)
    (hnodup : (pairs.map (·.1)).Nodup) (h : ∀ p ∈ pairs, Shown depth p.2) :
    Shown (depth + 1) (Node.record pairs) :=
  ⟨nofun, present_record h, .mapping hkeys hnodup fun p hp => (h p hp).plain⟩

/-! ## Records -/

/-- What is left of a node is a table that can be written and is read as the value. -/
def Tabled (shape : Shape σ) (node : Node) (value : σ) : Prop :=
  ∃ pairs, present node = Node.record pairs ∧ Lines pairs ∧ shape.read .toml (Node.record pairs) = .ok value

theorem Tabled.of_shown {shape : Shape σ} {pairs : List (String × Node)} {value : σ} (hkeys : ∀ p ∈ pairs, Bare p.1)
    (hnodup : (pairs.map (·.1)).Nodup) (h : ∀ p ∈ pairs, Shown maxDepth p.2)
    (hread : shape.read .toml (Node.record pairs) = .ok value) : Tabled shape (Node.record pairs) value :=
  ⟨pairs, present_record h, ⟨hkeys, hnodup, fun p hp => (h p hp).plain⟩, hread⟩

theorem Listener.tabled (l : Listener) : Tabled Listener.shape l.toNode l :=
  .of_shown (by simp [Bare, isBare]) (by simp) (by simp [shown_text, shown_texts, maxDepth])
    (Listener.read_toNode .toml l)

theorem BackendSpec.tabled (b : BackendSpec) : Tabled (BackendSpec.shape .toml) b.toNode b :=
  .of_shown (by simp [Bare, isBare]) (by simp) (by simp [shown_text, shown_texts, shown_policy, maxDepth])
    (BackendSpec.read_toNode .toml b)

theorem Observability.tabled (o : Observability) : Tabled (Observability.shape .toml) o.toNode o :=
  .of_shown (by simp [Bare, isBare]) (by simp) (by simp [shown_text, shown_logFormat, maxDepth])
    (Observability.read_toNode .toml o)

theorem Timeouts.tabled {t : Timeouts} (h : Signed t.connect ∧ Signed t.request ∧ Signed t.idle) :
    Tabled Timeouts.shape t.toNode t :=
  .of_shown (by simp [Bare, isBare]) (by simp) (by simp [shown_count, h]) (Timeouts.read_toNode .toml t)

theorem HealthCheck.tabled {h : HealthCheck} (hsigned : Signed h.interval ∧ Signed h.timeout) :
    Tabled (HealthCheck.shape .toml) h.toNode h :=
  .of_shown (by simp [Bare, isBare]) (by simp) (by simp [shown_kind, shown_count, hsigned])
    (HealthCheck.read_toNode .toml h)

/-- A value that is not there goes, and its field has it by default. -/
theorem Tabled.of_null {shape : Shape σ} (pairs : List (String × Node)) (key : String)
    {f : Field σ} {value : σ} (hfield : shape.field? key = some f) (hdefault : f.required = false)
    (hblank : f.read .null shape.blank = .ok shape.blank) (hkeys : ∀ p ∈ pairs, Bare p.1)
    (hnodup : (pairs.map (·.1)).Nodup) (h : ∀ p ∈ pairs, Shown maxDepth p.2)
    (hread : shape.read .toml (Node.record (pairs ++ [(key, .null)])) = .ok value) :
    Tabled shape (Node.record (pairs ++ [(key, .null)])) value := by
  obtain ⟨hf, rfl⟩ := Shape.mem_of_field? hfield
  refine ⟨pairs, ?_, ⟨hkeys, hnodup, fun p hp => (h p hp).plain⟩, ?_⟩
  · rw [Node.record, List.map_append, present]
    refine congrArg (Node.mapping · true) ((presentMembers_append h _).trans ?_)
    rw [List.map_singleton, presentMembers, presentMembers, List.append_nil]
    rfl
  · rw [Node.record, List.map_append, List.map_singleton] at hread
    have hdelete := Shape.read_delete hf hdefault hblank hread
    rwa [List.append_nil] at hdelete

theorem RouteSpec.tabled (r : RouteSpec) : Tabled RouteSpec.shape r.toNode r := by
  obtain ⟨name, uri, backends, guard, plugins, adapter⟩ := r
  cases adapter with
  | none =>
    exact .of_null [("name", .text name), ("uri", .text uri), ("backends", ofTexts backends),
      ("guard", .text guard), ("plugins", ofTexts plugins)] "multi_backend_adapter" rfl rfl rfl
      (by simp [Bare, isBare]) (by simp) (by simp [shown_text, shown_texts, maxDepth])
      (RouteSpec.read_toNode .toml ⟨name, uri, backends, guard, plugins, none⟩)
  | some adapter =>
    exact .of_shown (by simp [Bare, isBare]) (by simp)
      (by simp [shown_text, shown_texts, ofOption, maxDepth]) (RouteSpec.read_toNode .toml _)

theorem LocalitySpec.tabled (l : LocalitySpec) : Tabled LocalitySpec.shape l.toNode l := by
  obtain ⟨hostname⟩ := l
  cases hostname with
  | none =>
    exact .of_null [] "hostname" rfl rfl rfl nofun List.nodup_nil nofun
      (LocalitySpec.read_toNode .toml ⟨none⟩)
  | some hostname =>
    exact .of_shown (by simp [Bare, isBare]) (by simp) (by simp [shown_text, ofOption])
      (LocalitySpec.read_toNode .toml _)

theorem Server.tabled {s : Server} (h : ∀ check ∈ s.healthCheck, Signed check.interval ∧ Signed check.timeout) :
    Tabled (Server.shape .toml) s.toNode s := by
  obtain ⟨name, address, pingUri, check⟩ := s
  cases check with
  | none =>
    exact .of_null [("name", .text name), ("address", .text address),
      ("ping_uri", .text pingUri)] "health_check" rfl rfl rfl (by simp [Bare, isBare]) (by simp)
      (by simp [shown_text]) (Server.read_toNode .toml ⟨name, address, pingUri, none⟩)
  | some check =>
    have hsigned := h check rfl
    have hcheck : Shown maxDepth check.toNode :=
      shown_record (by simp [Bare, isBare]) (by simp) (by simp [shown_kind, shown_count, hsigned])
    exact .of_shown (by simp [Bare, isBare]) (by simp) (by simp [shown_text, ofOption, hcheck])
      (Server.read_toNode .toml _)

/-! ## Members of the document -/

/-- What is left of a node can be written for a member of a document and is read as the value. -/
structure Carried (reads : Node → Decoded α) (node : Node) (value : α) : Prop where
  notNull : node ≠ .null
  placed : Placed (present node)
  read : reads (present node) = .ok value

theorem Tabled.carried {shape : Shape σ} {node : Node} {value : σ} (h : Tabled shape node value) :
    Carried (shape.read .toml) node value := by
  obtain ⟨pairs, hpresent, hlines, hread⟩ := h
  refine ⟨?_, ?_, ?_⟩
  · rintro rfl
    cases hpresent
  · rw [hpresent]
    exact .table hlines
  · rw [hpresent]
    exact hread

theorem exists_rows {shape : Shape σ} {node : σ → Node} {xs : List σ} (h : ∀ x ∈ xs, Tabled shape (node x) x) :
    ∃ rows : List (List (String × Node)), (xs.map node).map present = rows.map Node.record ∧
      (∀ row ∈ rows, Lines row) ∧ (rows.map Node.record).mapM (shape.read .toml) = .ok xs := by
  induction xs with
  | nil => exact ⟨[], rfl, nofun, rfl⟩
  | cons x xs ih =>
    obtain ⟨hx, h⟩ := List.forall_mem_cons.mp h
    obtain ⟨row, hpresent, hlines, hread⟩ := hx
    obtain ⟨rows, hrows, hall, hreads⟩ := ih h
    refine ⟨row :: rows, ?_, List.forall_mem_cons.mpr ⟨hlines, hall⟩, ?_⟩
    · rw [List.map_cons, List.map_cons, hpresent, hrows, List.map_cons]
    · rw [mapM_eq_ok] at *
      exact .cons hread hreads

theorem carried_list {shape : Shape σ} {node : σ → Node} (xs : List σ) (h : ∀ x ∈ xs, Tabled shape (node x) x) :
    Carried (Node.readList (shape.read .toml)) (Node.list (xs.map node)) xs := by
  obtain ⟨rows, hrows, hlines, hreads⟩ := exists_rows h
  have hpresent : present (Node.list (xs.map node)) = Node.list (rows.map Node.record) := by
    rw [Node.list, present, presentItems_eq_map, hrows]
    rfl
  refine ⟨by simp [Node.list], ?_, ?_⟩
  · rw [hpresent]
    cases rows with
    | nil => exact .line rfl (.sequence (List.forall_mem_nil _))
    | cons row rows =>
      obtain ⟨hrow, hrest⟩ := List.forall_mem_cons.mp hlines
      exact .tables hrow hrest
  · rw [hpresent]
    exact bind_eq_ok.mpr ⟨xs, hreads, rfl⟩

theorem present_pairs {pairs : List (String × Node)} (h : ∀ p ∈ pairs, p.2 ≠ .null) :
    present (Node.record pairs) = Node.record (pairs.map fun p => (p.1, present p.2)) := by
  have hmembers : presentMembers (members pairs) = members (pairs.map fun p => (p.1, present p.2)) := by
    induction pairs with
    | nil => rfl
    | cons p pairs ih =>
      obtain ⟨hp, h⟩ := List.forall_mem_cons.mp h
      have hrest := ih h
      simp only [members, List.map_cons] at hrest ⊢
      rw [presentMembers, hrest]
      exact hp
  exact congrArg (Node.mapping · true) hmembers

/-! ## Both loaders -/

def Config.numbers (c : Config) : List UInt64 :=
  [c.healthCheck.interval, c.healthCheck.timeout, c.timeouts.connect, c.timeouts.request, c.timeouts.idle] ++
    c.servers.flatMap fun s => s.healthCheck.toList.flatMap fun check => [check.interval, check.timeout]

theorem Config.ofToml_toToml {c : Config} (h : ∀ n ∈ c.numbers, Signed n) : Config.ofToml c.toToml = .ok c := by
  have hcheck : Signed c.healthCheck.interval ∧ Signed c.healthCheck.timeout :=
    ⟨h _ (by simp [Config.numbers]), h _ (by simp [Config.numbers])⟩
  have htimes : Signed c.timeouts.connect ∧ Signed c.timeouts.request ∧ Signed c.timeouts.idle :=
    ⟨h _ (by simp [Config.numbers]), h _ (by simp [Config.numbers]), h _ (by simp [Config.numbers])⟩
  have hserver : ∀ s ∈ c.servers, ∀ check ∈ s.healthCheck, Signed check.interval ∧ Signed check.timeout := by
    intro s hs check hcheck
    have hmem : ∀ n ∈ [check.interval, check.timeout], n ∈ c.numbers := by
      intro n hn
      refine List.mem_append_right _ (List.mem_flatMap.mpr ⟨s, hs, List.mem_flatMap.mpr ⟨check, ?_, hn⟩⟩)
      exact Option.mem_toList.mpr hcheck
    exact ⟨h _ (hmem _ (by simp)), h _ (hmem _ (by simp))⟩
  have listeners := carried_list c.listeners fun l _ => l.tabled
  have routes := carried_list c.routes fun r _ => r.tabled
  have backends := carried_list c.backends fun b _ => b.tabled
  have servers := carried_list c.servers fun s hs => Server.tabled (hserver s hs)
  have healthCheck := (HealthCheck.tabled hcheck).carried
  have timeouts := (Timeouts.tabled htimes).carried
  have locality := c.locality.tabled.carried
  have observability := c.observability.tabled.carried
  have hread := Config.ofNode_parts .toml c listeners.read routes.read backends.read servers.read healthCheck.read
    timeouts.read locality.read observability.read
  have hpresent : present c.toNode = Node.record [("listeners", present (Node.list (c.listeners.map Listener.toNode))),
      ("routes", present (Node.list (c.routes.map RouteSpec.toNode))),
      ("backends", present (Node.list (c.backends.map BackendSpec.toNode))),
      ("servers", present (Node.list (c.servers.map Server.toNode))), ("health_check", present c.healthCheck.toNode),
      ("timeouts", present c.timeouts.toNode), ("locality", present c.locality.toNode),
      ("observability", present c.observability.toNode)] := by
    refine present_pairs ?_
    simp only [List.forall_mem_cons]
    exact ⟨listeners.notNull, routes.notNull, backends.notNull, servers.notNull, healthCheck.notNull,
      timeouts.notNull, locality.notNull, observability.notNull, List.forall_mem_nil _⟩
  rw [Config.ofToml, Config.toToml, hpresent, document?_write]
  · exact Shape.read_perm (arranged_perm _).symm hread
  · simp [Bare, isBare]
  · simp
  · simp only [List.forall_mem_cons]
    exact ⟨listeners.placed, routes.placed, backends.placed, servers.placed, healthCheck.placed, timeouts.placed,
      locality.placed, observability.placed, List.forall_mem_nil _⟩

/--
A configuration that was written is read as it was, by one loader and, if its numbers have a sign bit to
spare, by the other.
-/
theorem Config.loaders_agree (c : Config) :
    Config.ofJson c.toJson = .ok c ∧ ((∀ n ∈ c.numbers, Signed n) → Config.ofToml c.toToml = .ok c) :=
  ⟨Config.ofJson_toJson c, Config.ofToml_toToml⟩

/-- Something in every list, options that are set and not set, and strings that need escapes. -/
def Config.motley : Config where
  listeners := [{ name := "a \"b\" \\ c", routes := ["r1", "r2"] }, {}]
  routes := [{ name := "r1", uri := "/\n\t", backends := ["b1"], adapter := some "" },
    { name := "r2", uri := "/é", backends := ["b1", "b2"], guard := "X=\x00\x7f" }]
  backends := [{ name := "b1", servers := ["s1", "s2"], policy := .preferLocal }, { name := "b2", servers := [] }]
  servers := [{ name := "s1", address := "10.0.0.1:80", healthCheck := some { kind := .none, interval := 0 } },
    { name := "s2", address := "10.0.0.2:80" }]
  timeouts := { connect := 0x7FFFFFFFFFFFFFFF }
  observability := { logFormat := .json }

theorem Config.loaders_agree_motley :
    (∀ n ∈ Config.motley.numbers, Signed n) ∧ Config.ofJson Config.motley.toJson = .ok Config.motley ∧
      Config.ofToml Config.motley.toToml = .ok Config.motley := by
  have hnumbers : ∀ n ∈ Config.motley.numbers, Signed n := by
    simp [Config.numbers, Config.motley, Signed]
  exact ⟨hnumbers, (Config.loaders_agree Config.motley).1, (Config.loaders_agree Config.motley).2 hnumbers⟩

end ReverseProxy
