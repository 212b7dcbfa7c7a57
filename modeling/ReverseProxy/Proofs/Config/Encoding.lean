import ReverseProxy.Config.Write
import ReverseProxy.Proofs.Config.Edits

/-! # The document of a configuration is read as the configuration -/

namespace ReverseProxy

variable {σ α : Type} (format : Format)

/-! ## Values -/

theorem readList_list {item : Node → Decoded α} {node : α → Node} {xs : List α} (h : ∀ x ∈ xs, item (node x) = .ok x) :
    (Node.list (xs.map node)).readList item = .ok xs := by
  have hitems : (xs.map node).mapM item = .ok xs := by
    rw [mapM_eq_ok, List.forall₂_map_left_iff, List.forall₂_same]
    exact h
  exact bind_eq_ok.mpr ⟨xs, hitems, rfl⟩

theorem readOption_option {item : Node → Decoded α} {node : α → Node} (h : ∀ a, item (node a) = .ok a)
    (hnull : ∀ a, node a ≠ .null) (o : Option α) : (ofOption node o).readOption item = .ok o := by
  cases o with
  | none => rfl
  | some a =>
    rw [ofOption, readOption_of_ne_null (hnull a), h a]
    rfl

theorem readOption_text (o : Option String) : (ofOption .text o).readOption Node.readText = .ok o := by
  refine readOption_option ?_ ?_ o
  · exact fun _ => rfl
  · exact fun _ => nofun

theorem readTexts (texts : List String) : (ofTexts texts).readList Node.readText = .ok texts :=
  readList_list fun _ _ => rfl

theorem readCount_ofCount (n : UInt64) : (ofCount n).readCount = .ok n := by
  have hlimit : n.toNat < 0x10000000000000000 := n.toNat_lt
  rw [ofCount, Node.readCount, if_neg (by omega), if_pos (by omega)]
  simp

theorem readPolicy (policy : Policy) : readChoice format Policy.names (nameIn Policy.names policy) = .ok policy := by
  cases format <;> cases policy <;> rfl

theorem readKind (kind : CheckKind) : readChoice format CheckKind.names (nameIn CheckKind.names kind) = .ok kind := by
  cases format <;> cases kind <;> rfl

theorem readLogFormat (logFormat : LogFormat) :
    readChoice format LogFormat.names (nameIn LogFormat.names logFormat) = .ok logFormat := by
  cases format <;> cases logFormat <;> rfl

/-! ## Records -/

namespace Shape

variable {shape : Shape σ}

theorem reads_of_readItems {fields : List (Field σ)}
    (hfields : ∀ f ∈ fields, f ∈ shape.fields) {pairs : List (String × Node)}
    (hnames : pairs.map (·.1) = fields.map (·.name)) {closed : Bool} {count : Nat} {value after : σ} {rest : List Node}
    (h : shape.readItems closed fields (pairs.map (·.2)) count value = .ok (after, rest)) :
    ∃ puts, shape.Reads (pairs.map fun p => (.text p.1, p.2)) puts ∧ puts.map (·.1) = fields.map (·.name) ∧
      applied puts value = after := by
  induction fields generalizing pairs count value with
  | nil =>
    obtain rfl := List.map_eq_nil_iff.mp hnames
    cases h
    exact ⟨[], .nil, rfl, rfl⟩
  | cons f fields ih =>
    obtain ⟨hf, hfields⟩ := List.forall_mem_cons.mp hfields
    cases pairs with
    | nil => cases hnames
    | cons p pairs =>
      rw [List.map_cons, List.map_cons, List.cons.injEq] at hnames
      obtain ⟨middle, hread, h⟩ := bind_eq_ok.mp h
      obtain ⟨put, hput, rfl⟩ := Field.exists_puts hread
      obtain ⟨puts, hreads, hkeys, happlied⟩ := ih hfields hnames.2 h
      have hfield : shape.field? p.1 = some f := by
        rw [hnames.1]
        exact field?_of_mem hf
      exact ⟨(p.1, put) :: puts, .known hfield hput hreads, by simp [hnames.1, hkeys], happlied⟩

/-- A record of all fields in order is read as the array of their values. -/
theorem read_record {pairs : List (String × Node)} {value : σ}
    (hnames : pairs.map (·.1) = shape.fields.map (·.name))
    (h : shape.readItems true shape.fields (pairs.map (·.2)) 0 shape.blank = .ok (value, [])) :
    shape.read format (Node.record pairs) = .ok value := by
  obtain ⟨puts, hreads, hkeys, rfl⟩ := reads_of_readItems (fun _ hf => hf) hnames h
  refine read_mapping.mpr ⟨rfl, puts, hreads, ?_, ?_, rfl⟩
  · rw [hkeys]
    exact shape.names
  · intro f hf _
    rw [hkeys]
    exact List.mem_map_of_mem hf

end Shape

theorem Listener.read_toNode (l : Listener) : Listener.shape.read format l.toNode = .ok l := by
  refine Shape.read_record format rfl ?_
  simp only [Listener.shape, Shape.readItems, Field.read, List.map_cons, readTexts]
  rfl

theorem RouteSpec.read_toNode (r : RouteSpec) : RouteSpec.shape.read format r.toNode = .ok r := by
  refine Shape.read_record format rfl ?_
  simp only [RouteSpec.shape, Shape.readItems, Field.read, List.map_cons, readTexts, readOption_text]
  rfl

theorem BackendSpec.read_toNode (b : BackendSpec) : (BackendSpec.shape format).read format b.toNode = .ok b := by
  refine Shape.read_record format rfl ?_
  simp only [BackendSpec.shape, Shape.readItems, Field.read, List.map_cons, readTexts, readPolicy]
  rfl

theorem HealthCheck.read_toNode (h : HealthCheck) : (HealthCheck.shape format).read format h.toNode = .ok h := by
  refine Shape.read_record format rfl ?_
  simp only [HealthCheck.shape, Shape.readItems, Field.read, List.map_cons, readKind, readCount_ofCount]
  rfl

theorem Server.read_toNode (s : Server) : (Server.shape format).read format s.toNode = .ok s := by
  have hcheck := readOption_option (HealthCheck.read_toNode format) (fun _ => nofun) s.healthCheck
  refine Shape.read_record format rfl ?_
  simp only [Server.shape, Shape.readItems, Field.read, List.map_cons, hcheck]
  rfl

theorem Timeouts.read_toNode (t : Timeouts) : Timeouts.shape.read format t.toNode = .ok t := by
  refine Shape.read_record format rfl ?_
  simp only [Timeouts.shape, Shape.readItems, Field.read, List.map_cons, readCount_ofCount]
  rfl

theorem LocalitySpec.read_toNode (l : LocalitySpec) : LocalitySpec.shape.read format l.toNode = .ok l := by
  refine Shape.read_record format rfl ?_
  simp only [LocalitySpec.shape, Shape.readItems, Field.read, List.map_cons, readOption_text]
  rfl

theorem Observability.read_toNode (o : Observability) :
    (Observability.shape format).read format o.toNode = .ok o := by
  refine Shape.read_record format rfl ?_
  simp only [Observability.shape, Shape.readItems, Field.read, List.map_cons, readLogFormat]
  rfl

theorem Config.ofNode_parts (c : Config) {listeners routes backends servers healthCheck timeouts locality
      observability : Node}
    (hlisteners : listeners.readList (Listener.shape.read format) = .ok c.listeners)
    (hroutes : routes.readList (RouteSpec.shape.read format) = .ok c.routes)
    (hbackends : backends.readList ((BackendSpec.shape format).read format) = .ok c.backends)
    (hservers : servers.readList ((Server.shape format).read format) = .ok c.servers)
    (hhealthCheck : (HealthCheck.shape format).read format healthCheck = .ok c.healthCheck)
    (htimeouts : Timeouts.shape.read format timeouts = .ok c.timeouts)
    (hlocality : LocalitySpec.shape.read format locality = .ok c.locality)
    (hobservability : (Observability.shape format).read format observability = .ok c.observability) :
    Config.ofNode format (Node.record [("listeners", listeners), ("routes", routes), ("backends", backends),
      ("servers", servers), ("health_check", healthCheck), ("timeouts", timeouts), ("locality", locality),
      ("observability", observability)]) = .ok c := by
  refine Shape.read_record format rfl ?_
  simp only [Config.shape, Shape.readItems, Field.read, List.map_cons, hlisteners, hroutes, hbackends, hservers,
    hhealthCheck, htimeouts, hlocality, hobservability]
  rfl

theorem Config.ofNode_toNode (c : Config) : Config.ofNode format c.toNode = .ok c :=
  Config.ofNode_parts format c (readList_list fun l _ => Listener.read_toNode format l)
    (readList_list fun r _ => RouteSpec.read_toNode format r)
    (readList_list fun b _ => BackendSpec.read_toNode format b)
    (readList_list fun s _ => Server.read_toNode format s) (HealthCheck.read_toNode format c.healthCheck)
    (Timeouts.read_toNode format c.timeouts) (LocalitySpec.read_toNode format c.locality)
    (Observability.read_toNode format c.observability)

/-! ## JSON -/

section

open Json

theorem wellFormed_text (s : String) : WellFormed Writable (.text s) := .atom rfl trivial

theorem wellFormed_texts (texts : List String) : WellFormed Writable (ofTexts texts) := by
  simp [ofTexts, wellFormed_list_iff, wellFormed_text]

theorem wellFormed_count (n : UInt64) : WellFormed Writable (ofCount n) := by
  have hlimit := n.toNat_lt
  have hrange : InRange n.toNat := by
    simp only [InRange, maxCount]
    omega
  exact .atom rfl hrange

theorem wellFormed_nameIn [DecidableEq α] (names : List (String × α)) (a : α) :
    WellFormed Writable (nameIn names a) := by
  unfold nameIn
  split <;> exact .atom rfl trivial

theorem wellFormed_option {node : α → Node} (h : ∀ a, WellFormed Writable (node a)) (o : Option α) :
    WellFormed Writable (ofOption node o) := by
  cases o with
  | none => exact .atom rfl trivial
  | some a => exact h a

theorem HealthCheck.wellFormed (h : HealthCheck) : WellFormed Writable h.toNode := by
  simp [HealthCheck.toNode, wellFormed_record_iff, wellFormed_nameIn, wellFormed_count]

theorem Config.wellFormed (c : Config) : WellFormed Writable c.toNode := by
  simp [Config.toNode, Listener.toNode, RouteSpec.toNode, BackendSpec.toNode, Server.toNode, Timeouts.toNode,
    LocalitySpec.toNode, Observability.toNode, wellFormed_record_iff, wellFormed_list_iff, wellFormed_text,
    wellFormed_texts, wellFormed_count, wellFormed_nameIn, wellFormed_option, HealthCheck.wellFormed]

/-- Any text with the words of the document will do, whatever its layout. -/
theorem Config.ofJson_of_words (c : Config) {text : String} (h : Token.scan text.toList = words c.toNode) :
    Config.ofJson text = .ok c := by
  refine Config.ofJson_eq_ok.mpr ?_
  rw [ofText_of_words c.wellFormed h]
  exact ⟨Config.ofNode_toNode .json c, rfl⟩

theorem Config.ofJson_toJson (c : Config) : Config.ofJson c.toJson = .ok c :=
  Config.ofJson_of_words c (scan_write c.wellFormed)

end

end ReverseProxy
