import Mathlib.Logic.Relation
import ReverseProxy.Config.Load
import ReverseProxy.Proofs.Config.Members
import ReverseProxy.Proofs.Json.Words

/-! # Edits of a document that do not change what it configures -/

namespace ReverseProxy

open Json

variable {σ α : Type} {shape : Shape σ}

/-! ## Edits -/

/--
An edit of a record. A field of the name in `within` may be edited as `within` tells, whether the record is
written as an object or as an array.
-/
inductive Shape.Edit (shape : Shape σ) (within : String → Node → Node → Prop) : Node → Node → Prop where
  /-- A member that is no field comes in, with any value. -/
  | insert {before after : List (Node × Node)} {key : String} {value : Node}
      (hkey : key ∉ shape.fields.map (·.name)) (hvalue : IsValue value) :
    Edit shape within (.mapping (before ++ after) true) (.mapping (before ++ (.text key, value) :: after) true)
  | permute {members reordered : List (Node × Node)} (h : members.Perm reordered) :
    Edit shape within (.mapping members true) (.mapping reordered true)
  /-- A member goes whose field may be left out and would have the same value then. -/
  | delete {before after : List (Node × Node)} {f : Field σ} {value : Node} (hf : f ∈ shape.fields)
      (hdefault : f.required = false) (hvalue : f.read value shape.blank = .ok shape.blank) :
    Edit shape within (.mapping (before ++ (.text f.name, value) :: after) true) (.mapping (before ++ after) true)
  /-- An object of all fields and nothing else becomes the array of their values. -/
  | list {members : List (Node × Node)} {values : List Node} (hlength : values.length = shape.fields.length)
      (h : members.Perm ((shape.fields.map fun f => .text f.name).zip values)) :
    Edit shape within (.mapping members true) (.sequence values true)
  | member {before after : List (Node × Node)} {key : String} {value value' : Node} (h : within key value value') :
    Edit shape within (.mapping (before ++ (.text key, value) :: after) true)
      (.mapping (before ++ (.text key, value') :: after) true)
  | item {before after : List Node} {f : Field σ} {value value' : Node}
      (hf : shape.fields[before.length]? = some f) (h : within f.name value value') :
    Edit shape within (.sequence (before ++ value :: after) true) (.sequence (before ++ value' :: after) true)

inductive ItemEdit (edit : Node → Node → Prop) : Node → Node → Prop where
  | item {before after : List Node} {value value' : Node} (h : edit value value') :
    ItemEdit edit (.sequence (before ++ value :: after) true) (.sequence (before ++ value' :: after) true)

/-- A record that no other record stands in. -/
def Shape.FlatEdit (shape : Shape σ) : Node → Node → Prop := shape.Edit fun _ _ _ => False

/-- In a server only its own health check can be edited further. -/
inductive Server.Within : String → Node → Node → Prop where
  | healthCheck {node node' : Node} (h : (HealthCheck.shape .json).FlatEdit node node') :
    Within "health_check" node node'

def Server.Edit : Node → Node → Prop := (Server.shape .json).Edit Server.Within

inductive Config.Within : String → Node → Node → Prop where
  | listeners {node node' : Node} (h : ItemEdit Listener.shape.FlatEdit node node') : Within "listeners" node node'
  | routes {node node' : Node} (h : ItemEdit RouteSpec.shape.FlatEdit node node') : Within "routes" node node'
  | backends {node node' : Node} (h : ItemEdit (BackendSpec.shape .json).FlatEdit node node') :
    Within "backends" node node'
  | servers {node node' : Node} (h : ItemEdit Server.Edit node node') : Within "servers" node node'
  | healthCheck {node node' : Node} (h : (HealthCheck.shape .json).FlatEdit node node') :
    Within "health_check" node node'
  | timeouts {node node' : Node} (h : Timeouts.shape.FlatEdit node node') : Within "timeouts" node node'
  | locality {node node' : Node} (h : LocalitySpec.shape.FlatEdit node node') : Within "locality" node node'
  | observability {node node' : Node} (h : (Observability.shape .json).FlatEdit node node') :
    Within "observability" node node'

/-- An edit of one record of a configuration, at any depth. -/
def Config.Edit : Node → Node → Prop := (Config.shape .json).Edit Config.Within

/-- The second text writes what becomes of the first by any number of edits. -/
def Config.Rewording (text text' : String) : Prop :=
  ∃ node, Relation.ReflTransGen Config.Edit (Document.ofText text).root node ∧
    Token.scan text'.toList = words node

/-! ## What is read from an edited record -/

/-- Whatever is read before an edit is read after it. -/
def Respects (reads : Node → Decoded α) (edit : Node → Node → Prop) : Prop :=
  ∀ node node' a, edit node node' → reads node = .ok a → reads node' = .ok a

theorem ItemEdit.respects {edit : Node → Node → Prop} {reads : Node → Decoded α} (h : Respects reads edit) :
    Respects (Node.readList reads) (ItemEdit edit) := by
  intro node node' as hedit hread
  cases hedit with
  | item hvalue =>
    obtain ⟨items, hitems, hread⟩ := bind_eq_ok.mp hread
    exact bind_eq_ok.mpr ⟨items, mapM_replace (fun a => h _ _ a hvalue) hitems, hread⟩

/-- A field reads the same from what stands for it before and after an edit. -/
def Shape.RespectsWithin (shape : Shape σ) (within : String → Node → Node → Prop) : Prop :=
  ∀ key node node', within key node node' → ∃ f, shape.field? key = some f ∧
    ∀ a, f.reads node = .ok a → f.reads node' = .ok a

namespace Shape

variable {within : String → Node → Node → Prop} {closed : Bool}

theorem readItems_of_reads {fields : List (Field σ)} (hfields : ∀ f ∈ fields, f ∈ shape.fields)
    {values : List Node} (hlength : values.length = fields.length) {puts : List (String × (σ → σ))}
    (h : shape.Reads ((fields.map fun f => .text f.name).zip values) puts) (count : Nat) (value : σ) :
    shape.readItems closed fields values count value = .ok (applied puts value, []) := by
  induction fields generalizing values puts count value with
  | nil =>
    obtain rfl := List.eq_nil_of_length_eq_zero hlength
    cases h
    rfl
  | cons f fields ih =>
    obtain ⟨hf, hfields⟩ := List.forall_mem_cons.mp hfields
    obtain ⟨node, values, rfl⟩ := List.exists_cons_of_length_eq_add_one hlength
    have hfield := field?_of_mem hf
    cases h with
    | unknown hunknown =>
      rw [hfield] at hunknown
      cases hunknown
    | @known _ _ _ put _ puts hknown hput h =>
      rw [hfield] at hknown
      cases hknown
      refine bind_eq_ok.mpr ⟨put value, hput.read value, ?_⟩
      exact ih hfields (by simpa using hlength) h (count + 1) (put value)

theorem readItems_replace {fields : List (Field σ)} {before after : List Node} {node node' : Node} {f : Field σ}
    (hf : fields[before.length]? = some f)
    (hsame : ∀ a, f.reads node = .ok a → f.reads node' = .ok a) {count : Nat} {value : σ}
    {result : σ × List Node} (h : shape.readItems closed fields (before ++ node :: after) count value = .ok result) :
    shape.readItems closed fields (before ++ node' :: after) count value = .ok result := by
  induction before generalizing fields count value with
  | nil =>
    cases fields with
    | nil => cases hf
    | cons g fields =>
      cases hf
      obtain ⟨put, hput, hrest⟩ := bind_eq_ok.mp h
      exact bind_eq_ok.mpr ⟨put, Field.read_congr hsame hput, hrest⟩
  | cons b before ih =>
    cases fields with
    | nil => cases hf
    | cons g fields =>
      obtain ⟨put, hput, hrest⟩ := bind_eq_ok.mp h
      exact bind_eq_ok.mpr ⟨put, hput, ih hf hrest⟩

theorem Edit.respects (hwithin : shape.RespectsWithin within) :
    Respects (shape.read .json) (shape.Edit within) := by
  intro node node' value hedit hread
  cases hedit with
  | @insert _ _ key _ hkey hvalue =>
    have hfield : shape.field? key = none := by
      refine List.find?_eq_none.mpr ?_
      intro f hf hname
      exact hkey (List.mem_map.mpr ⟨f, hf, by simpa using hname⟩)
    exact read_insert hfield hvalue.isWhole hread
  | permute h => exact read_perm h hread
  | delete hf hdefault hvalue => exact read_delete hf hdefault hvalue hread
  | @list _ values hlength h =>
    obtain ⟨-, puts, hreads, -, -, hvalue⟩ := read_mapping.mp (read_perm h hread)
    refine bind_eq_ok.mpr ⟨_, readItems_of_reads (fun _ hf => hf) hlength hreads 0 shape.blank, ?_⟩
    rw [hvalue]
    rfl
  | member h =>
    obtain ⟨f, hfield, hsame⟩ := hwithin _ _ _ h
    exact read_replace hfield hsame hread
  | item hf h =>
    obtain ⟨g, hfield, hsame⟩ := hwithin _ _ _ h
    rw [field?_of_mem (List.mem_of_getElem? hf)] at hfield
    cases hfield
    obtain ⟨result, hitems, hread⟩ := bind_eq_ok.mp hread
    exact bind_eq_ok.mpr ⟨result, readItems_replace hf hsame hitems, hread⟩

theorem FlatEdit.respects : Respects (shape.read .json) shape.FlatEdit :=
  Edit.respects fun _ _ _ h => h.elim

end Shape

theorem readOption_of_ne_null {reads : Node → Decoded α} {node : Node} (h : node ≠ .null) :
    Node.readOption reads node = do return some (← reads node) := by
  cases node <;> first | exact (h rfl).elim | rfl

/-- A record is never `null`, so that it stays there if it may be left out. -/
theorem Shape.Edit.respects_option {within : String → Node → Node → Prop}
    (h : Respects (shape.read .json) (shape.Edit within)) :
    Respects (Node.readOption (shape.read .json)) (shape.Edit within) := by
  intro node node' value hedit hread
  have hnull : node ≠ .null ∧ node' ≠ .null := by cases hedit <;> exact ⟨nofun, nofun⟩
  rw [readOption_of_ne_null hnull.1] at hread
  rw [readOption_of_ne_null hnull.2]
  obtain ⟨a, ha, hread⟩ := bind_eq_ok.mp hread
  exact bind_eq_ok.mpr ⟨a, h node node' a hedit ha, hread⟩

/-! ## The records of a configuration -/

open Shape (FlatEdit.respects)

theorem Server.respects : Respects ((Server.shape .json).read .json) Server.Edit := by
  refine Shape.Edit.respects ?_
  intro key node node' h
  cases h with
  | healthCheck h => exact ⟨_, rfl, fun a => Shape.Edit.respects_option FlatEdit.respects _ _ a h⟩

theorem Config.respects : Respects (Config.ofNode .json) Config.Edit := by
  refine Shape.Edit.respects ?_
  intro key node node' h
  cases h with
  | listeners h | routes h | backends h => exact ⟨_, rfl, fun a => ItemEdit.respects FlatEdit.respects _ _ a h⟩
  | servers h => exact ⟨_, rfl, fun a => ItemEdit.respects Server.respects _ _ a h⟩
  | healthCheck h | timeouts h | locality h | observability h =>
    exact ⟨_, rfl, fun a => FlatEdit.respects _ _ a h⟩

/-! ## Edited documents are documents -/

def KeepsForm (edit : Node → Node → Prop) : Prop := ∀ node node', edit node node' → IsValue node → IsValue node'

theorem ItemEdit.keepsForm {edit : Node → Node → Prop} (h : KeepsForm edit) : KeepsForm (ItemEdit edit) := by
  intro node node' hedit hnode
  cases hedit with
  | item hvalue =>
    simp only [wellFormed_sequence_iff, List.forall_mem_append, List.forall_mem_cons] at hnode ⊢
    exact ⟨hnode.1, h _ _ hvalue hnode.2.1, hnode.2.2⟩

theorem Shape.Edit.keepsForm {within : String → Node → Node → Prop} (hwithin : ∀ key, KeepsForm (within key)) :
    KeepsForm (shape.Edit within) := by
  intro node node' hedit hnode
  cases hedit with
  | insert hkey hvalue =>
    simp only [isValue_mapping_iff, List.forall_mem_append, List.forall_mem_cons] at hnode ⊢
    exact ⟨hnode.1, ⟨rfl, hvalue⟩, hnode.2⟩
  | permute h =>
    rw [isValue_mapping_iff] at *
    exact fun m hm => hnode m (h.mem_iff.mpr hm)
  | delete =>
    simp only [isValue_mapping_iff, List.forall_mem_append, List.forall_mem_cons] at hnode ⊢
    exact ⟨hnode.1, hnode.2.2⟩
  | @list members values hlength h =>
    rw [isValue_mapping_iff] at hnode
    refine wellFormed_sequence_iff.mpr ?_
    intro value hvalue
    have hzip : value ∈ ((shape.fields.map fun f => Node.text f.name).zip values).map (·.2) := by
      rw [← List.unzip_snd, List.unzip_zip_right (by simp [hlength])]
      exact hvalue
    obtain ⟨m, hm, rfl⟩ := List.mem_map.mp hzip
    exact (hnode m (h.mem_iff.mpr hm)).2
  | member h =>
    simp only [isValue_mapping_iff, List.forall_mem_append, List.forall_mem_cons] at hnode ⊢
    exact ⟨hnode.1, ⟨hnode.2.1.1, hwithin _ _ _ h hnode.2.1.2⟩, hnode.2.2⟩
  | item _ h =>
    simp only [wellFormed_sequence_iff, List.forall_mem_append, List.forall_mem_cons] at hnode ⊢
    exact ⟨hnode.1, hwithin _ _ _ h hnode.2.1, hnode.2.2⟩

theorem Shape.FlatEdit.keepsForm : KeepsForm shape.FlatEdit := Shape.Edit.keepsForm fun _ _ _ h => h.elim

theorem Server.Edit.keepsForm : KeepsForm Server.Edit := by
  refine Shape.Edit.keepsForm ?_
  intro key node node' h
  cases h with
  | healthCheck h => exact Shape.FlatEdit.keepsForm node node' h

theorem Config.Edit.keepsForm : KeepsForm Config.Edit := by
  refine Shape.Edit.keepsForm ?_
  intro key node node' h
  cases h with
  | listeners h | routes h | backends h => exact ItemEdit.keepsForm Shape.FlatEdit.keepsForm node node' h
  | servers h => exact ItemEdit.keepsForm Server.Edit.keepsForm node node' h
  | healthCheck h | timeouts h | locality h | observability h => exact Shape.FlatEdit.keepsForm node node' h

/-! ## Texts -/

variable {config : Config} {text text' : String}

theorem Config.ofJson_eq_ok :
    Config.ofJson text = .ok config ↔
      Config.ofNode .json (Document.ofText text).root = .ok config ∧ (Document.ofText text).alone := by
  rw [Config.ofJson, bind_eq_ok]
  constructor
  · rintro ⟨found, hfound, h⟩
    split at h
    next halone =>
      cases h
      exact ⟨hfound, halone⟩
    next => cases h
  · rintro ⟨hnode, halone⟩
    exact ⟨config, hnode, if_pos halone⟩

/-- Edits make a document of a document, which is read as the same configuration. -/
theorem Config.edits_keep {node node' : Node} (hedits : Relation.ReflTransGen Config.Edit node node')
    (hnode : IsValue node) (hread : Config.ofNode .json node = .ok config) :
    IsValue node' ∧ Config.ofNode .json node' = .ok config := by
  induction hedits with
  | refl => exact ⟨hnode, hread⟩
  | tail _ hedit ih => exact ⟨Config.Edit.keepsForm _ _ hedit ih.1, Config.respects _ _ _ hedit ih.2⟩

theorem Config.Rewording.refl (h : Config.ofJson text = .ok config) : Config.Rewording text text :=
  ⟨_, .refl, (isValue_ofText (Config.ofJson_eq_ok.mp h).2).2⟩

theorem Config.Rewording.trans {text'' : String} (h : Config.ofJson text = .ok config)
    (hfirst : Config.Rewording text text') (hsecond : Config.Rewording text' text'') :
    Config.Rewording text text'' := by
  obtain ⟨node, hedits, hwords⟩ := hfirst
  obtain ⟨node', hedits', hwords'⟩ := hsecond
  obtain ⟨hroot, halone⟩ := Config.ofJson_eq_ok.mp h
  have hnode := Config.edits_keep hedits (isValue_ofText halone).1 hroot
  rw [ofText_of_words hnode.1 hwords] at hedits'
  exact ⟨node', hedits.trans hedits', hwords'⟩

/-- However often a document is edited in these ways, it configures the same. -/
theorem Config.ofJson_reworded (h : Config.ofJson text = .ok config) (hwords : Config.Rewording text text') :
    Config.ofJson text' = .ok config := by
  obtain ⟨node, hedits, hwords⟩ := hwords
  obtain ⟨hroot, halone⟩ := Config.ofJson_eq_ok.mp h
  have hnode := Config.edits_keep hedits (isValue_ofText halone).1 hroot
  refine Config.ofJson_eq_ok.mpr ?_
  rw [ofText_of_words hnode.1 hwords]
  exact ⟨hnode.2, rfl⟩

/-! ### One server -/

section

def Config.oneServer (check timeouts : Node) : List (Node × Node) :=
  [(.text "servers", Node.list [Node.record [("name", .text "s1"), ("address", .text "10.0.0.1:80"),
    ("health_check", check)]]), (.text "timeouts", timeouts)]

/-- The kind of the check is the default, and the timeouts stand in another order than they are declared. -/
def Config.spelledOut : Node :=
  .mapping (Config.oneServer (Node.record [("kind", .text "http-get"), ("interval_ms", .integer 5)])
    (Node.record [("idle_secs", .integer 3), ("connect_secs", .integer 1), ("request_secs", .integer 2)])) true

/-- The check has no kind but a note, the timeouts are an array, and they come first. -/
def Config.reworded : Node :=
  .mapping (Config.oneServer
    (Node.record [("interval_ms", .integer 5), ("note", Node.record [("kind", Node.list [.text "none", .null])])])
    (Node.list [.integer 1, .integer 2, .integer 3])).reverse true

variable {check check' timeouts timeouts' : Node}

theorem Config.edit_check (h : (HealthCheck.shape .json).FlatEdit check check') :
    Config.Edit (.mapping (Config.oneServer check timeouts) true)
      (.mapping (Config.oneServer check' timeouts) true) := by
  have hserver := @Shape.Edit.member _ (Server.shape .json) _
    [(.text "name", .text "s1"), (.text "address", .text "10.0.0.1:80")] [] _ _ _ (Server.Within.healthCheck h)
  have hservers := Config.Within.servers (@ItemEdit.item _ [] [] _ _ hserver)
  exact @Shape.Edit.member _ (Config.shape .json) _ [] [(.text "timeouts", timeouts)] _ _ _ hservers

theorem Config.edit_timeouts (h : Timeouts.shape.FlatEdit timeouts timeouts') :
    Config.Edit (.mapping (Config.oneServer check timeouts) true) (.mapping (Config.oneServer check timeouts') true) :=
  @Shape.Edit.member _ (Config.shape .json) _ [_] [] _ _ _ (Config.Within.timeouts h)

theorem Config.spelledOut_edits : Relation.ReflTransGen Config.Edit Config.spelledOut Config.reworded := by
  have hdelete : (HealthCheck.shape .json).FlatEdit
      (Node.record [("kind", .text "http-get"), ("interval_ms", .integer 5)])
      (Node.record [("interval_ms", .integer 5)]) :=
    @Shape.Edit.delete _ (HealthCheck.shape .json) _ [] _ _ (.text "http-get") List.mem_cons_self rfl rfl
  have hinsert : (HealthCheck.shape .json).FlatEdit (Node.record [("interval_ms", .integer 5)])
      (Node.record [("interval_ms", .integer 5),
        ("note", Node.record [("kind", Node.list [.text "none", .null])])]) := by
    refine @Shape.Edit.insert _ (HealthCheck.shape .json) _ [_] [] "note" _ (by decide) ?_
    simp [Node.record, Node.list, isValue_mapping_iff, wellFormed_sequence_iff, wellFormed_text_iff,
      wellFormed_null_iff, isKey]
  have hlist : Timeouts.shape.FlatEdit
      (Node.record [("idle_secs", .integer 3), ("connect_secs", .integer 1), ("request_secs", .integer 2)])
      (Node.list [.integer 1, .integer 2, .integer 3]) :=
    .list rfl (@List.perm_append_comm _ [_] _)
  exact .head (Config.edit_check hdelete) (.head (Config.edit_check hinsert)
    (.head (Config.edit_timeouts hlist) (.single (.permute (List.reverse_perm _).symm))))

theorem Config.ofJson_reworded_server :
    Config.Rewording (write Config.spelledOut) (write Config.reworded) ∧
      Config.ofJson (write Config.reworded) = .ok
        { servers := [{ name := "s1", address := "10.0.0.1:80", healthCheck := some { interval := 5 } }],
          timeouts := ⟨1, 2, 3⟩ } := by
  have hbefore : WellFormed Writable Config.spelledOut := by
    simp [Config.spelledOut, Config.oneServer, Node.record, Node.list, wellFormed_mapping_iff, wellFormed_sequence_iff,
      wellFormed_text_iff, wellFormed_integer_iff, isKey, Writable, InRange, maxCount]
  have hafter : WellFormed Writable Config.reworded := by
    simp [Config.reworded, Config.oneServer, Node.record, Node.list, wellFormed_mapping_iff, wellFormed_sequence_iff,
      wellFormed_null_iff, wellFormed_text_iff, wellFormed_integer_iff, isKey, Writable, InRange, maxCount]
  have hwords : Config.Rewording (write Config.spelledOut) (write Config.reworded) := by
    refine ⟨Config.reworded, ?_, scan_write hafter⟩
    rw [ofText_write hbefore]
    exact Config.spelledOut_edits
  have hread : Config.ofJson (write Config.spelledOut) = .ok
      { servers := [{ name := "s1", address := "10.0.0.1:80", healthCheck := some { interval := 5 } }],
        timeouts := ⟨1, 2, 3⟩ } := by
    rw [Config.ofJson, ofText_write hbefore]
    rfl
  exact ⟨hwords, Config.ofJson_reworded hread hwords⟩

end

end ReverseProxy
