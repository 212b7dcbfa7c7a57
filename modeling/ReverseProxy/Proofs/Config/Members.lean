import Mathlib.Data.List.Nodup
import Mathlib.Data.List.Pairwise
import Mathlib.Data.List.Perm.Basic
import ReverseProxy.Config.Decode
import ReverseProxy.Proofs.Except

/-! # Members of a record, one by one -/

namespace ReverseProxy

variable {σ : Type}

/-! ## Fields -/

namespace Field

/-- What the field does to a record when its value is read from the node. -/
def Puts (f : Field σ) (node : Node) (put : σ → σ) : Prop := ∃ a, f.reads node = .ok a ∧ f.set a = put

variable {f g : Field σ} {node other : Node} {put set : σ → σ}

theorem Puts.read (h : f.Puts node put) (value : σ) : f.read node value = .ok (put value) := by
  obtain ⟨a, ha, rfl⟩ := h
  exact bind_eq_ok.mpr ⟨a, ha, rfl⟩

theorem exists_puts {value after : σ} (h : f.read node value = .ok after) :
    ∃ put, f.Puts node put ∧ put value = after := by
  obtain ⟨a, ha, hafter⟩ := bind_eq_ok.mp h
  exact ⟨f.set a, ⟨a, ha, rfl⟩, Except.ok.inj hafter⟩

instance : Std.Symm (Commutes (σ := σ)) where
  symm _ _ h := fun a b value => (h b a value).symm

theorem Commutes.puts (h : f.Commutes g) (hput : f.Puts node put) (hset : g.Puts other set) (value : σ) :
    put (set value) = set (put value) := by
  obtain ⟨a, -, rfl⟩ := hput
  obtain ⟨b, -, rfl⟩ := hset
  exact h a b value

theorem read_congr (hsame : ∀ a, f.reads node = .ok a → f.reads other = .ok a) {value after : σ}
    (h : f.read node value = .ok after) : f.read other value = .ok after := by
  obtain ⟨a, ha, hafter⟩ := bind_eq_ok.mp h
  exact bind_eq_ok.mpr ⟨a, hsame a ha, hafter⟩

end Field

namespace Shape

variable {shape : Shape σ}

theorem field?_of_mem {f : Field σ} (hf : f ∈ shape.fields) :
    shape.field? f.name = some f := by
  have hsome : (shape.fields.find? (·.name = f.name)).isSome := by
    rw [List.find?_isSome]
    exact ⟨f, hf, by simp⟩
  obtain ⟨g, hg⟩ := Option.isSome_iff_exists.mp hsome
  have hname : g.name = f.name := by simpa using List.find?_some hg
  rw [field?, hg, List.inj_on_of_nodup_map shape.names (List.mem_of_find?_eq_some hg) hf hname]

theorem mem_of_field? {key : String} {f : Field σ} (h : shape.field? key = some f) :
    f ∈ shape.fields ∧ f.name = key :=
  ⟨List.mem_of_find?_eq_some h, by simpa using List.find?_some h⟩

/-! ## Members -/

/-- What the fields of some members do to a record, under their names. Other members are skipped. -/
inductive Reads (shape : Shape σ) : List (Node × Node) → List (String × (σ → σ)) → Prop where
  | nil : Reads shape [] []
  | known {key : String} {node : Node} {f : Field σ} {put : σ → σ} {members : List (Node × Node)}
      {puts : List (String × (σ → σ))} (hfield : shape.field? key = some f) (hput : f.Puts node put)
      (h : Reads shape members puts) : Reads shape ((.text key, node) :: members) ((key, put) :: puts)
  | unknown {key : String} {node : Node} {members : List (Node × Node)} {puts : List (String × (σ → σ))}
      (hfield : shape.field? key = none) (hwhole : node.isWhole) (h : Reads shape members puts) :
    Reads shape ((.text key, node) :: members) puts

def applied (puts : List (String × (σ → σ))) (value : σ) : σ := puts.foldl (fun value p => p.2 value) value

variable {members rest : List (Node × Node)} {puts more : List (String × (σ → σ))}

theorem ignore_eq_ok {node : Node} : node.ignore = .ok () ↔ node.isWhole := by
  unfold Node.ignore
  split <;> simp_all

theorem readMembers_of_reads (h : shape.Reads members puts) (hnodup : (puts.map (·.1)).Nodup)
    {seen : List String} (hseen : ∀ key ∈ puts.map (·.1), key ∉ seen) (value : σ) :
    shape.readMembers members seen value = .ok (applied puts value, (puts.map (·.1)).reverse ++ seen) := by
  induction h generalizing seen value with
  | nil => rfl
  | @known key node f put members puts hfield hput _ ih =>
    rw [List.map_cons, List.nodup_cons] at hnodup
    obtain ⟨hkey, hrest⟩ := List.forall_mem_cons.mp hseen
    rw [readMembers, hfield]
    dsimp only
    rw [if_neg hkey, hput.read value]
    refine (ih hnodup.2 ?_ (put value)).trans ?_
    · intro other hother hmem
      rcases List.mem_cons.mp hmem with rfl | hmem
      · exact hnodup.1 hother
      · exact hrest other hother hmem
    · simp [applied]
  | unknown hfield hwhole _ ih =>
    rw [readMembers, hfield]
    dsimp only
    rw [ignore_eq_ok.mpr hwhole]
    exact ih hnodup hseen value

theorem reads_of_readMembers {seen : List String} {value : σ} {result : σ × List String}
    (h : shape.readMembers members seen value = .ok result) :
    ∃ puts, shape.Reads members puts ∧ (puts.map (·.1)).Nodup ∧ (∀ key ∈ puts.map (·.1), key ∉ seen) ∧
      result = (applied puts value, (puts.map (·.1)).reverse ++ seen) := by
  induction members generalizing seen value with
  | nil =>
    cases h
    exact ⟨[], .nil, List.nodup_nil, nofun, rfl⟩
  | cons member members ih =>
    obtain ⟨key, node⟩ := member
    cases key with
    | text key =>
      rw [readMembers] at h
      cases hfield : shape.field? key with
      | none =>
        rw [hfield] at h
        obtain ⟨_, hignore, h⟩ := bind_eq_ok.mp h
        obtain ⟨puts, hreads, hrest⟩ := ih h
        exact ⟨puts, .unknown hfield (ignore_eq_ok.mp hignore) hreads, hrest⟩
      | some f =>
        rw [hfield] at h
        dsimp only at h
        split at h
        next => cases h
        next hkey =>
          obtain ⟨after, hread, h⟩ := bind_eq_ok.mp h
          obtain ⟨put, hput, rfl⟩ := Field.exists_puts hread
          obtain ⟨puts, hreads, hnodup, hseen, rfl⟩ := ih h
          have hnew : key ∉ puts.map (·.1) := fun hmem => hseen key hmem List.mem_cons_self
          refine ⟨(key, put) :: puts, .known hfield hput hreads, ?_, ?_, ?_⟩
          · exact List.nodup_cons.mpr ⟨hnew, hnodup⟩
          · refine List.forall_mem_cons.mpr ⟨hkey, ?_⟩
            exact fun other hother hmem => hseen other hother (List.mem_cons_of_mem key hmem)
          · simp [applied]
    | _ => cases h

theorem complete_eq_ok {seen : List String} {value after : σ} :
    shape.complete seen value = .ok after ↔
      (∀ f ∈ shape.fields, f.required → f.name ∈ seen) ∧ value = after := by
  unfold complete missing?
  cases hfind : shape.fields.find? fun f => f.required && !seen.contains f.name with
  | none =>
    have hall : ∀ f ∈ shape.fields, f.required → f.name ∈ seen := by
      simpa using hfind
    simp only [Option.map_none, Except.ok.injEq]
    exact ⟨fun hvalue => ⟨hall, hvalue⟩, And.right⟩
  | some f =>
    have hmissing : f.required ∧ f.name ∉ seen := by simpa using List.find?_some hfind
    simp only [Option.map_some, reduceCtorEq, false_iff]
    intro h
    exact hmissing.2 (h.1 f (List.mem_of_find?_eq_some hfind) hmissing.1)

/-- A mapping is the record that its members make, if nothing is missing from them. -/
theorem read_mapping {format : Format} {closed : Bool} {value : σ} :
    shape.read format (.mapping members closed) = .ok value ↔
      closed ∧ ∃ puts, shape.Reads members puts ∧ (puts.map (·.1)).Nodup ∧
        (∀ f ∈ shape.fields, f.required → f.name ∈ puts.map (·.1)) ∧ applied puts shape.blank = value := by
  rw [read]
  constructor
  · intro h
    obtain ⟨result, hmembers, h⟩ := bind_eq_ok.mp h
    obtain ⟨puts, hreads, hnodup, -, rfl⟩ := reads_of_readMembers hmembers
    obtain ⟨after, hafter, h⟩ := bind_eq_ok.mp h
    obtain ⟨hrequired, rfl⟩ := complete_eq_ok.mp h
    unfold Node.whenClosed at hafter
    split at hafter
    next hclosed =>
      cases hafter
      exact ⟨hclosed, puts, hreads, hnodup, by simpa using hrequired, rfl⟩
    next => cases hafter
  · rintro ⟨rfl, puts, hreads, hnodup, hrequired, rfl⟩
    refine bind_eq_ok.mpr ⟨_, readMembers_of_reads hreads hnodup (fun _ _ => List.not_mem_nil) _, ?_⟩
    refine bind_eq_ok.mpr ⟨_, rfl, ?_⟩
    exact complete_eq_ok.mpr ⟨by simpa using hrequired, rfl⟩

/-! ## Members in another order -/

theorem reads_append :
    shape.Reads (members ++ rest) puts ↔
      ∃ first second, puts = first ++ second ∧ shape.Reads members first ∧ shape.Reads rest second := by
  constructor
  · intro h
    induction members generalizing puts with
    | nil => exact ⟨[], puts, rfl, .nil, h⟩
    | cons member members ih =>
      cases h with
      | known hfield hput h =>
        obtain ⟨first, second, rfl, hfirst, hsecond⟩ := ih h
        exact ⟨_ :: first, second, rfl, .known hfield hput hfirst, hsecond⟩
      | unknown hfield hwhole h =>
        obtain ⟨first, second, rfl, hfirst, hsecond⟩ := ih h
        exact ⟨first, second, rfl, .unknown hfield hwhole hfirst, hsecond⟩
  · rintro ⟨first, second, rfl, hfirst, hsecond⟩
    induction hfirst with
    | nil => exact hsecond
    | known hfield hput _ ih => exact .known hfield hput ih
    | unknown hfield hwhole _ ih => exact .unknown hfield hwhole ih

theorem Reads.perm (h : shape.Reads members puts) (hperm : members.Perm rest) :
    ∃ more, puts.Perm more ∧ shape.Reads rest more := by
  induction hperm generalizing puts with
  | nil => exact ⟨puts, List.Perm.refl _, h⟩
  | cons member _ ih =>
    cases h with
    | known hfield hput h =>
      obtain ⟨more, hmore, hreads⟩ := ih h
      exact ⟨_ :: more, hmore.cons _, .known hfield hput hreads⟩
    | unknown hfield hwhole h =>
      obtain ⟨more, hmore, hreads⟩ := ih h
      exact ⟨more, hmore, .unknown hfield hwhole hreads⟩
  | swap a b members =>
    cases h with
    | known hfield hput h =>
      cases h with
      | known hfield' hput' h => exact ⟨_, List.Perm.swap _ _ _, .known hfield' hput' (.known hfield hput h)⟩
      | unknown hfield' hwhole' h => exact ⟨_, List.Perm.refl _, .unknown hfield' hwhole' (.known hfield hput h)⟩
    | unknown hfield hwhole h =>
      cases h with
      | known hfield' hput' h => exact ⟨_, List.Perm.refl _, .known hfield' hput' (.unknown hfield hwhole h)⟩
      | unknown hfield' hwhole' h =>
        exact ⟨_, List.Perm.refl _, .unknown hfield' hwhole' (.unknown hfield hwhole h)⟩
  | trans _ _ ih ih' =>
    obtain ⟨middle, hmiddle, hreads⟩ := ih h
    obtain ⟨more, hmore, hreads⟩ := ih' hreads
    exact ⟨more, hmiddle.trans hmore, hreads⟩

theorem Reads.exists_field (h : shape.Reads members puts) {p : String × (σ → σ)} (hp : p ∈ puts) :
    ∃ f node, shape.field? p.1 = some f ∧ f.Puts node p.2 := by
  induction h with
  | nil => cases hp
  | known hfield hput _ ih =>
    rcases List.mem_cons.mp hp with rfl | hp
    · exact ⟨_, _, hfield, hput⟩
    · exact ih hp
  | unknown _ _ _ ih => exact ih hp

/-- What fields do can be done in any order. -/
theorem Reads.applied_perm (h : shape.Reads members puts)
    (hnodup : (puts.map (·.1)).Nodup) (hperm : puts.Perm more) (value : σ) :
    applied puts value = applied more value := by
  refine hperm.foldl_eq' ?_ value
  intro p hp q hq value
  by_cases hsame : p = q
  · rw [hsame]
  · obtain ⟨f, node, hf, hput⟩ := h.exists_field hp
    obtain ⟨g, other, hg, hset⟩ := h.exists_field hq
    obtain ⟨hf, hfname⟩ := mem_of_field? hf
    obtain ⟨hg, hgname⟩ := mem_of_field? hg
    have hne : f ≠ g := by
      rintro rfl
      exact hsame (List.inj_on_of_nodup_map hnodup hp hq (hfname.symm.trans hgname))
    exact (shape.commutes.forall hg hf hne.symm).puts hset hput value

/-! ## Records whose members are edited -/

section

variable {format : Format} {before after : List (Node × Node)} {key : String} {node : Node} {closed : Bool}
  {value : σ}

theorem read_perm (hperm : members.Perm rest)
    (h : shape.read format (.mapping members closed) = .ok value) :
    shape.read format (.mapping rest closed) = .ok value := by
  obtain ⟨hclosed, puts, hreads, hnodup, hrequired, hvalue⟩ := read_mapping.mp h
  obtain ⟨more, hmore, hreads'⟩ := hreads.perm hperm
  have hnames : (puts.map (·.1)).Perm (more.map (·.1)) := hmore.map _
  refine read_mapping.mpr ⟨hclosed, more, hreads', hnames.nodup hnodup, ?_, ?_⟩
  · intro f hf hreq
    exact hnames.mem_iff.mp (hrequired f hf hreq)
  · rw [← hreads.applied_perm hnodup hmore]
    exact hvalue

/-- A member that no field reads makes no difference, if its value is a whole one. -/
theorem read_insert (hkey : shape.field? key = none) (hwhole : node.isWhole)
    (h : shape.read format (.mapping (before ++ after) closed) = .ok value) :
    shape.read format (.mapping (before ++ (.text key, node) :: after) closed) = .ok value := by
  obtain ⟨hclosed, puts, hreads, hrest⟩ := read_mapping.mp h
  obtain ⟨first, second, rfl, hfirst, hsecond⟩ := reads_append.mp hreads
  refine read_mapping.mpr ⟨hclosed, first ++ second, ?_, hrest⟩
  exact reads_append.mpr ⟨first, second, rfl, hfirst, .unknown hkey hwhole hsecond⟩

/-- Nor does a member whose field would have the same value without it. -/
theorem read_delete {f : Field σ} (hf : f ∈ shape.fields) (hdefault : f.required = false)
    (hnode : f.read node shape.blank = .ok shape.blank)
    (h : shape.read format (.mapping (before ++ (.text f.name, node) :: after) closed) = .ok value) :
    shape.read format (.mapping (before ++ after) closed) = .ok value := by
  -- its field is read first, where it leaves the blank record as it is
  have hfront := read_perm List.perm_middle h
  obtain ⟨hclosed, puts, hreads, hnodup, hrequired, hvalue⟩ := read_mapping.mp hfront
  cases hreads with
  | unknown hfield =>
    rw [field?_of_mem hf] at hfield
    cases hfield
  | @known _ _ f' put _ puts hfield hput hreads =>
    rw [field?_of_mem hf] at hfield
    cases hfield
    have hblank : put shape.blank = shape.blank := Except.ok.inj ((hput.read shape.blank).symm.trans hnode)
    refine read_mapping.mpr ⟨hclosed, puts, hreads, (List.nodup_cons.mp hnodup).2, ?_, ?_⟩
    · intro g hg hreq
      rcases List.mem_cons.mp (hrequired g hg hreq) with hname | hmem
      · rw [List.inj_on_of_nodup_map shape.names hg hf hname, hdefault] at hreq
        cases hreq
      · exact hmem
    · rw [← hvalue]
      exact congrArg (applied puts) hblank.symm

theorem read_replace {f : Field σ} {other : Node} (hfield : shape.field? key = some f)
    (hsame : ∀ a, f.reads node = .ok a → f.reads other = .ok a)
    (h : shape.read format (.mapping (before ++ (.text key, node) :: after) closed) = .ok value) :
    shape.read format (.mapping (before ++ (.text key, other) :: after) closed) = .ok value := by
  obtain ⟨hclosed, puts, hreads, hrest⟩ := read_mapping.mp h
  obtain ⟨first, second, rfl, hfirst, hsecond⟩ := reads_append.mp hreads
  refine read_mapping.mpr ⟨hclosed, _, reads_append.mpr ⟨first, second, rfl, hfirst, ?_⟩, hrest⟩
  cases hsecond with
  | unknown hunknown =>
    rw [hfield] at hunknown
    cases hunknown
  | known hknown hput hafter =>
    rw [hfield] at hknown
    cases hknown
    obtain ⟨a, ha, hset⟩ := hput
    exact .known hfield ⟨a, hsame a ha, hset⟩ hafter

end

end Shape

end ReverseProxy
