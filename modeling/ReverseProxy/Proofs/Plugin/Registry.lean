import Mathlib.Data.List.Forall2
import ReverseProxy.Plugin.Registry
import ReverseProxy.Proofs.Text.Bytes

/-! # First registrations

A registry answers from the registrations that were asked of it: of each name, the first counts. A copy starts
from those of its source.
-/

namespace ReverseProxy

theorem sort_strict {names : List String} (h : names.Nodup) :
    (names.mergeSort fun a b => decide (a ≤ b)).Pairwise (· < ·) := by
  have hsorted : (names.mergeSort fun a b => decide (a ≤ b)).Pairwise fun a b => decide (a ≤ b) := by
    apply List.pairwise_mergeSort
    · intro a b c hab hbc
      exact decide_eq_true (String.le_trans (of_decide_eq_true hab) (of_decide_eq_true hbc))
    · intro a b
      simpa using String.le_total a b
  have hnodup := (List.mergeSort_perm names fun a b => decide (a ≤ b)).nodup_iff.mpr h
  refine (hsorted.and hnodup).imp ?_
  rintro a b ⟨hle, hne⟩
  exact Std.lt_of_le_of_ne (of_decide_eq_true hle) hne

namespace Registry

variable {α : Type} {registry : Registry α} {name : String}

/-! ## One registry -/

theorem mem_of_get? {item : α} (h : registry.get? name = some item) : (name, item) ∈ registry.items := by
  obtain ⟨before, after, hitems, -⟩ := List.lookup_eq_some_iff.mp h
  simp [hitems]

theorem contains_iff : registry.contains name = true ↔ ∃ item, registry.get? name = some item :=
  Option.isSome_iff_exists

theorem mem_names : name ∈ registry.names ↔ ∃ item, registry.get? name = some item := by
  rw [names, List.mem_mergeSort, List.mem_map, ← Option.isSome_iff_exists, get?, List.lookup_isSome_iff]
  constructor
  · rintro ⟨entry, hmem, rfl⟩
    exact ⟨entry, hmem, beq_self_eq_true _⟩
  · rintro ⟨entry, hmem, hname⟩
    exact ⟨entry, hmem, (eq_of_beq hname).symm⟩

theorem names_ascending (h : (registry.items.map (·.1)).Nodup) :
    registry.names.Pairwise fun a b => Bytes.ofText a < Bytes.ofText b :=
  (sort_strict h).imp Bytes.ofText_lt

theorem step_register {registries : List (Registry α)} {number : Nat} (h : registries[number]? = some registry)
    (name : String) (item : α) :
    (registry.get? name = none ∧ step registries number (.register name item) =
      (some .registered, registries.set number { registry with items := (name, item) :: registry.items })) ∨
    (∃ kept, registry.get? name = some kept ∧ step registries number (.register name item) =
      (some (.duplicate ⟨registry.kind, name⟩), registries)) := by
  cases hget : registry.get? name with
  | none =>
    refine .inl ⟨rfl, ?_⟩
    simp [step, h, register, contains, hget]
  | some kept =>
    refine .inr ⟨kept, rfl, ?_⟩
    simp [step, h, register, contains, hget]

/-! ## What was asked of each -/

/-- The registrations asked of a registry, in order, and also the refused ones. -/
structure Ledger (α : Type) where
  kind : String
  history : List (String × α) := []

namespace Ledger

/-- The first registration of the name is that of the item. -/
def Gives (ledger : Ledger α) (name : String) (item : α) : Prop :=
  ∃ before after, ledger.history = before ++ (name, item) :: after ∧ ∀ entry ∈ before, entry.1 ≠ name

theorem gives_iff {ledger : Ledger α} {name : String} {item : α} :
    ledger.Gives name item ↔ ledger.history.lookup name = some item := by
  simp only [Gives, List.lookup_eq_some_iff, bne_iff_ne, ne_comm]

/-- These are the names with a registration, in the order of their bytes. -/
structure Lists (ledger : Ledger α) (names : List String) : Prop where
  ascending : names.Pairwise fun a b => Bytes.ofText a < Bytes.ofText b
  given : ∀ name, name ∈ names ↔ ∃ item, ledger.Gives name item

/-- The answers of a registry with this ledger, when there are `count` registries. -/
inductive Tells (ledger : Ledger α) (count : Nat) : Operation α → Answer α → Prop where
  | registered {name : String} {item : α} (h : ∀ kept, ¬ ledger.Gives name kept) :
    Tells ledger count (.register name item) .registered
  | duplicate {name : String} {item kept : α} (h : ledger.Gives name kept) :
    Tells ledger count (.register name item) (.duplicate ⟨ledger.kind, name⟩)
  | found {name : String} {item : α} (h : ledger.Gives name item) :
    Tells ledger count (.get name) (.item (some item))
  | unknown {name : String} (h : ∀ item, ¬ ledger.Gives name item) :
    Tells ledger count (.get name) (.item none)
  | contains {name : String} {holds : Bool} (h : holds = true ↔ ∃ item, ledger.Gives name item) :
    Tells ledger count (.contains name) (.truth holds)
  | names {names : List String} (h : ledger.Lists names) : Tells ledger count .names (.names names)
  | render {names : List String} (h : ledger.Lists names) :
    Tells ledger count .render (.text ("Registry \x7b kind: " ++ Quoted.quote ledger.kind ++ ", names: [" ++
      String.intercalate ", " (names.map Quoted.quote) ++ "] \x7d"))
  | copy : Tells ledger count .clone (.copy count)

end Ledger

def note (ledgers : List (Ledger α)) (number : Nat) : Operation α → List (Ledger α)
  | .register name item =>
    ledgers.modify number fun ledger => { ledger with history := ledger.history ++ [(name, item)] }
  | .clone => ledgers ++ ledgers[number]?.toList
  | _ => ledgers

/-- Every answer is what the ledgers tell that are kept along the way. -/
inductive Told : List (Ledger α) → List (Nat × Operation α) → List (Option (Answer α)) → Prop where
  | done {ledgers : List (Ledger α)} : Told ledgers [] []
  | missing {ledgers : List (Ledger α)} {number : Nat} {operation : Operation α} {calls : List (Nat × Operation α)}
    {answers : List (Option (Answer α))} (hnumber : ledgers[number]? = none) (hrest : Told ledgers calls answers) :
    Told ledgers ((number, operation) :: calls) (none :: answers)
  | next {ledgers : List (Ledger α)} {number : Nat} {operation : Operation α} {calls : List (Nat × Operation α)}
    {answers : List (Option (Answer α))} {ledger : Ledger α} {answer : Answer α}
    (hnumber : ledgers[number]? = some ledger) (hanswer : ledger.Tells ledgers.length operation answer)
    (hrest : Told (note ledgers number operation) calls answers) :
    Told ledgers ((number, operation) :: calls) (some answer :: answers)

/-! ## Registries that answer from their ledgers -/

structure Keeps (registry : Registry α) (ledger : Ledger α) : Prop where
  kind : registry.kind = ledger.kind
  get : ∀ name, registry.get? name = ledger.history.lookup name
  once : (registry.items.map (·.1)).Nodup

namespace Keeps

variable {ledger : Ledger α}

theorem gives (h : Keeps registry ledger) {item : α} : registry.get? name = some item ↔ ledger.Gives name item := by
  rw [h.get, Ledger.gives_iff]

theorem not_gives (h : Keeps registry ledger) (hget : registry.get? name = none) (item : α) :
    ¬ ledger.Gives name item := by
  rw [← h.gives, hget]
  exact nofun

theorem lists (h : Keeps registry ledger) : ledger.Lists registry.names := by
  refine ⟨names_ascending h.once, fun name => ?_⟩
  simp only [mem_names, h.gives]

theorem registered (h : Keeps registry ledger) (item : α) (hget : registry.get? name = none) :
    Keeps { registry with items := (name, item) :: registry.items }
      { ledger with history := ledger.history ++ [(name, item)] } := by
  refine ⟨h.kind, fun other => ?_, ?_⟩
  · rw [get?, List.lookup_append, ← h.get, List.lookup_cons]
    split
    next heq =>
      rw [eq_of_beq heq, hget]
      simp
    next hne => simp [List.lookup_cons, hne, get?]
  · refine List.nodup_cons.mpr ⟨fun hmem => ?_, h.once⟩
    obtain ⟨kept, hkept⟩ := mem_names.mp (List.mem_mergeSort.mpr hmem)
    rw [hget] at hkept
    cases hkept

theorem refused (h : Keeps registry ledger) (item : α) {kept : α} (hget : registry.get? name = some kept) :
    Keeps registry { ledger with history := ledger.history ++ [(name, item)] } := by
  refine ⟨h.kind, fun other => ?_, h.once⟩
  -- It is noted after the registration that took the name, where it does not count.
  rw [List.lookup_append, ← h.get]
  by_cases hother : other = name
  · rw [hother, hget]
    rfl
  · simp [List.lookup_cons, beq_false_of_ne hother]

end Keeps

/-! ## Runs -/

theorem forall₂_getElem? {β γ : Type} {R : β → γ → Prop} {xs : List β} {ys : List γ} (h : List.Forall₂ R xs ys)
    (n : Nat) : (xs[n]? = none ∧ ys[n]? = none) ∨ ∃ x y, xs[n]? = some x ∧ ys[n]? = some y ∧ R x y := by
  induction h generalizing n with
  | nil => exact .inl ⟨rfl, rfl⟩
  | cons hhead _ ih =>
    cases n with
    | zero => exact .inr ⟨_, _, rfl, rfl, hhead⟩
    | succ n => exact ih n

theorem forall₂_set_modify {β γ : Type} {R : β → γ → Prop} {xs : List β} {ys : List γ} (h : List.Forall₂ R xs ys)
    {n : Nat} {x : β} {y : γ} {f : γ → γ} (hold : ys[n]? = some y) (hnew : R x (f y)) :
    List.Forall₂ R (xs.set n x) (ys.modify n f) := by
  induction h generalizing n with
  | nil => cases hold
  | cons hhead htail ih =>
    cases n with
    | zero =>
      cases hold
      exact .cons hnew htail
    | succ n => exact .cons hhead (ih hold)

variable {registries : List (Registry α)} {ledgers : List (Ledger α)} {number : Nat}

theorem step_keeps (h : List.Forall₂ Keeps registries ledgers) {registry : Registry α} {ledger : Ledger α}
    (hregistry : registries[number]? = some registry) (hledger : ledgers[number]? = some ledger)
    (hkeeps : Keeps registry ledger) (operation : Operation α) :
    ∃ answer, (step registries number operation).1 = some answer ∧ ledger.Tells ledgers.length operation answer ∧
      List.Forall₂ Keeps (step registries number operation).2 (note ledgers number operation) := by
  cases operation with
  | register name item =>
    rcases step_register hregistry name item with ⟨hget, hstep⟩ | ⟨kept, hget, hstep⟩ <;> rw [hstep]
    · exact ⟨_, rfl, .registered (hkeeps.not_gives hget), forall₂_set_modify h hledger (hkeeps.registered item hget)⟩
    · refine ⟨_, rfl, ?_, ?_⟩
      · rw [hkeeps.kind]
        exact .duplicate (hkeeps.gives.mp hget)
      · obtain ⟨hlt, rfl⟩ := List.getElem?_eq_some_iff.mp hregistry
        have hset : List.Forall₂ Keeps (registries.set number registries[number])
            (note ledgers number (.register name item)) :=
          forall₂_set_modify h hledger (hkeeps.refused item hget)
        rwa [List.set_getElem_self] at hset
  | get name =>
    simp only [step, hregistry]
    refine ⟨_, rfl, ?_, h⟩
    cases hget : registry.get? name with
    | none => exact .unknown (hkeeps.not_gives hget)
    | some item => exact .found (hkeeps.gives.mp hget)
  | contains name =>
    simp only [step, hregistry]
    refine ⟨_, rfl, .contains ?_, h⟩
    simp only [contains_iff, hkeeps.gives]
  | names =>
    simp only [step, hregistry]
    exact ⟨_, rfl, .names hkeeps.lists, h⟩
  | render =>
    simp only [step, hregistry]
    have htells : ledger.Tells ledgers.length .render _ := .render hkeeps.lists
    rw [← hkeeps.kind] at htells
    exact ⟨_, rfl, htells, h⟩
  | clone =>
    simp only [step, hregistry, note, hledger, List.Forall₂.length_eq h]
    exact ⟨_, rfl, .copy, List.rel_append h (.cons hkeeps .nil)⟩

theorem run_told (h : List.Forall₂ Keeps registries ledgers) (calls : List (Nat × Operation α)) :
    Told ledgers calls (run registries calls).1 := by
  -- A call that finds no registry leaves the pairs as they are, and any other keeps them.
  induction calls generalizing registries ledgers with
  | nil => exact .done
  | cons call calls ih =>
    obtain ⟨number, operation⟩ := call
    rcases forall₂_getElem? h number with ⟨hregistry, hledger⟩ | ⟨registry, ledger, hregistry, hledger, hkeeps⟩
    · simp only [run, step, hregistry]
      exact .missing hledger (ih h)
    · obtain ⟨answer, hanswer, htells, hkept⟩ := step_keeps h hregistry hledger hkeeps operation
      simp only [run, hanswer]
      exact .next hledger htells (ih hkept)

/-! ## Registries apart -/

/-- None of the calls registers anything in the registry of the number. -/
def Spares (calls : List (Nat × Operation α)) (number : Nat) : Prop :=
  ∀ call ∈ calls, call.1 = number → ∀ name item, call.2 ≠ .register name item

theorem step_refused {name : String} {item : α} {e : DuplicateItem}
    (h : (step registries number (.register name item)).1 = some (.duplicate e)) :
    (step registries number (.register name item)).2 = registries := by
  cases hregistry : registries[number]? with
  | none => simp only [step, hregistry]
  | some registry =>
    rcases step_register hregistry name item with ⟨-, hstep⟩ | ⟨_, -, hstep⟩ <;> rw [hstep] at h ⊢
    cases h

theorem step_spares {other : Nat} (hother : other < registries.length) {operation : Operation α}
    (h : number = other → ∀ name item, operation ≠ .register name item) :
    other < (step registries number operation).2.length ∧
      (step registries number operation).2[other]? = registries[other]? := by
  cases hregistry : registries[number]? with
  | none =>
    simp only [step, hregistry]
    exact ⟨hother, trivial⟩
  | some registry =>
    cases operation with
    | register name item =>
      have hne : number ≠ other := fun heq => h heq name item rfl
      rcases step_register hregistry name item with ⟨-, hstep⟩ | ⟨_, -, hstep⟩ <;> rw [hstep]
      · exact ⟨by rwa [List.length_set], List.getElem?_set_ne hne⟩
      · exact ⟨hother, rfl⟩
    | clone =>
      simp only [step, hregistry, List.length_append]
      exact ⟨Nat.lt_add_right _ hother, List.getElem?_append_left hother⟩
    | _ =>
      simp only [step, hregistry]
      exact ⟨hother, trivial⟩

theorem run_spares {calls : List (Nat × Operation α)} (hnumber : number < registries.length)
    (h : Spares calls number) : (run registries calls).2[number]? = registries[number]? := by
  induction calls generalizing registries with
  | nil => rfl
  | cons call calls ih =>
    obtain ⟨hfirst, hrest⟩ := List.forall_mem_cons.mp h
    obtain ⟨hlt, hsame⟩ := step_spares hnumber hfirst
    rw [← hsame, ← ih hlt hrest]
    rfl

theorem step_congr {others : List (Registry α)} (h : registries[number]? = others[number]?) {operation : Operation α}
    (hclone : operation ≠ .clone) : (step registries number operation).1 = (step others number operation).1 := by
  cases hother : others[number]? with
  | none => simp only [step, h, hother]
  | some registry =>
    cases operation with
    | register name item =>
      simp only [step, h, hother]
      cases registry.register name item <;> rfl
    | clone => exact absurd rfl hclone -- answered from how many registries there are
    | _ => simp only [step, h, hother]

/-! ## First registrations win -/

/-- Registries give each name to the first that asks for it, and go their own ways once they are copied. -/
structure FirstWins (α : Type) : Prop where
  told : ∀ (kinds : List String) (calls : List (Nat × Operation α)),
    Told (kinds.map fun kind => { kind }) calls (run (kinds.map fun kind => { kind }) calls).1
  refused : ∀ (registries : List (Registry α)) number name item e,
    (step registries number (.register name item)).1 = some (.duplicate e) →
      (step registries number (.register name item)).2 = registries
  kept : ∀ (registries : List (Registry α)) calls number, number < registries.length → Spares calls number →
    (run registries calls).2[number]? = registries[number]?
  apart : ∀ (registries : List (Registry α)) calls number, number < registries.length → Spares calls number →
    ∀ operation, operation ≠ .clone →
      (step (run registries calls).2 number operation).1 = (step registries number operation).1

theorem registries_firstWins (α : Type) : FirstWins α where
  told kinds calls := by
    refine run_told ?_ calls
    rw [List.forall₂_map_left_iff, List.forall₂_map_right_iff, List.forall₂_same]
    exact fun kind _ => ⟨rfl, fun _ => rfl, List.nodup_nil⟩
  refused _ _ _ _ _ h := step_refused h
  kept _ _ _ hnumber hspares := run_spares hnumber hspares
  apart _ _ _ hnumber hspares _ hclone := step_congr (run_spares hnumber hspares) hclone

example : (run [{ kind := "number" }] [(0, .register "one" 1), (0, .clone), (1, .register "one" 2),
    (1, .register "two" 2), (0, .get "two"), (1, .get "one")]).1 =
    [some .registered, some (.copy 1), some (.duplicate ⟨"number", "one"⟩), some .registered, some (.item none),
      some (.item (some 1))] := rfl

end Registry

end ReverseProxy
