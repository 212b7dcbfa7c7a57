import Mathlib.Data.List.Forall2
import ReverseProxy.Balance.Locality
import ReverseProxy.Proofs.Text.Parts

/-! # Names of one machine

Whether a host is this machine is decided character by character. It comes to a comparison of the two names
label by label.
-/

namespace ReverseProxy.Locality

/-! ## Labels -/

/-- The texts between the dots of a name, in small letters. -/
def labels (name : String) : List (List Char) := (Ascii.lower name).toList.splitOn '.'

/-- The first name is the second without some labels at its end. -/
structure Shortens (short long : String) : Prop where
  nonempty : Ascii.lower short ≠ ""
  begins : labels short <+: labels long
  proper : labels short ≠ labels long

/-- The names are equal, or one of them shortens the other. -/
inductive Alike (a b : String) : Prop where
  | equal (h : Ascii.lower a = Ascii.lower b)
  | shorter (h : Shortens a b)
  | longer (h : Shortens b a)

theorem Alike.symm {a b : String} : Alike a b → Alike b a
  | .equal h => .equal h.symm
  | .shorter h => .longer h
  | .longer h => .shorter h

theorem isDottedPrefix_iff {short long : String} :
    isDottedPrefix (Ascii.lower short).toList (Ascii.lower long).toList = true ↔ Shortens short long := by
  rw [isDottedPrefix, Bool.and_eq_true, List.isPrefixOf_iff_prefix, Parts.prefix_mark_iff, Bool.not_eq_true',
    List.isEmpty_eq_false_iff, ne_eq, String.toList_eq_nil_iff]
  exact ⟨fun ⟨hne, hbegins, hproper⟩ => ⟨hne, hbegins, hproper⟩,
    fun h => ⟨h.nonempty, h.begins, h.proper⟩⟩

theorem isLocal_iff {host this : String} :
    isLocal host this = true ↔ Ascii.lower host = "localhost" ∨ Alike host this := by
  simp only [isLocal, Bool.or_eq_true, decide_eq_true_eq, isDottedPrefix_iff]
  constructor
  · rintro (((h | h) | h) | h)
    · exact .inl h
    · exact .inr (.equal h)
    · exact .inr (.shorter h)
    · exact .inr (.longer h)
  · rintro (h | h | h | h)
    · exact .inl (.inl (.inl h))
    · exact .inl (.inl (.inr h))
    · exact .inl (.inr h)
    · exact .inr h

/-! ## Capitals -/

/-- One character, or the capital and the small form of one ASCII letter. -/
inductive SameLetter : Char → Char → Prop where
  | same (c : Char) : SameLetter c c
  | lowered (c : Char) : SameLetter c c.toLower
  | raised (c : Char) : SameLetter c.toLower c

theorem SameLetter.toLower_eq {c d : Char} (h : SameLetter c d) : c.toLower = d.toLower := by
  cases h with
  | same => rfl
  | lowered => exact (Ascii.toLower_toLower c).symm
  | raised => exact Ascii.toLower_toLower d

/-- The texts differ at most in which of their ASCII letters are capitals. -/
def Recased (a b : String) : Prop := List.Forall₂ SameLetter a.toList b.toList

theorem Recased.lower_eq {a b : String} (h : Recased a b) : Ascii.lower a = Ascii.lower b := by
  have hletters : List.Forall₂ (fun c d : Char => c.toLower = d.toLower) a.toList b.toList :=
    h.imp fun _ _ => SameLetter.toLower_eq
  rw [Ascii.lower, Ascii.lower, String.ofList_inj]
  exact List.forall₂_eq_eq_eq ▸ List.forall₂_map_left_iff.mpr (List.forall₂_map_right_iff.mpr hletters)

theorem isLocal_congr {host host' this this' : String} (hhost : Ascii.lower host = Ascii.lower host')
    (hthis : Ascii.lower this = Ascii.lower this') : isLocal host this = isLocal host' this' := by
  rw [isLocal, isLocal, hhost, hthis]

/-! ## The rule -/

/-- Locality goes by labels. Capitals do not matter, nor which name is which unless one of them is `localhost`. -/
structure ByLabels : Prop where
  iff_alike : ∀ host this, isLocal host this = true ↔ Ascii.lower host = "localhost" ∨ Alike host this
  recased : ∀ host host' this this', Recased host host' → Recased this this' →
    isLocal host this = isLocal host' this'
  symm : ∀ a b, Alike a b ↔ Alike b a
  swapped : ∀ host this, (Ascii.lower host = "localhost" ↔ Ascii.lower this = "localhost") →
    isLocal host this = isLocal this host

theorem isLocal_byLabels : ByLabels where
  iff_alike _ _ := isLocal_iff
  recased _ _ _ _ hhost hthis := isLocal_congr hhost.lower_eq hthis.lower_eq
  symm _ _ := ⟨Alike.symm, Alike.symm⟩
  swapped host this h := by
    rw [Bool.eq_iff_iff, isLocal_iff, isLocal_iff, h]
    exact or_congr_right ⟨Alike.symm, Alike.symm⟩

/-- All letters of the host change, and none of the other name. -/
theorem isLocal_byLabels_capitals :
    isLocal "Web1" "web1.dc" = true ∧ isLocal "wEB1" "web1.dc" = true ∧ isLocal "web1.dc" "wEB1" = true := by
  have hhost : Recased "Web1" "wEB1" :=
    .cons (.lowered 'W') (.cons (.raised 'E') (.cons (.raised 'B') (.cons (.same '1') .nil)))
  have hthis : Recased "web1.dc" "web1.dc" := List.forall₂_same.mpr fun c _ => .same c
  have hlocal : isLocal "Web1" "web1.dc" = true := by decide
  have hcased : isLocal "Web1" "web1.dc" = isLocal "wEB1" "web1.dc" :=
    isLocal_byLabels.recased _ _ _ _ hhost hthis
  have hswapped : isLocal "wEB1" "web1.dc" = isLocal "web1.dc" "wEB1" :=
    isLocal_byLabels.swapped _ _ (by decide)
  exact ⟨hlocal, hcased ▸ hlocal, hswapped ▸ hcased ▸ hlocal⟩

example : isLocal "x" "xy.domain.com" = false := by decide

end ReverseProxy.Locality
