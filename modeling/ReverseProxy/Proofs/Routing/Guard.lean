import ReverseProxy.Proofs.Http.Header
import ReverseProxy.Proofs.Routing.Compilation
import ReverseProxy.Proofs.Text.Parts

/-! # What a guard asks of a request -/

namespace ReverseProxy

/-- The first field of a name, in any case of letters, has the value. -/
def Headers.Leads (headers : Headers) (name : String) (value : Bytes) : Prop :=
  ∃ before field after, headers = before ++ field :: after ∧ Ascii.lower field.1.text = Ascii.lower name ∧
    field.2 = value ∧ ∀ other ∈ before, Ascii.lower other.1.text ≠ Ascii.lower name

theorem Headers.first?_iff_leads {headers : Headers} {name : HeaderName} {text : String} {value : Bytes}
    (h : name.text = Ascii.lower text) : headers.first? name = some value ↔ headers.Leads text value := by
  have hname : ∀ other : HeaderName, Ascii.lower other.text = Ascii.lower text ↔ other = name := by
    intro other
    rw [other.lower_text, ← h, HeaderName.text_inj]
  simp only [first?_eq_some, Leads, ne_eq, hname]
  constructor
  · rintro ⟨before, after, rfl, hbefore⟩
    exact ⟨before, (name, value), after, rfl, rfl, rfl, hbefore⟩
  · rintro ⟨before, ⟨_, _⟩, after, rfl, rfl, rfl, hbefore⟩
    exact ⟨before, after, rfl, hbefore⟩

namespace Guard

/-- A name that is a token, the only `=` and a value. -/
structure Written (expression name value : String) : Prop where
  text : expression = name ++ "=" ++ value
  once : expression.toList.count '=' = 1
  token : IsToken name.toList

/-- What is wrong with an expression. Its marks are counted first, then its name is read. -/
def Blames (expression : String) : GuardReason → Prop
  | .notOneMark => expression.toList.count '=' ≠ 1
  | .noName => expression.toList.count '=' = 1 ∧ expression.toList.head? = some '='
  | .badName => expression.toList.count '=' = 1 ∧ expression.toList.head? ≠ some '='

variable {expression name value : String}

theorem toList_mark (name value : String) : (name ++ "=" ++ value).toList = name.toList ++ '=' :: value.toList := by
  simp [String.toList_append]

theorem Written.split (h : Written expression name value) :
    Parts.split '=' expression.toList = [name.toList, value.toList] := by
  have hcount := h.once
  rw [h.text, toList_mark, List.count_append, List.count_cons_self] at hcount
  rw [Parts.split_eq_pair]
  refine ⟨by rw [h.text, toList_mark], ?_, ?_⟩ <;> rw [← List.count_eq_zero] <;> omega

theorem parse_of_written (h : Written expression name value) :
    ∃ header, parse expression = .header header value ∧ header.text = Ascii.lower name := by
  let header : HeaderName := ⟨Ascii.lower name, isHeaderName_lower.mpr h.token⟩
  have hread : HeaderName.ofText? (String.ofList name.toList) = some header := by
    rw [String.ofList_toList, HeaderName.ofText?_eq_some]
  have hne : expression ≠ "" := by
    rintro rfl
    cases h.once
  refine ⟨header, ?_, rfl⟩
  rw [parse, if_neg hne, h.split]
  dsimp only
  rw [if_neg h.token.nonempty, hread, String.ofList_toList]

theorem parse_of_not_written (hne : expression ≠ "") (h : ∀ name value, ¬Written expression name value) :
    ∃ reason, parse expression = invalid ⟨expression, reason⟩ ∧ Blames expression reason := by
  have hlength := Parts.length_split '=' expression.toList
  rw [parse, if_neg hne]
  split
  next before after hsplit =>
    have honce : expression.toList.count '=' = 1 := by
      rw [hsplit, List.length_cons, List.length_singleton] at hlength
      omega
    obtain ⟨htext, hbefore, -⟩ := Parts.split_eq_pair.mp hsplit
    split
    next hnil => exact ⟨.noName, rfl, honce, by rw [htext, hnil]; rfl⟩
    next hsome =>
      split
      next header hread =>
        refine absurd ?_ (h (String.ofList before) (String.ofList after))
        refine ⟨?_, honce, HeaderName.isToken_of_lower (HeaderName.ofText?_eq_some.mp hread)⟩
        rw [← String.toList_inj, htext, toList_mark, String.toList_ofList, String.toList_ofList]
      next =>
        refine ⟨.badName, rfl, honce, fun hhead => hbefore ?_⟩
        rw [htext, List.head?_append_of_ne_nil _ hsome] at hhead
        exact List.mem_of_head? hhead
  next hparts =>
    refine ⟨.notOneMark, rfl, fun honce => ?_⟩
    rw [honce] at hlength
    obtain ⟨before, after, hsplit⟩ := List.length_eq_two.mp hlength
    exact hparts before after hsplit

/-- How the guard of an expression answers. -/
structure Heeds (expression : String) (guard : Guard) : Prop where
  /-- Nothing is asked. -/
  empty : expression = "" → ∀ request, guard.evaluate request = .ok true
  /-- The first field of the name is asked for, byte for byte. -/
  written : ∀ name value, Written expression name value → ∀ request, ∃ answer,
    guard.evaluate request = .ok answer ∧ (answer = true ↔ request.headers.Leads name (Bytes.ofText value))
  /-- Whatever else stands there is an error that tells the expression, for every request. -/
  malformed : expression ≠ "" → (∀ name value, ¬Written expression name value) →
    ∃ reason, Blames expression reason ∧ ∀ request, guard.evaluate request = .error ⟨expression, reason⟩
  guarded : guard.isGuarded = false ↔ expression = ""

theorem evaluate_written (h : Written expression name value) (request : Request) :
    ∃ answer, (parse expression).evaluate request = .ok answer ∧
      (answer = true ↔ request.headers.Leads name (Bytes.ofText value)) := by
  obtain ⟨header, hparse, htext⟩ := parse_of_written h
  refine ⟨_, by rw [hparse, evaluate], ?_⟩
  rw [decide_eq_true_eq, Headers.first?_iff_leads htext]

/-- Guards do what their expressions say, and expressions that differ in the case of the name say the same. -/
theorem parse_heeds :
    (∀ expression, Heeds expression (parse expression)) ∧
      ∀ expression other name capital value, Written expression name value → Written other capital value →
        Ascii.lower name = Ascii.lower capital →
          ∀ request, (parse expression).evaluate request = (parse other).evaluate request := by
  constructor
  · intro expression
    constructor
    case empty =>
      rintro rfl request
      rfl
    case written => exact fun name value h => evaluate_written h
    case malformed =>
      intro hne hno
      obtain ⟨reason, hparse, hblames⟩ := parse_of_not_written hne hno
      exact ⟨reason, hblames, fun request => by rw [hparse, evaluate]⟩
    case guarded => simp [isGuarded_parse]
  · intro expression other name capital value h hother hcase request
    obtain ⟨header, hparse, htext⟩ := parse_of_written h
    obtain ⟨header', hparse', htext'⟩ := parse_of_written hother
    have hsame : header = header' := HeaderName.text_inj.mp (by rw [htext, htext', hcase])
    rw [hparse, hparse', hsame]

/-- The field comes twice, the first time without a value. -/
def repeated : Request := { headers := [(⟨"x-flag", by decide⟩, []), (⟨"x-flag", by decide⟩, Bytes.ofText "1")] }

theorem parse_heeds_repeated :
    Written "X-Flag=" "X-Flag" "" ∧ Written "x-flag=" "x-flag" "" ∧
      (parse "X-Flag=").evaluate repeated = .ok true ∧ (parse "x-flag=").evaluate repeated = .ok true ∧
      ∃ reason, Blames "a=b=c" reason ∧ ∀ request, (parse "a=b=c").evaluate request = .error ⟨"a=b=c", reason⟩ := by
  have hcapital : Written "X-Flag=" "X-Flag" "" := ⟨rfl, rfl, isHeaderName_lower.mp rfl⟩
  have hsmall : Written "x-flag=" "x-flag" "" := ⟨rfl, rfl, isHeaderName_lower.mp rfl⟩
  obtain ⟨answer, hanswer, hleads⟩ := (parse_heeds.1 "X-Flag=").written _ _ hcapital repeated
  have hcase : Ascii.lower "X-Flag" = Ascii.lower "x-flag" := by decide
  obtain rfl := hleads.mpr ⟨[], _, _, rfl, by decide, rfl, by simp⟩
  refine ⟨hcapital, hsmall, hanswer, ?_, (parse_heeds.1 "a=b=c").malformed (by decide) ?_⟩
  · rw [← hanswer]
    exact (parse_heeds.2 _ _ _ _ _ hcapital hsmall hcase repeated).symm
  · intro name value h
    cases h.once

example : (parse "x-flag=1").evaluate repeated = .ok false := by decide

end Guard

end ReverseProxy
