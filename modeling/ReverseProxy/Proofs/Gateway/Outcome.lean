import ReverseProxy.Gateway.State

/-! # What a handler may log and answer -/

namespace ReverseProxy

namespace Act

variable {α β : Type}

/--
What an act logs and answers in the end, whatever it is told on its way. It can be given up where it
waits, or where it is not told anything.
-/
inductive Yields : Act α → List AccessEvent → Option α → Prop where
  | done (value : α) : Yields (.done value) [] (some value)
  | draw {backend : Backend} {next : Except BalanceError String → Act α} {log : List AccessEvent}
      {answer : Option α} (result : Except BalanceError String) (h : Yields (next result) log answer) :
    Yields (.draw backend next) log answer
  | send {request : Request} {next : Except SendFailure Response → Act α} {log : List AccessEvent}
      {answer : Option α} (result : Except SendFailure Response) (h : Yields (next result) log answer) :
    Yields (.send request next) log answer
  | unheard (request : Request) (next : Except SendFailure Response → Act α) :
    Yields (.send request next) [] none
  | wait (milliseconds : Nat) {next : Act α} {log : List AccessEvent} {answer : Option α}
      (h : Yields next log answer) :
    Yields (.wait milliseconds next) log answer
  | late (milliseconds : Nat) (next : Act α) : Yields (.wait milliseconds next) [] none
  | record (event : AccessEvent) {next : Act α} {log : List AccessEvent} {answer : Option α}
      (h : Yields next log answer) :
    Yields (.record event next) (event :: log) answer

theorem yields_done {value : α} {log : List AccessEvent} {answer : Option α}
    (h : Yields (.done value) log answer) : log = [] ∧ answer = some value := by
  cases h
  exact ⟨rfl, rfl⟩

/-- Of two acts in a row, the second one yields what is left, unless the first one is given up. -/
theorem yields_bind {act : Act α} {f : α → Act β} {log : List AccessEvent} {answer : Option β}
    (h : Yields (act.bind f) log answer) :
    (answer = none ∧ Yields act log none) ∨
      ∃ first value rest, Yields act first (some value) ∧ Yields (f value) rest answer ∧
        log = first ++ rest := by
  induction act generalizing log with
  | done value => exact Or.inr ⟨[], value, log, .done value, h, rfl⟩
  | draw backend next ih =>
    cases h with
    | draw result h =>
      rcases ih result h with ⟨rfl, hnone⟩ | ⟨first, value, rest, hfirst, hrest, rfl⟩
      · exact Or.inl ⟨rfl, .draw result hnone⟩
      · exact Or.inr ⟨first, value, rest, .draw result hfirst, hrest, rfl⟩
  | send request next ih =>
    cases h with
    | send result h =>
      rcases ih result h with ⟨rfl, hnone⟩ | ⟨first, value, rest, hfirst, hrest, rfl⟩
      · exact Or.inl ⟨rfl, .send result hnone⟩
      · exact Or.inr ⟨first, value, rest, .send result hfirst, hrest, rfl⟩
    | unheard => exact Or.inl ⟨rfl, .unheard request next⟩
  | wait milliseconds next ih =>
    cases h with
    | wait _ h =>
      rcases ih h with ⟨rfl, hnone⟩ | ⟨first, value, rest, hfirst, hrest, rfl⟩
      · exact Or.inl ⟨rfl, .wait milliseconds hnone⟩
      · exact Or.inr ⟨first, value, rest, .wait milliseconds hfirst, hrest, rfl⟩
    | late => exact Or.inl ⟨rfl, .late milliseconds next⟩
  | record event next ih =>
    cases h with
    | record _ h =>
      rcases ih h with ⟨rfl, hnone⟩ | ⟨first, value, rest, hfirst, hrest, rfl⟩
      · exact Or.inl ⟨rfl, .record event hnone⟩
      · exact Or.inr ⟨event :: first, value, rest, .record event hfirst, hrest, rfl⟩

end Act

/-! ## Runs -/

namespace State

theorem resume_events (time : Nat) (s : State) : (s.resume time).events = s.events := by
  unfold resume
  split <;> rfl

theorem expire_events (deadline : Option Nat) (s : State) : (s.expire deadline).events = s.events := by
  cases deadline with
  | none => rfl
  | some time => exact resume_events time s

end State

theorem Act.run_yields {α : Type} (deadline : Option Nat) (act : Act α) (s : State) :
    ∃ log, act.Yields log (act.run deadline s).1 ∧ (act.run deadline s).2.events = s.events ++ log := by
  induction act generalizing s with
  | done value => exact ⟨[], .done value, (List.append_nil _).symm⟩
  | draw backend next ih =>
    obtain ⟨log, hyields, hevents⟩ := ih (s.drawFrom backend).1 (s.drawFrom backend).2
    exact ⟨log, .draw _ hyields, hevents⟩
  | send request next ih =>
    have hsame : (s.send request).2.events = s.events := rfl
    unfold run
    split
    next response after h =>
      rw [h] at hsame
      obtain ⟨log, hyields, hevents⟩ := ih (.ok response) after
      exact ⟨log, .send _ hyields, by rw [hevents, hsame]⟩
    next failure after h =>
      rw [h] at hsame
      obtain ⟨log, hyields, hevents⟩ := ih (.error failure) after
      exact ⟨log, .send _ hyields, by rw [hevents, hsame]⟩
    next after h =>
      -- Nobody answers, and what would have come next is given up.
      rw [h] at hsame
      exact ⟨[], .unheard request next, by rw [State.expire_events, hsame, List.append_nil]⟩
  | wait milliseconds next ih =>
    unfold run
    split
    · exact ⟨[], .late milliseconds next, by rw [State.expire_events, List.append_nil]⟩
    · obtain ⟨log, hyields, hevents⟩ := ih (s.resume (s.now + milliseconds))
      exact ⟨log, .wait milliseconds hyields, by rw [hevents, State.resume_events]⟩
  | record event next ih =>
    obtain ⟨log, hyields, hevents⟩ := ih (s.record event)
    refine ⟨event :: log, .record event hyields, ?_⟩
    rw [run, hevents, State.record, List.append_assoc]
    rfl

end ReverseProxy
