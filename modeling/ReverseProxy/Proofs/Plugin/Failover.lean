import ReverseProxy.Proofs.Plugin.Calls

/-! # One backend after the other -/

namespace ReverseProxy.Adapter

/-- Calls in a row, all with the same request. -/
def transcript (request : Request) (position : Nat) : List Response → List Call
  | [] => []
  | response :: rest => ⟨position, request, response⟩ :: transcript request (position + 1) rest

/-- The answers of some handlers, asked one after the other, and what is answered in the end. -/
inductive Tried : Response → Nat → List Response → Response → Prop where
  | out (last : Response) : Tried last 0 [] last
  | stop (last : Response) (count : Nat) {response : Response} (h : response.status ≠ 503) :
    Tried last (count + 1) [response] response
  | next (last : Response) {count : Nat} {response answer : Response} {responses : List Response}
      (h : response.status = 503) (rest : Tried response count responses answer) :
    Tried last (count + 1) (response :: responses) answer

theorem Tried.split {last answer : Response} {count : Nat} {responses : List Response}
    (h : Tried last count responses answer) :
    (count = 0 ∧ responses = [] ∧ answer = last) ∨
      ∃ failures, responses = failures ++ [answer] ∧ (∀ r ∈ failures, r.status = 503) ∧
        failures.length < count ∧ (answer.status ≠ 503 ∨ failures.length + 1 = count) := by
  induction h with
  | out last => exact .inl ⟨rfl, rfl, rfl⟩
  | stop last count h => exact .inr ⟨[], rfl, by simp, by simp, .inl h⟩
  | @next last count response answer responses h rest ih =>
    rcases ih with ⟨rfl, rfl, rfl⟩ | ⟨failures, rfl, hfailures, hlength, hend⟩
    · exact .inr ⟨[], rfl, by simp, by simp, .inr rfl⟩
    · have hall : ∀ r ∈ response :: failures, r.status = 503 := List.forall_mem_cons.mpr ⟨h, hfailures⟩
      refine .inr ⟨response :: failures, rfl, hall, by simpa using hlength, ?_⟩
      exact hend.imp_right (congrArg (· + 1))

variable {m : Type → Type} [Monad m] [LawfulMonad m]

theorem ensures_firstAvailable (request : Request) (last : Response) (handlers : BackendHandlers m)
    (position : Nat) (calls : List Call) :
    Ensures (fun result => ∃ responses, result.2 = calls ++ transcript request position responses ∧
        Tried last handlers.length responses result.1)
      (StateT.run (firstAvailable request last ((handlers.traced position).map (·.2))) calls) := by
  -- Each call moves the position, the answer to fall back on and what is written down already.
  induction handlers generalizing last position calls with
  | nil => exact .pure ⟨[], by simp [transcript], .out last⟩
  | cons entry rest ih =>
    rw [BackendHandlers.traced, List.map_cons, firstAvailable, StateT.run_bind, run_tracing, bind_assoc]
    refine .bind (.top _) fun response _ => ?_
    rw [pure_bind]
    dsimp only
    split
    next h =>
      refine (ih response (position + 1) _).mono ?_
      rintro result ⟨responses, hcalls, htried⟩
      exact ⟨response :: responses, by rw [hcalls, transcript, List.append_assoc]; rfl, .next last h htried⟩
    next h =>
      exact .pure ⟨[response], rfl, .stop last _ h⟩

theorem fst_firstAvailable (request : Request) (last : Response) (handlers : BackendHandlers m)
    (position : Nat) (calls : List Call) :
    Prod.fst <$> StateT.run (firstAvailable request last ((handlers.traced position).map (·.2))) calls =
      firstAvailable request last (handlers.map (·.2)) := by
  induction handlers generalizing last position calls with
  | nil => simp [BackendHandlers.traced, firstAvailable]
  | cons entry rest ih =>
    rw [BackendHandlers.traced, List.map_cons, List.map_cons, firstAvailable, firstAvailable, StateT.run_bind,
      run_tracing, bind_assoc, map_bind]
    refine bind_congr fun response => ?_
    rw [pure_bind]
    dsimp only
    split
    next => exact ih response _ _
    next => simp

/-! ## The whole adapter -/

/-- What failover answers to a request, by which calls of its handlers. -/
inductive FailedOver (limit count : Nat) (request : Request) : Response → List Call → Prop where
  | tooLarge (hbody : limit < request.body.length) :
    FailedOver limit count request (.ofText 413 "request body too large") []
  | unasked (hbody : request.body.length ≤ limit) (hcount : count = 0) :
    FailedOver limit count request (.ofText 503 "no backends configured") []
  | answered (hbody : request.body.length ≤ limit) {failures : List Response} {answer : Response}
      (hfailures : ∀ r ∈ failures, r.status = 503) (hcount : failures.length < count)
      (hend : answer.status ≠ 503 ∨ failures.length + 1 = count) :
    FailedOver limit count request answer (transcript request 0 (failures ++ [answer]))

theorem Tried.failedOver {limit count : Nat} {request : Request} (hbody : request.body.length ≤ limit)
    {answer : Response} {responses : List Response} (h : Tried noBackends count responses answer) :
    FailedOver limit count request answer (transcript request 0 responses) := by
  rcases h.split with ⟨hcount, rfl, rfl⟩ | ⟨failures, rfl, hfailures, hlength, hend⟩
  · exact .unasked hbody hcount
  · exact .answered hbody hfailures hlength hend

/-- Handlers of any kind may be given, and it is they who answer: to observe the calls changes nothing. -/
theorem failover_failsOver (limit : Nat) (handlers : BackendHandlers m) (request : Request) :
    Ensures (fun result => FailedOver limit handlers.length request result.1 result.2)
        ((failover limit).observed handlers request) ∧
      Prod.fst <$> (failover limit).observed handlers request = failover limit handlers request := by
  unfold observed failover
  split
  next hbody => exact ⟨.pure (.tooLarge hbody), map_pure _ _⟩
  next hbody =>
    refine ⟨(ensures_firstAvailable request noBackends handlers 0 []).mono ?_, fst_firstAvailable ..⟩
    rintro result ⟨responses, hcalls, htried⟩
    rw [hcalls]
    exact htried.failedOver (Nat.not_lt.mp hbody)

/-- A handler that answers every request but the first. -/
def warmingUp : Handler (StateM Nat) := fun request seen =>
  ({ status := if seen = 0 then 503 else 200, body := request.body }, seen + 1)

def posted : Request := { method := "POST", body := [104, 105] }

theorem failover_warmingUp :
    LawfulMonad (StateM Nat) ∧
      FailedOver 2 3 posted { status := 200, body := [104, 105] }
        [⟨0, posted, { status := 503, body := [104, 105] }⟩,
          ⟨1, posted, { status := 200, body := [104, 105] }⟩] :=
  ⟨inferInstance, (failover_failsOver 2 [("a", warmingUp), ("b", warmingUp), ("c", warmingUp)] posted).1.of_state 0⟩

end ReverseProxy.Adapter
