import Mathlib.Algebra.GroupWithZero.Nat
import ReverseProxy.Health.StopSignal

/-! # Every firing is accounted for

A listener that does not leave hears of every firing since it came: as a signal, in a count of missed ones, or
when it asks again. Nobody else takes part in that.
-/

namespace ReverseProxy

def Hearing.lag : Hearing → Nat
  | .missed count => count
  | _ => 0

namespace StopSignal

/-! ## What is heard -/

def told (listener : Nat) : Operation × Answer → Option Hearing
  | (.receive other, .hearing hearing) => if other = listener then hearing else none
  | _ => none

def heard (listener : Nat) (s : StopSignal) (ops : List Operation) : List Hearing :=
  (ops.zip (s.run ops).1).filterMap (told listener)

/-- So many firings does a listener know of from what it heard. -/
def known (hearings : List Hearing) : Nat := hearings.count .signal + (hearings.map Hearing.lag).sum

theorem known_append (hearings more : List Hearing) : known (hearings ++ more) = known hearings + known more := by
  simp only [known, List.count_append, List.map_append, List.sum_append]
  omega

theorem known_hear (pending : Nat) : known [(hear pending).1] + (hear pending).2 = pending := by
  match pending with
  | 0 => rfl
  | 1 => rfl
  | missed + 2 => simp [known, hear, Hearing.lag]

theorem heard_cons (listener : Nat) (s : StopSignal) (op : Operation) (ops : List Operation) :
    heard listener s (op :: ops) = (told listener (op, (s.step op).1)).toList ++ heard listener (s.step op).2 ops := by
  rw [heard, run, List.zip_cons_cons, List.filterMap_cons, heard]
  cases told listener (op, (s.step op).1) <;> rfl

theorem count_op_cons (what op : Operation) (ops : List Operation) :
    (op :: ops).count what = [op].count what + ops.count what :=
  @List.count_append _ _ what [op] ops

theorem run_append (s : StopSignal) (ops more : List Operation) :
    (s.run (ops ++ more)).2 = ((s.run ops).2.run more).2 := by
  induction ops generalizing s with
  | nil => rfl
  | cons op ops ih => exact ih (s.step op).2

theorem heard_append (listener : Nat) (s : StopSignal) (ops more : List Operation) :
    heard listener s (ops ++ more) = heard listener s ops ++ heard listener (s.run ops).2 more := by
  induction ops generalizing s with
  | nil => rfl
  | cons op ops ih =>
    rw [List.cons_append, heard_cons, heard_cons, ih, List.append_assoc]
    rfl

/-! ## One listener -/

/-- What an operation lets a listener hear, and what it makes of the firings that the listener has not taken. -/
def Operation.meet (listener : Nat) : Operation → Option Nat → Option Hearing × Option Nat
  | .subscribe, seat => (none, seat)
  | .fire, seat => (none, seat.map (· + 1))
  | .receive other, seat =>
    if other = listener then (seat.map fun pending => (hear pending).1, seat.map fun pending => (hear pending).2)
    else (none, seat)
  | .leave other, seat => (none, if other = listener then none else seat)

/-- What operations let a listener hear, and what is left then. -/
def attend (listener : Nat) : List Operation → Option Nat → List Hearing × Option Nat
  | [], seat => ([], seat)
  | op :: ops, seat =>
    ((op.meet listener seat).1.toList ++ (attend listener ops (op.meet listener seat).2).1,
      (attend listener ops (op.meet listener seat).2).2)

variable {s : StopSignal} {listener : Nat} {seat : Option Nat}

theorem step_meet (h : s.listeners[listener]? = some seat) (op : Operation) :
    told listener (op, (s.step op).1) = (op.meet listener seat).1 ∧
      (s.step op).2.listeners[listener]? = some (op.meet listener seat).2 := by
  obtain ⟨hlt, -⟩ := List.getElem?_eq_some_iff.mp h
  cases op with
  | subscribe => exact ⟨rfl, (List.getElem?_append_left hlt).trans h⟩
  | fire =>
    refine ⟨rfl, ?_⟩
    simp only [step, fire, List.getElem?_map, h, Operation.meet, Option.map_some]
  | receive other =>
    simp only [step, told, Operation.meet]
    by_cases hother : other = listener
    · subst hother
      cases seat with
      | none => simp [receive_of_absent (s := s) (by rw [h]; rfl), h]
      | some pending => simp [receive_of_pending h, hlt]
    · rw [if_neg hother, if_neg hother]
      refine ⟨rfl, ?_⟩
      rcases receive_cases s other with hreceive | ⟨pending, -, hreceive⟩ <;> rw [hreceive]
      · exact h
      · rw [List.getElem?_set_ne hother, h]
  | leave other =>
    refine ⟨rfl, ?_⟩
    by_cases hother : other = listener
    · subst hother
      simp [step, leave, Operation.meet, hlt]
    · simp [step, leave, Operation.meet, hother, h]

theorem run_attend (h : s.listeners[listener]? = some seat) (ops : List Operation) :
    heard listener s ops = (attend listener ops seat).1 ∧
      (s.run ops).2.listeners[listener]? = some (attend listener ops seat).2 := by
  induction ops generalizing s seat with
  | nil => exact ⟨rfl, h⟩
  | cons op ops ih =>
    obtain ⟨htold, hnext⟩ := step_meet h op
    obtain ⟨hheard, hlast⟩ := ih hnext
    exact ⟨by rw [heard_cons, htold, hheard, attend], hlast⟩

/-! ### Conservation -/

theorem meet_balance {op : Operation} (h : op ≠ .leave listener) (pending : Nat) :
    ∃ left, (op.meet listener (some pending)).2 = some left ∧
      pending + [op].count .fire = known (op.meet listener (some pending)).1.toList + left := by
  cases op with
  | subscribe => exact ⟨pending, rfl, by simp [Operation.meet, known]⟩
  | fire => exact ⟨pending + 1, rfl, by simp [Operation.meet, known]⟩
  | receive other =>
    by_cases hother : other = listener
    · refine ⟨(hear pending).2, by simp [Operation.meet, hother], ?_⟩
      simpa [Operation.meet, hother] using (known_hear pending).symm
    · exact ⟨pending, by simp [Operation.meet, hother], by simp [Operation.meet, hother, known]⟩
  | leave other =>
    have hother : other ≠ listener := fun heq => h (by rw [heq])
    exact ⟨pending, by simp [Operation.meet, hother], by simp [Operation.meet, known]⟩

theorem attend_balance {ops : List Operation} (h : .leave listener ∉ ops) (pending : Nat) :
    ∃ left, (attend listener ops (some pending)).2 = some left ∧
      pending + ops.count .fire = known (attend listener ops (some pending)).1 + left := by
  induction ops generalizing pending with
  | nil => exact ⟨pending, rfl, by simp [attend, known]⟩
  | cons op ops ih =>
    -- What the first operation leaves is pending when the others begin.
    obtain ⟨hop, hops⟩ := not_or.mp (List.mem_cons.not.mp h)
    obtain ⟨between, hseat, hfirst⟩ := meet_balance (Ne.symm hop) pending
    obtain ⟨left, hlast, hrest⟩ := ih hops between
    refine ⟨left, by rw [attend, hseat, hlast], ?_⟩
    rw [attend, hseat, known_append, count_op_cons]
    omega

/-! ### The others -/

/-- What an operation is to a listener that is alone. -/
def Operation.alone? (listener : Nat) : Operation → Option Operation
  | .subscribe => none
  | .fire => some .fire
  | .receive other => if other = listener then some (.receive 0) else none
  | .leave other => if other = listener then some (.leave 0) else none

theorem attend_alone (listener : Nat) (ops : List Operation) (seat : Option Nat) :
    attend listener ops seat = attend 0 (ops.filterMap (Operation.alone? listener)) seat := by
  induction ops generalizing seat with
  | nil => rfl
  | cons op ops ih =>
    rw [List.filterMap_cons, attend, ih]
    cases op with
    | subscribe => rfl
    | fire => rfl
    | receive other => by_cases hother : other = listener <;> simp [Operation.alone?, Operation.meet, attend, hother]
    | leave other => by_cases hother : other = listener <;> simp [Operation.alone?, Operation.meet, attend, hother]

/-! ### Arrival -/

theorem length_step (s : StopSignal) (op : Operation) :
    (s.step op).2.listeners.length = s.listeners.length + [op].count .subscribe := by
  cases op with
  | subscribe => simp [step, subscribe]
  | fire => simp [step, fire]
  | receive listener =>
    rcases receive_cases s listener with hreceive | ⟨pending, -, hreceive⟩ <;> simp [step, hreceive]
  | leave listener => simp [step, leave]

theorem length_run (s : StopSignal) (ops : List Operation) :
    (s.run ops).2.listeners.length = s.listeners.length + ops.count .subscribe := by
  induction ops generalizing s with
  | nil => rfl
  | cons op ops ih =>
    rw [count_op_cons, ← Nat.add_assoc, ← length_step]
    exact ih (s.step op).2

theorem heard_eq_nil {ops : List Operation} (h : s.listeners.length + ops.count .subscribe ≤ listener) :
    heard listener s ops = [] := by
  induction ops generalizing s with
  | nil => rfl
  | cons op ops ih =>
    rw [count_op_cons] at h
    have hrest : heard listener (s.step op).2 ops = [] := ih (by rw [length_step]; omega)
    rw [heard_cons, hrest, List.append_nil]
    cases op with
    | receive other =>
      by_cases hother : other = listener
      · subst hother
        have habsent : s.listeners[other]? = none := List.getElem?_eq_none (by omega)
        simp [step, told, receive_of_absent (s := s) (by rw [habsent]; rfl)]
      · simp [step, told, hother]
    | _ => rfl

theorem step_subscribe (s : StopSignal) :
    (s.step .subscribe).2.listeners[s.listeners.length]? = some (some 0) := by
  simp [step, subscribe]

theorem length_run_new (ops : List Operation) : (run {} ops).2.listeners.length = ops.count .subscribe := by
  rw [length_run]
  exact Nat.zero_add _

/-- A newcomer hears, and has left to hear, what it would with nobody before it. -/
theorem arrival_attend (before after : List Operation) :
    heard (before.count .subscribe) {} (before ++ .subscribe :: after) =
        (attend (before.count .subscribe) after (some 0)).1 ∧
      (run {} (before ++ .subscribe :: after)).2.listeners[before.count .subscribe]? =
        some (attend (before.count .subscribe) after (some 0)).2 := by
  have hnew := step_subscribe (run {} before).2
  rw [length_run_new] at hnew
  obtain ⟨hheard, hlast⟩ := run_attend hnew after
  constructor
  · rw [heard_append, heard_eq_nil (by simp), List.nil_append, heard_cons, hheard]
    rfl
  · rw [run_append]
    exact hlast

/-! ## How many listen -/

/-- The listeners that leave, each once, where `come` have come before and those of `gone` have left. -/
def leavers (come : Nat) (gone : List Nat) : List Operation → List Nat
  | [] => gone
  | .subscribe :: ops => leavers (come + 1) gone ops
  | .leave listener :: ops => leavers come (if listener < come then gone.insert listener else gone) ops
  | _ :: ops => leavers come gone ops

variable {come : Nat} {gone : List Nat}

/-- So many have come, and these have left. -/
structure Counts (s : StopSignal) (come : Nat) (gone : List Nat) : Prop where
  length : s.listeners.length = come
  mem_gone : ∀ l, l ∈ gone ↔ s.listeners[l]? = some none
  total : s.count + gone.length = come

theorem left_iff (s : StopSignal) (l : Nat) :
    s.listeners[l]? = some none ↔ (s.listeners.map Option.isSome)[l]? = some false := by
  rw [List.getElem?_map]
  rcases s.listeners[l]? with _ | _ | pending <;> simp

theorem Counts.of_presence {t : StopSignal} (h : Counts s come gone)
    (hsame : t.listeners.map Option.isSome = s.listeners.map Option.isSome) : Counts t come gone where
  length := by
    rw [← h.length, ← List.length_map Option.isSome, hsame, List.length_map]
  mem_gone l := by
    rw [h.mem_gone, left_iff, left_iff, hsame]
  total := by
    have hcount : ∀ u : StopSignal, u.count = (u.listeners.map Option.isSome).countP id := fun u => by
      rw [count, List.countP_map]
      rfl
    rw [hcount, hsame, ← hcount, h.total]

theorem map_isSome_set {seat next : Option Nat} (h : s.listeners[listener]? = some seat)
    (hsame : next.isSome = seat.isSome) :
    (s.listeners.set listener next).map Option.isSome = s.listeners.map Option.isSome := by
  obtain ⟨hlt, rfl⟩ := List.getElem?_eq_some_iff.mp h
  rw [List.map_set, hsame, ← List.getElem_map Option.isSome (h := by simpa using hlt), List.set_getElem_self]

theorem Counts.subscribe (h : Counts s come gone) : Counts s.subscribe.2 (come + 1) gone where
  length := by simp [StopSignal.subscribe, h.length]
  mem_gone l := by
    rw [h.mem_gone, StopSignal.subscribe, List.getElem?_append]
    split
    next => rfl
    next hlt =>
      rw [List.getElem?_eq_none (Nat.le_of_not_lt hlt)]
      cases l - s.listeners.length <;> simp
  total := by
    have hnew : s.subscribe.2.count = s.count + 1 := by simp [StopSignal.subscribe, count]
    rw [hnew, Nat.add_right_comm, h.total]

theorem Counts.fire (h : Counts s come gone) : Counts s.fire come gone :=
  h.of_presence (by simp [StopSignal.fire, Function.comp_def])

theorem Counts.receive (h : Counts s come gone) (listener : Nat) : Counts (s.receive listener).2 come gone := by
  rcases receive_cases s listener with hreceive | ⟨pending, hget, hreceive⟩ <;> rw [hreceive]
  · exact h
  · exact h.of_presence (map_isSome_set hget rfl)

theorem Counts.leave_present (h : Counts s come gone) {pending : Nat}
    (hget : s.listeners[listener]? = some (some pending)) : Counts (s.leave listener) come (gone.insert listener) := by
  obtain ⟨hlt, -⟩ := List.getElem?_eq_some_iff.mp hget
  have hnew : listener ∉ gone := by
    rw [h.mem_gone, hget]
    exact nofun
  rw [List.insert_of_not_mem hnew]
  constructor
  case length => rw [StopSignal.leave, List.length_set, h.length]
  case mem_gone =>
    intro l
    rw [StopSignal.leave, List.mem_cons, h.mem_gone]
    by_cases hl : l = listener
    · simp [hl, hlt]
    · simp [hl, List.getElem?_set_ne (Ne.symm hl)]
  case total =>
    have hcount := count_leave hget
    have htotal := h.total
    rw [List.length_cons]
    omega

theorem Counts.leave (h : Counts s come gone) (listener : Nat) :
    Counts (s.leave listener) come (if listener < come then gone.insert listener else gone) := by
  rw [← h.length]
  -- The listener has never come, has left already, or is there.
  rcases hget : s.listeners[listener]? with _ | _ | pending
  · have hge := List.getElem?_eq_none_iff.mp hget
    rw [if_neg (Nat.not_lt.mpr hge), StopSignal.leave, List.set_eq_of_length_le hge, h.length]
    exact h
  · have hlt := (List.getElem?_eq_some_iff.mp hget).1
    rw [if_pos hlt, List.insert_of_mem ((h.mem_gone listener).mpr hget), h.length]
    exact h.of_presence (map_isSome_set hget rfl)
  · have hlt := (List.getElem?_eq_some_iff.mp hget).1
    rw [if_pos hlt, h.length]
    exact h.leave_present hget

theorem run_count (h : Counts s come gone) (ops : List Operation) :
    (s.run ops).2.count + (leavers come gone ops).length = come + ops.count .subscribe := by
  induction ops generalizing s come gone with
  | nil => exact h.total
  | cons op ops ih =>
    cases op with
    | subscribe =>
      rw [run, leavers, List.count_cons_self]
      exact (ih h.subscribe).trans (by omega)
    | fire => exact ih h.fire
    | receive listener => exact ih (h.receive listener)
    | leave listener => exact ih (h.leave listener)

/-! ## Nothing is lost -/

/-- What is owed to a listener that has heard some things since it came, while a number of firings passed. -/
structure Owes (s : StopSignal) (listener fired : Nat) (hearings : List Hearing) (pending : Nat) : Prop where
  there : s.listeners[listener]? = some (some pending)
  balance : fired = hearings.count .signal + (hearings.map Hearing.lag).sum + pending
  silence_iff : (s.receive listener).1 = some .silence ↔ pending = 0
  /-- It hears of the rest when it asks again, twice at most. -/
  settled : fired = known (hearings ++ heard listener s [.receive listener, .receive listener])

/-- What is told to a listener of a number that comes between some operations and others. -/
structure Served (listener : Nat) (before after : List Operation) : Prop where
  number : ((run {} before).2.step .subscribe).1 = .listener listener
  owes : .leave listener ∉ after → ∃ pending, Owes (run {} (before ++ .subscribe :: after)).2 listener
    (after.count .fire) (heard listener {} (before ++ .subscribe :: after)) pending
  /-- What was before and what the others do make no difference, also if it leaves. -/
  alone : heard listener {} (before ++ .subscribe :: after) =
      heard 0 {} (.subscribe :: after.filterMap (Operation.alone? listener)) ∧
    (run {} (before ++ .subscribe :: after)).2.listeners[listener]? =
      (run {} (.subscribe :: after.filterMap (Operation.alone? listener))).2.listeners[0]?

/-- Every listener that stays is told of each firing since it came, and those that have not left are counted. -/
structure Lossless : Prop where
  served : ∀ before after, Served (before.count .subscribe) before after
  counted : ∀ ops, (run {} ops).2.count + (leavers 0 [] ops).length = ops.count .subscribe

theorem owes_of_pending {fired pending : Nat} {hearings : List Hearing}
    (h : s.listeners[listener]? = some (some pending)) (hbalance : fired = known hearings + pending) :
    Owes s listener fired hearings pending where
  there := h
  balance := hbalance
  silence_iff := by
    rw [receive_of_pending h]
    match pending with
    | 0 => simp [hear]
    | 1 => simp [hear]
    | missed + 2 => simp [hear]
  settled := by
    rw [(run_attend h _).1, known_append, hbalance]
    match pending with
    | 0 => simp [attend, Operation.meet, hear, known, Hearing.lag]
    | 1 => simp [attend, Operation.meet, hear, known, Hearing.lag]
    | missed + 2 =>
      simp [attend, Operation.meet, hear, known, Hearing.lag]
      omega

theorem served (before after : List Operation) : Served (before.count .subscribe) before after where
  number := by rw [step, subscribe, length_run_new]
  owes hstays := by
    obtain ⟨hheard, hlast⟩ := arrival_attend before after
    obtain ⟨pending, hleft, hbalance⟩ := attend_balance hstays 0
    refine ⟨pending, owes_of_pending (by rw [hlast, hleft]) ?_⟩
    rw [hheard, ← hbalance, Nat.zero_add]
  alone := by
    obtain ⟨hheard, hlast⟩ := arrival_attend before after
    obtain ⟨hheard', hlast'⟩ := arrival_attend [] (after.filterMap (Operation.alone? (before.count .subscribe)))
    rw [hheard, hlast, attend_alone]
    exact ⟨hheard'.symm, hlast'.symm⟩

theorem run_lossless : Lossless where
  served := served
  counted ops := by
    have hcounts : Counts {} 0 [] := ⟨rfl, by simp, rfl⟩
    rw [run_count hcounts, Nat.zero_add]

/-- The second listener takes one signal, is told that it missed the next, and has not asked for the last. -/
theorem run_lossless_lagging :
    Owes (run {} [.subscribe, .fire, .subscribe, .fire, .leave 0, .receive 1, .fire, .fire, .receive 1]).2 1 3
      [.signal, .missed 1] 1 := by
  obtain ⟨pending, howes⟩ := (run_lossless.served [.subscribe, .fire]
    [.fire, .leave 0, .receive 1, .fire, .fire, .receive 1]).owes (by decide)
  have hpending : pending = 1 := Option.some.inj (Option.some.inj howes.there).symm
  subst hpending
  exact howes

end StopSignal

end ReverseProxy
