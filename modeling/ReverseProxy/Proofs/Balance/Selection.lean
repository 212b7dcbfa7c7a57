import ReverseProxy.Proofs.Balance.Division

/-! # What a selection finds, and where it leaves the cursor -/

namespace ReverseProxy

/-! ## Written flags -/

/-- What an operation writes at a position. A mark is for the first server with its address. -/
def Operation.writeAt? (servers : List Server) (q : Nat) : Operation → Option Bool
  | mark address up =>
    if Address.isValid address ∧ servers.findIdx? (·.address = address) = some q then some up else none
  | verdict position up => if position = q then some up else none
  | select | list => none

namespace Pool

/-- The flag that was written at a position last. Endpoints start up. -/
def flagAfter (servers : List Server) (done : List Operation) (q : Nat) : Bool :=
  (done.filterMap (·.writeAt? servers q)).getLast?.getD true

theorem position?_eq_findIdx? (pool : Pool) (address : String) :
    pool.position? address = pool.servers.findIdx? (·.address = address) := by
  rw [servers, List.findIdx?_map]
  rfl

theorem isUp_write {pool : Pool} {q : Nat} (hq : q < pool.ring.length) (p : Nat) (up : Bool) :
    (pool.write p up).isUp q = if p = q then up else pool.isUp q := by
  simp only [isUp, isUpIn, write, List.getElem?_modify, List.getElem?_eq_getElem hq]
  split <;> rfl

theorem step_isUp (op : Operation) {pool : Pool} {q : Nat} (hq : q < pool.ring.length) :
    (pool.step op).2.isUp q = (op.writeAt? pool.servers q).getD (pool.isUp q) := by
  cases op with
  | select => rfl
  | mark address up =>
    cases hparse : Address.parse address with
    | error e =>
      -- What is refused writes nothing.
      have hinvalid : ¬Address.isValid address := by
        rw [Address.isValid_iff, hparse]
        rintro ⟨a, ⟨⟩⟩
      rw [step, mark_of_error up hparse, Operation.writeAt?, if_neg fun h => hinvalid h.1]
      rfl
    | ok a =>
      have hvalid : Address.isValid address := Address.isValid_iff.mpr ⟨a, hparse⟩
      rw [step, mark_of_ok up hparse, position?_eq_findIdx?, Operation.writeAt?]
      cases pool.servers.findIdx? (·.address = address) with
      | none => simp [Operation.marking]
      | some p =>
        simp only [Operation.marking, isUp_write hq, hvalid, true_and, Option.some.injEq]
        split <;> rfl
  | verdict p up =>
    rw [step, isUp_write hq, Operation.writeAt?]
    split <;> rfl
  | list => rfl

theorem run_isUp (done : List Operation) {pool : Pool} {q : Nat} (hq : q < pool.ring.length) :
    (pool.run done).2.isUp q = (done.filterMap (·.writeAt? pool.servers q)).getLast?.getD (pool.isUp q) := by
  induction done generalizing pool with
  | nil => rfl
  | cons op done ih =>
    -- What `op` writes counts only where nothing is written later.
    have hlater := ih (hq.trans_eq (pool.step_length op).symm)
    rw [step_servers, step_isUp op hq] at hlater
    rw [run, Operation.run_cons, ← run, hlater, List.filterMap_cons]
    cases op.writeAt? pool.servers q with
    | none => rfl
    | some up => simp [List.getLast?_cons]

/-! ## The first endpoint that is up -/

/-- The first flag that is set, from a cursor on and round a ring, is so many places away. -/
structure FirstUp (flag : Nat → Bool) (length cursor distance : Nat) : Prop where
  lt : distance < length
  up : flag ((cursor + distance) % length) = true
  down : ∀ d < distance, flag ((cursor + d) % length) = false

theorem FirstUp.position_lt {flag : Nat → Bool} {length cursor distance : Nat}
    (h : FirstUp flag length cursor distance) (d : Nat) : (cursor + d) % length < length :=
  Nat.mod_lt _ (Nat.zero_lt_of_lt h.lt)

theorem FirstUp.congr {flag flag' : Nat → Bool} {length cursor distance : Nat}
    (h : FirstUp flag length cursor distance) (hsame : ∀ q < length, flag q = flag' q) :
    FirstUp flag' length cursor distance := by
  refine ⟨h.lt, ?_, ?_⟩
  · rw [← hsame _ (h.position_lt _), h.up]
  · intro d hd
    rw [← hsame _ (h.position_lt _), h.down d hd]

/-- A selection serves the first endpoint that is up and goes behind it, or refuses and leaves all as it is. -/
theorem select_cases (pool : Pool) :
    (∃ d s, FirstUp pool.isUp pool.ring.length pool.cursor d ∧
      pool.servers[(pool.cursor + d) % pool.ring.length]? = some s ∧
      pool.select = (.ok s.address, pool.behind ((pool.cursor + d) % pool.ring.length))) ∨
    (∀ q, pool.isUp q = false) ∧ pool.select = (.error (.noHealthyEndpoint pool.backend), pool) := by
  rcases pick_cases pool with ⟨before, q, after, e, hsweep, hbefore, hget, hup, hpick⟩ | ⟨hdown, hpick⟩
  · have hlt : before.length < pool.sweep.length := by simp [hsweep]
    have hq : q = (pool.cursor + before.length) % pool.ring.length := by
      rw [← sweep_getElem hlt]
      simp [hsweep]
    refine Or.inl ⟨before.length, e.server, ⟨by simpa using hlt, ?_, ?_⟩, ?_, ?_⟩
    · rw [← hq]
      exact isUp_iff.mpr ⟨e, hget, hup⟩
    · intro d hd
      rw [← sweep_getElem (hd.trans hlt)]
      apply hbefore
      simp [hsweep, List.getElem_append_left hd]
    · rw [← hq, servers, List.getElem?_map, hget]
      rfl
    · rw [← hq, select, hpick]
      rfl
  · exact Or.inr ⟨hdown, by rw [select, hpick]⟩

/-! ## Where a selection looks -/

/-- A walk that breaks off where no endpoint stands. -/
def tryWalk (ring : List Endpoint) : Nat → Nat → Option (Option (Nat × Endpoint) × Nat)
  | 0, cursor => some (none, cursor)
  | steps + 1, cursor => do
    let e ← ring[cursor]?
    let next := (cursor + 1) % ring.length
    if e.up then return (some (cursor, e), next) else tryWalk ring steps next

theorem tryWalk_eq {ring : List Endpoint} (steps : Nat) {cursor : Nat} (h : cursor < ring.length) :
    tryWalk ring steps cursor = some (walk ring steps cursor) := by
  induction steps generalizing cursor with
  | zero => rfl
  | succ steps ih =>
    have hnext : (cursor + 1) % ring.length < ring.length := Nat.mod_lt _ (by omega)
    rw [tryWalk, walk, List.getElem?_eq_getElem h, Option.bind_eq_bind, Option.bind_some]
    dsimp only
    split
    · rfl
    · exact ih hnext

/-! ## Refusals -/

theorem run_cursor {later : List Operation} {pool : Pool}
    (h : ∀ a, .selected (.ok a) ∉ (pool.run later).1) : (pool.run later).2.cursor = pool.cursor := by
  induction later generalizing pool with
  | nil => rfl
  | cons op later ih =>
    rw [run, Operation.run_cons, ← run] at h ⊢
    have hfirst : ∀ a, (pool.step op).1 ≠ .selected (.ok a) := fun a ha => h a (ha ▸ List.mem_cons_self)
    refine (ih fun a ha => h a (List.mem_cons_of_mem _ ha)).trans ?_
    by_cases hop : op = .select
    · subst hop
      rcases select_cases pool with ⟨d, s, -, -, hselect⟩ | ⟨-, hselect⟩
      · exact absurd (by rw [step, hselect]) (hfirst s.address)
      · rw [step, hselect]
    · rcases step_cases pool hop with hsame | ⟨q, up, hwrite⟩
      · rw [hsame]
      · rw [hwrite, write_cursor]

/-! ## Every run -/

/-- What a selection does after a run, told from the servers and from what was done. -/
structure Exact (backend : String) (servers : List Server) (done : List Operation) (pool : Pool) : Prop where
  cursor_lt : pool.cursor < servers.length
  /-- It never looks where there is no endpoint. -/
  onRing : tryWalk pool.ring pool.ring.length pool.cursor = some (pool.pick.1, pool.pick.2.cursor)
  serves : (∃ address, pool.select.1 = .ok address) ↔ ∃ q < servers.length, flagAfter servers done q
  finds : ∀ q < servers.length, flagAfter servers done q →
    ∃ d s, FirstUp (flagAfter servers done) servers.length pool.cursor d ∧
      servers[(pool.cursor + d) % servers.length]? = some s ∧
      pool.select = (.ok s.address, pool.behind ((pool.cursor + d) % servers.length))
  refuses : (∀ q < servers.length, flagAfter servers done q = false) →
    pool.select = (.error (.noHealthyEndpoint backend), pool)
  /-- The rotation goes on where it stopped, however long nobody was served. -/
  resumes : ∀ later, (∀ a, .selected (.ok a) ∉ (pool.run later).1) → (pool.run later).2.cursor = pool.cursor

theorem exact_of_flags {pool : Pool} {done : List Operation}
    (hflag : ∀ q < pool.servers.length, pool.isUp q = flagAfter pool.servers done q) :
    Exact pool.backend pool.servers done pool := by
  have hlength : pool.servers.length = pool.ring.length := List.length_map _
  have hselect := select_cases pool
  rw [← hlength] at hselect
  have hfinds : ∀ q < pool.servers.length, flagAfter pool.servers done q →
      ∃ d s, FirstUp (flagAfter pool.servers done) pool.servers.length pool.cursor d ∧
        pool.servers[(pool.cursor + d) % pool.servers.length]? = some s ∧
        pool.select = (.ok s.address, pool.behind ((pool.cursor + d) % pool.servers.length)) := by
    intro q hq hup
    rcases hselect with ⟨d, s, hfirst, hget, hselect⟩ | ⟨hdown, -⟩
    · exact ⟨d, s, hfirst.congr hflag, hget, hselect⟩
    · simp [← hflag q hq, hdown] at hup
  have hrefuses : (∀ q < pool.servers.length, flagAfter pool.servers done q = false) →
      pool.select = (.error (.noHealthyEndpoint pool.backend), pool) := by
    intro hdown
    rcases hselect with ⟨d, s, hfirst, -, -⟩ | ⟨-, hselect⟩
    · have hup := (hfirst.congr hflag).up
      simp [hdown _ (hfirst.position_lt d)] at hup
    · exact hselect
  constructor
  case cursor_lt => exact hlength ▸ pool.cursor_lt
  case onRing => exact tryWalk_eq _ pool.cursor_lt
  case serves =>
    constructor
    · rintro ⟨address, haddress⟩
      by_contra hdown
      rw [hrefuses (by simpa using hdown)] at haddress
      cases haddress
    · rintro ⟨q, hq, hup⟩
      obtain ⟨d, s, -, -, hselect⟩ := hfinds q hq hup
      exact ⟨s.address, by rw [hselect]⟩
  case finds => exact hfinds
  case refuses => exact hrefuses
  case resumes => exact fun later => run_cursor

theorem ofServers_exact {backend : String} {servers : List Server} (hname : backend ≠ "") (hne : servers ≠ []) :
    ∃ pool, ofServers backend servers = .ok pool ∧ ∀ done, Exact backend servers done (pool.run done).2 := by
  obtain ⟨start, hstart⟩ := exists_ofServers hname hne
  obtain ⟨hbackend, hring⟩ := ofServers_eq hstart
  have hservers := ofServers_servers hstart
  refine ⟨start, hstart, ?_⟩
  intro done
  rw [← hbackend, ← run_backend done start, ← hservers, ← run_servers done start]
  apply exact_of_flags
  intro q hq
  rw [run_servers, hservers] at hq
  have hfresh : start.isUp q = true := by simp [isUp, isUpIn, hring, hq]
  rw [run_isUp done (by simpa [hring] using hq), hfresh, run_servers, flagAfter]

/-- Two servers of one address, and one whose address is none. -/
def oddServers : List Server := [
  { name := "s1", address := "a:1" },
  { name := "s2", address := "a:1" },
  { name := "s3", address := "b" }]

theorem ofServers_exact_oddServers :
    ("be" ≠ "" ∧ oddServers ≠ []) ∧
      ∃ pool, ofServers "be" oddServers = .ok pool ∧ ∀ done, Exact "be" oddServers done (pool.run done).2 :=
  ⟨by decide, ofServers_exact (by decide) (by decide)⟩

example : (List.range 3).map (flagAfter oddServers [.mark "a:1" false, .mark "b" false, .verdict 1 false]) =
    [false, false, true] := by decide

end Pool

end ReverseProxy
