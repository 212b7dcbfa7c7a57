import ReverseProxy.Proofs.Config.Soundness
import ReverseProxy.Proofs.Health.Course

/-! # Probes keep to a timetable -/

namespace ReverseProxy

/-! ## Endpoints of a fleet -/

namespace Fleet

def endpoint? (fleet : Fleet) (site : Site) : Option Endpoint := do
  (← fleet.balancer? site.backend).endpoints[site.position]?

theorem endpoint?_write {fleet : Fleet} {site other : Site} (hsite : fleet.Knows site.backend)
    (hother : fleet.Knows other.backend) (up : Bool) :
    (fleet.write other.backend other.position up).endpoint? site =
      if other = site then (fleet.endpoint? site).map fun e => { e with up } else fleet.endpoint? site := by
  unfold endpoint? write
  by_cases hslot : site.backend.slot = other.backend.slot
  · have hbackend := hsite.eq_of_slot hother hslot
    rw [hbackend]
    cases hb : fleet.balancer? other.backend with
    | none =>
      have hnone : (fleet.update other.backend (·.write other.position up)).balancer? other.backend = none := by
        rw [balancer?, Option.map_eq_none_iff] at hb
        rw [balancer?, update, List.getElem?_modify_eq, hb]
        rfl
      simp [hnone]
    | some b =>
      rw [update_self hb]
      simp only [Option.bind_eq_bind, Option.bind_some, Balancer.write_endpoints, Endpoint.write,
        List.getElem?_modify]
      obtain ⟨backend, position⟩ := site
      obtain ⟨backend', position'⟩ := other
      obtain rfl : backend = backend' := hbackend
      by_cases hposition : position' = position
      · simp [hposition, Endpoint.mark]
      · simp [hposition]
  · have hne : other ≠ site := by
      rintro rfl
      exact hslot rfl
    rw [update_other hslot, if_neg hne]

theorem endpoint?_draw (fleet : Fleet) (backend : Backend) (site : Site) :
    (fleet.draw backend).2.endpoint? site = fleet.endpoint? site := by
  unfold endpoint?
  cases hb : fleet.balancer? backend with
  | none => rw [draw, hb]
  | some b =>
    rw [draw_eq hb]
    by_cases hslot : site.backend.slot = backend.slot
    · rw [balancer?_of_slot hslot, update_self hb, balancer?_of_slot hslot, hb]
      simp [b.select_spec.same]
    · rw [update_other hslot]

theorem mark_eq_write {fleet next : Fleet} {backend : Backend} {address : String} {up : Bool}
    (h : fleet.mark backend address up = .ok next) :
    ∃ b q, fleet.balancer? backend = some b ∧ Endpoint.position? b.endpoints address = some q ∧
      next = fleet.write backend q up := by
  cases hb : fleet.balancer? backend with
  | none =>
    rw [mark, hb] at h
    cases h
  | some b =>
    rw [mark_eq hb] at h
    cases hmark : b.mark address up with
    | error e =>
      rw [hmark] at h
      cases h
    | ok marked =>
      rw [hmark] at h
      cases h
      obtain ⟨q, hq, rfl⟩ := Balancer.mark_eq hmark
      refine ⟨b, q, rfl, hq, ?_⟩
      rw [balancer?, Option.map_eq_some_iff] at hb
      obtain ⟨⟨name, _⟩, hget, rfl⟩ := hb
      simp only [write, update, List.modify_eq_set_getElem?, hget]
      rfl

end Fleet

/-! ## Journals go on -/

namespace Journal

variable {journal : Journal} {time : Nat} {site other : Site}

theorem rounds_append (journal : Journal) (n : Nat × Note) (site : Site) :
    rounds (journal ++ [n]) site =
      { begun := (journal.rounds site).begun ++ (Note.begun? site n).toList
        ended := (journal.rounds site).ended ++ (Note.ended? site n).toList } := by
  unfold rounds
  cases hbegun : Note.begun? site n <;> cases hended : Note.ended? site n <;> simp [hbegun, hended]

theorem rounds_append_other {n : Nat × Note} (hbegun : Note.begun? site n = none)
    (hended : Note.ended? site n = none) : rounds (journal ++ [n]) site = journal.rounds site := by
  simp [rounds_append, hbegun, hended]

theorem flag_append (journal : Journal) (time : Nat) (note : Note) (site : Site) :
    flag (journal ++ [(time, note)]) site =
      ((note.write?.filter (·.1 = site)).map (·.2)).getD (journal.flag site) := by
  unfold flag
  rw [List.filterMap_append]
  cases h : note.write?.filter (·.1 = site) with
  | none => simp [h]
  | some write => simp [h]

theorem HasFired.append {backend : String} (h : journal.HasFired backend) (more : Journal) :
    HasFired (journal ++ more) backend := by
  obtain ⟨time, htime⟩ := h
  exact ⟨time, List.mem_append_left more htime⟩

end Journal

/-! ## One checker -/

/-- What a checker is at agrees with the probes that have begun and ended. -/
inductive Checker.Keeps (c : Checker) (now : Nat) (r : Rounds) : Prop where
  | resting (hphase : c.phase = .resting (r.next c.interval c.timeout))
      (hidle : r.ended.length = r.begun.length) (hnow : now ≤ r.next c.interval c.timeout)
  | probing {before : List (Nat × Probe)} {b : Nat × Probe}
      (hphase : c.phase = .probing b.1 (b.2.span c.timeout) (b.2.verdict c.timeout))
      (hbegun : r.begun = before ++ [b]) (hlength : r.ended.length = before.length)
      (hnow : now ≤ (Rounds.outcome c.timeout b).1)
  | finished (hphase : c.phase = .finished)

namespace Checker.Keeps

variable {c : Checker} {now : Nat} {r : Rounds}

theorem now_le_due (h : c.Keeps now r) (hbusy : c.phase ≠ .finished) : now ≤ r.due c.interval c.timeout := by
  unfold Rounds.due
  cases h with
  | resting hphase hidle hnow => rwa [if_neg (by omega)]
  | probing hphase hbegun hlength hnow =>
    have hlt : r.ended.length < r.begun.length := by simp [hbegun, hlength]
    rw [if_pos hlt, hbegun, List.getLast?_concat]
    exact hnow
  | finished hphase => exact absurd hphase hbusy

theorem now_le {time : Nat} (h : c.Keeps now r) (hdue : c.due? = some time) : now ≤ time := by
  unfold due? at hdue
  cases h with
  | resting hphase hidle hnow =>
    rw [hphase, Option.some.injEq] at hdue
    rwa [← hdue]
  | probing hphase hbegun hlength hnow =>
    rw [hphase, Option.some.injEq] at hdue
    rwa [← hdue]
  | finished hphase =>
    rw [hphase] at hdue
    cases hdue

theorem elapse (h : c.Keeps now r) {later : Nat} (hdue : ∀ time, c.due? = some time → later ≤ time) :
    c.Keeps later r := by
  cases h with
  | resting hphase hidle hnow => exact .resting hphase hidle (hdue _ (by rw [due?, hphase]))
  | probing hphase hbegun hlength hnow =>
    exact .probing hphase hbegun hlength (hdue _ (by rw [due?, hphase]; rfl))
  | finished hphase => exact .finished hphase

end Checker.Keeps

/-- The checker at a site has kept to its timetable so far. -/
structure Checker.Kept (c : Checker) (now : Nat) (journal : Journal) : Prop where
  regular : (journal.rounds c.site).Regular c.interval c.timeout
  keeps : c.Keeps now (journal.rounds c.site)

namespace Checker

variable {c : Checker} {now time : Nat} {journal : Journal}

theorem Kept.begin (h : c.Kept now journal) (hphase : c.phase = .resting now) (probe : Probe) :
    (c.begin now probe).Kept now (journal ++ [(now, .began c.site probe)]) := by
  obtain ⟨hregular, hkeeps⟩ := h
  cases hkeeps with
  | resting hresting hidle =>
    obtain rfl : now = (journal.rounds c.site).next c.interval c.timeout := by
      rwa [hphase, Phase.resting.injEq] at hresting
    have hrounds : Journal.rounds (journal ++ [((journal.rounds c.site).next c.interval c.timeout,
        Note.began c.site probe)]) c.site =
          { journal.rounds c.site with
            begun := (journal.rounds c.site).begun ++
              [((journal.rounds c.site).next c.interval c.timeout, probe)] } := by
      simp [Journal.rounds_append, Note.begun?, Note.ended?]
    constructor
    · exact hrounds ▸ hregular.begin hidle probe
    · refine .probing (b := (_, probe)) ?_ (congrArg Rounds.begun hrounds) ?_ (Nat.le_add_right _ _)
      · rw [Checker.begin, Probe.within_eq]
      · exact (congrArg (·.ended.length) hrounds).trans hidle
  | probing hprobing =>
    rw [hphase] at hprobing
    cases hprobing
  | finished hfinished =>
    rw [hphase] at hfinished
    cases hfinished

theorem Kept.finish {since duration : Nat} {verdict : Bool} (h : c.Kept (since + duration) journal)
    (hinterval : 0 < c.interval) (hphase : c.phase = .probing since duration verdict) :
    Kept { c with phase := afterProbe .loop c.interval since duration } (since + duration)
      (journal ++ [(since + duration, .ended c.site verdict)]) := by
  obtain ⟨hregular, hkeeps⟩ := h
  cases hkeeps with
  | resting hresting =>
    rw [hphase] at hresting
    cases hresting
  | @probing before b hprobing hbegun hlength =>
    obtain ⟨rfl, rfl, rfl⟩ : since = b.1 ∧ duration = b.2.span c.timeout ∧ verdict = b.2.verdict c.timeout := by
      rwa [hphase, Phase.probing.injEq] at hprobing
    have hrounds : Journal.rounds (journal ++ [(b.1 + b.2.span c.timeout,
        Note.ended c.site (b.2.verdict c.timeout))]) c.site =
          { journal.rounds c.site with
            ended := (journal.rounds c.site).ended ++ [Rounds.outcome c.timeout b] } := by
      simp [Journal.rounds_append, Note.begun?, Note.ended?, Rounds.outcome]
    have hnext : b.1 + b.2.span c.timeout + c.interval =
        Rounds.next c.interval c.timeout { journal.rounds c.site with
          ended := (journal.rounds c.site).ended ++ [Rounds.outcome c.timeout b] } := by
      rw [Rounds.next, hbegun, List.getLast?_concat]
      rfl
    -- An interval is a millisecond at least, so the limit on rounds never takes effect.
    have hphase' : afterProbe .loop c.interval b.1 (b.2.span c.timeout) =
        .resting (b.1 + b.2.span c.timeout + c.interval) := by
      rw [afterProbe, Nat.max_eq_left (by omega)]
    constructor
    · exact hrounds ▸ hregular.finish hbegun hlength
    · rw [hphase', hnext]
      refine .resting ?_ ?_ ?_
      · rw [hrounds]
      · rw [hrounds]
        simp [hbegun, hlength]
      · rw [hrounds, ← hnext]
        exact Nat.le_add_right _ _
  | finished hfinished =>
    rw [hphase] at hfinished
    cases hfinished

/-- A turn begins the probe that comes next, or ends the one under way, and says so. -/
theorem Kept.turn (h : c.Kept now journal) (hinterval : 0 < c.interval) (hdue : c.due? = some time)
    (hle : time ≤ now) (prober : Prober) (world : World) :
    (c.turn prober.ward .loop world).1.Kept now (journal ++ ((c.note? prober world).map (now, ·)).toList) := by
  obtain rfl := Nat.le_antisymm hle (h.keeps.now_le hdue)
  unfold Checker.turn note?
  unfold due? at hdue
  cases hphase : c.phase with
  | resting till =>
    rw [hphase, Option.some.injEq] at hdue
    subst hdue
    exact h.begin hphase _
  | probing since duration verdict =>
    rw [hphase, Option.some.injEq] at hdue
    subst hdue
    exact h.finish hinterval hphase
  | finished =>
    rw [hphase] at hdue
    cases hdue

theorem Kept.of_rounds_eq {later : Journal} (h : c.Kept now journal)
    (hsame : later.rounds c.site = journal.rounds c.site) : c.Kept now later :=
  ⟨hsame ▸ h.regular, hsame ▸ h.keeps⟩

theorem turn_stop {σ : Type} (ward : Ward σ) (mode : CheckMode) (c : Checker) (world : σ) :
    (c.turn ward mode world).1.stop = c.stop := by
  unfold turn
  split <;> rfl

/-- In a loop nobody comes to an end alone. -/
theorem turn_busy {σ : Type} (ward : Ward σ) {c : Checker} (hbusy : c.phase ≠ .finished) (world : σ) :
    (c.turn ward .loop world).1.phase ≠ .finished := by
  unfold turn
  cases hphase : c.phase with
  | finished => exact absurd hphase hbusy
  | resting till => nofun
  | probing since duration verdict => nofun

theorem turn_cases (prober : Prober) (mode : CheckMode) {c : Checker} (hbusy : c.phase ≠ .finished)
    (world : World) :
    (∃ probe, c.note? prober world = some (.began c.site probe) ∧
      (c.turn prober.ward mode world).2.balancers = world.balancers) ∨
    ∃ verdict, c.note? prober world = some (.ended c.site verdict) ∧
      (c.turn prober.ward mode world).2.balancers =
        world.balancers.write c.site.backend c.site.position verdict := by
  unfold turn note?
  cases hphase : c.phase with
  | finished => exact absurd hphase hbusy
  | resting till => exact Or.inl ⟨_, rfl, prober.ask_balancers _ _⟩
  | probing since duration verdict => exact Or.inr ⟨verdict, rfl, rfl⟩

theorem rounds_note_other (prober : Prober) (world : World) {site : Site} (hne : site ≠ c.site) :
    Journal.rounds (journal ++ ((c.note? prober world).map (now, ·)).toList) site = journal.rounds site := by
  unfold note?
  cases c.phase with
  | resting till => exact Journal.rounds_append_other (if_neg hne.symm) rfl
  | probing since duration verdict => exact Journal.rounds_append_other rfl (if_neg hne.symm)
  | finished => exact congrArg (Journal.rounds · site) (List.append_nil journal)

end Checker

/-! ## All checkers -/

theorem Monitor.site_ne_of_mem_eraseIdx {m : Monitor} {position : Nat} {w v : Watch} (hsites : m.sites.Nodup)
    (hget : m.queue[position]? = some w) (hv : v ∈ m.queue.eraseIdx position) : v.checker.site ≠ w.checker.site := by
  obtain ⟨hi, hw⟩ := List.getElem?_eq_some_iff.mp hget
  have hperm := (List.getElem_cons_eraseIdx_perm hi).map (·.checker.site)
  have hnodup := hperm.nodup_iff.mpr hsites
  rw [hw, List.map_cons, List.nodup_cons] at hnodup
  exact fun hsame => hnodup.1 (List.mem_map.mpr ⟨v, hv, hsame⟩)

namespace State

theorem afterTurnBy_backend? {s : State} {w : Watch} (hbusy : w.checker.phase ≠ .finished) (prober : Prober)
    (position : Nat) (name : String) :
    (s.afterTurnBy prober position w).world.balancers.backend? name = s.world.balancers.backend? name := by
  rcases Checker.turn_cases prober s.monitor.mode hbusy s.world with ⟨_, -, hfleet⟩ | ⟨_, -, hfleet⟩
  · exact congrArg (Fleet.backend? · name) hfleet
  · exact (congrArg (Fleet.backend? · name) hfleet).trans (Fleet.backend?_update _ _ _ name)

/-- All checkers are about to begin, and all endpoints are up. -/
structure Fresh (s : State) : Prop where
  now : s.now = 0
  mode : s.monitor.mode = .loop
  wired : s.Wired
  sites : s.monitor.sites.Nodup
  resting : ∀ w ∈ s.monitor.queue, w.checker.phase = .resting 0
  uncalled : ∀ w ∈ s.monitor.queue, ¬Monitor.Called s.monitor.signals w
  positive : ∀ w ∈ s.monitor.queue, 0 < w.checker.interval
  up : ∀ site e, s.world.balancers.endpoint? site = some e → e.up

/-- What holds of a state that came of a fresh one, with a journal of what happened in between. -/
structure Timed (fresh : State) (journal : Journal) (s : State) : Prop where
  mode : s.monitor.mode = .loop
  wired : s.Wired
  backends : ∀ name, s.world.balancers.backend? name = fresh.world.balancers.backend? name
  /-- Checkers differ from those at first only in what they are at. -/
  roster : (s.monitor.queue.map (·.checker.stop)).Perm (fresh.monitor.queue.map (·.checker.stop))
  kept : ∀ w ∈ s.monitor.queue, w.checker.Kept s.now journal
  told : ∀ w ∈ s.monitor.queue, w.isFinished ∨ Monitor.Called s.monitor.signals w →
    journal.HasFired w.backend.name
  silent : ∀ site ∉ fresh.monitor.sites, journal.rounds site = {}
  flags : ∀ site, fresh.world.balancers.Knows site.backend → s.world.balancers.endpoint? site =
    (fresh.world.balancers.endpoint? site).map fun e => { e with up := journal.flag site }

theorem Fresh.timed {s : State} (h : s.Fresh) : Timed s [] s where
  mode := h.mode
  wired := h.wired
  backends := fun _ => rfl
  roster := List.Perm.refl _
  kept := by
    intro w hw
    exact ⟨Rounds.regular_nil, .resting (h.resting w hw) rfl (Nat.le_of_eq h.now)⟩
  told := by
    intro w hw hquiet
    refine absurd hquiet (not_or.mpr ⟨?_, h.uncalled w hw⟩)
    rw [Watch.isFinished, h.resting w hw]
    nofun
  silent := fun _ _ => rfl
  flags := by
    intro site _
    cases he : s.world.balancers.endpoint? site with
    | none => rfl
    | some e =>
      have hup := h.up site e he
      obtain ⟨server, up⟩ := e
      cases hup
      rfl

namespace Timed

variable {fresh s : State} {journal : Journal}

theorem sites (h : Timed fresh journal s) : s.monitor.sites.Perm fresh.monitor.sites := by
  have hmap := h.roster.map (·.site)
  rwa [List.map_map, List.map_map] at hmap

theorem interval_pos (h : Timed fresh journal s) (hfresh : fresh.Fresh) {w : Watch} (hw : w ∈ s.monitor.queue) :
    0 < w.checker.interval := by
  obtain ⟨v, hv, hsame⟩ := List.mem_map.mp (h.roster.mem_iff.mp (List.mem_map_of_mem hw))
  have hinterval : v.checker.stop.interval = w.checker.stop.interval := congrArg Checker.interval hsame
  exact Nat.lt_of_lt_of_eq (hfresh.positive v hv) hinterval

theorem flags_of_eq (h : Timed fresh journal s) {fleet : Fleet} {later : Journal}
    (hfleet : ∀ site, fleet.endpoint? site = s.world.balancers.endpoint? site)
    (hflag : ∀ site, later.flag site = journal.flag site) (site : Site)
    (hsite : fresh.world.balancers.Knows site.backend) : fleet.endpoint? site =
      (fresh.world.balancers.endpoint? site).map fun e => { e with up := later.flag site } := by
  rw [hfleet, hflag, h.flags site hsite]

theorem flags_of_write (h : Timed fresh journal s) {other : Site} (hother : s.world.balancers.Knows other.backend)
    {note : Note} {up : Bool} (hnote : note.write? = some (other, up)) (site : Site)
    (hsite : fresh.world.balancers.Knows site.backend) :
    (s.world.balancers.write other.backend other.position up).endpoint? site =
      (fresh.world.balancers.endpoint? site).map fun e =>
        { e with up := Journal.flag (journal ++ [(s.now, note)]) site } := by
  have hknows : s.world.balancers.Knows site.backend := by rwa [Fleet.Knows, h.backends]
  rw [Fleet.endpoint?_write hknows hother, h.flags site hsite, Journal.flag_append, hnote]
  by_cases hsame : other = site
  · simp [hsame, Function.comp_def, Option.filter]
  · simp [hsame, Option.filter]

/-! ### What a moment does -/

theorem elapse (h : Timed fresh journal s) (milliseconds : Nat)
    (hdue : ∀ w ∈ s.monitor.queue, ∀ time, w.checker.due? = some time → s.now + milliseconds ≤ time) :
    Timed fresh journal { s with now := s.now + milliseconds } where
  mode := h.mode
  wired := h.wired
  backends := h.backends
  roster := h.roster
  kept := fun w hw => ⟨(h.kept w hw).regular, (h.kept w hw).keeps.elapse (hdue w hw)⟩
  told := h.told
  silent := h.silent
  flags := h.flags

theorem fire (h : Timed fresh journal s) (name : String) :
    Timed fresh (journal ++ [(s.now, .fired name)]) ((Happening.fire name).apply s) where
  mode := h.mode
  wired := h.wired.apply (.fire name)
  backends := h.backends
  roster := h.roster
  kept := fun w hw => (h.kept w hw).of_rounds_eq (Journal.rounds_append_other rfl rfl)
  told := by
    have hbefore := fun w hw hquiet => (h.told w hw hquiet).append [(s.now, .fired name)]
    rintro w hw (hfinished | ⟨missed, hmissed⟩)
    · exact hbefore w hw (Or.inl hfinished)
    · have hpending := (Monitor.pending?_fire s.monitor name w.signal w.listener).symm.trans hmissed
      rw [h.wired.named w hw] at hpending
      by_cases hname : w.backend.name = name
      · exact ⟨s.now, hname ▸ List.mem_append_right journal List.mem_cons_self⟩
      · refine hbefore w hw (Or.inr ⟨missed, ?_⟩)
        simpa [hname] using hpending
  silent := fun site hsite => (Journal.rounds_append_other rfl rfl).trans (h.silent site hsite)
  flags := by
    refine h.flags_of_eq (fun _ => rfl) ?_
    intro site
    simp [Journal.flag_append, Note.write?]

theorem mark (h : Timed fresh journal s) {name address : String} {up : Bool} {after : State}
    (hmark : s.mark name address up = .ok after) :
    Timed fresh (journal ++ (((s.siteOf? name address).map (.marked · up)).map (s.now, ·)).toList) after := by
  have happly : (Happening.mark name address up).apply s = after := by rw [Happening.apply, hmark]; rfl
  have hwired := h.wired.apply (.mark name address up)
  have hbackends := apply_backend? (.mark name address up) s
  rw [happly] at hwired hbackends
  unfold State.mark at hmark
  split at hmark
  next backend hbackend =>
    obtain ⟨fleet, hfleet, hafter⟩ := bind_eq_ok.mp hmark
    cases hafter
    obtain ⟨b, q, hb, hq, rfl⟩ := Fleet.mark_eq_write hfleet
    have hsite : s.siteOf? name address = some ⟨backend, q⟩ := by simp [siteOf?, hbackend, hb, hq]
    rw [hsite]
    constructor
    case mode => exact h.mode
    case wired => exact hwired
    case backends => exact fun other => (hbackends other).trans (h.backends other)
    case roster => exact h.roster
    case kept => exact fun w hw => (h.kept w hw).of_rounds_eq (Journal.rounds_append_other rfl rfl)
    case told => exact fun w hw hquiet => (h.told w hw hquiet).append _
    case silent => exact fun site hsite => (Journal.rounds_append_other rfl rfl).trans (h.silent site hsite)
    case flags =>
      have hnote : (Note.marked ⟨backend, q⟩ up).write? = some (⟨backend, q⟩, up) := rfl
      exact h.flags_of_write (Fleet.Knows.of_backend? hbackend) hnote
  next => cases hmark

theorem heed (h : Timed fresh journal s) (position : Nat) :
    Timed fresh journal ((Happening.heed position).apply s) := by
  have hwired := h.wired.apply (.heed position)
  rcases heed_cases position s with hsame | ⟨w, hget, hcalled, hheed⟩
  · rwa [Happening.apply, hsame]
  · rw [Happening.apply, hheed] at hwired ⊢
    have hw := List.mem_of_getElem? hget
    -- Whoever stops was called before, and the others are called as they were.
    have hothers : ∀ v ∈ s.monitor.queue.set position { w with checker := w.checker.stop },
        v = { w with checker := w.checker.stop } ∨ v ∈ s.monitor.queue ∧ v.ear ≠ w.ear :=
      fun v hv => Monitor.mem_set_cases h.wired.apart hget hv
    constructor
    case mode => exact h.mode
    case wired => exact hwired
    case backends => exact h.backends
    case roster =>
      rw [Monitor.map_set (·.checker.stop) hget]
      · exact h.roster
      · rfl
    case kept =>
      intro v hv
      rcases hothers v hv with rfl | ⟨hold, -⟩
      · exact ⟨(h.kept w hw).regular, .finished rfl⟩
      · exact h.kept v hold
    case told =>
      intro v hv hquiet
      rcases hothers v hv with rfl | ⟨hold, hne⟩
      · exact h.told w hw (Or.inr hcalled)
      · refine h.told v hold (hquiet.imp_right ?_)
        rintro ⟨missed, hmissed⟩
        exact ⟨missed, by rwa [Monitor.pending?_leaveAt_other hne] at hmissed⟩
    case silent => exact h.silent
    case flags => exact h.flags

theorem quiet (h : Timed fresh journal s) {happening : Happening} (hquiet : happening.isQuiet) :
    Timed fresh journal (happening.apply s) := by
  have hwired := h.wired.apply happening
  have hbackends := fun name => (apply_backend? happening s name).trans (h.backends name)
  cases happening with
  | heed position => exact h.heed position
  | draw backend =>
    exact ⟨h.mode, hwired, hbackends, h.roster, h.kept, h.told, h.silent,
      h.flags_of_eq (fun site => Fleet.endpoint?_draw _ backend site) (fun _ => rfl)⟩
  | send request => exact ⟨h.mode, hwired, hbackends, h.roster, h.kept, h.told, h.silent, h.flags⟩
  | record event => exact ⟨h.mode, hwired, hbackends, h.roster, h.kept, h.told, h.silent, h.flags⟩
  | _ => cases hquiet

theorem turn (h : Timed fresh journal s) (hfresh : fresh.Fresh) {position time : Nat} {w : Watch}
    (hget : s.monitor.queue[position]? = some w) (hdue : w.checker.due? = some time) (hle : time ≤ s.now)
    (prober : Prober) :
    Timed fresh (journal ++ ((w.checker.note? prober s.world).map (s.now, ·)).toList)
      (s.afterTurnBy prober position w) := by
  have hw := List.mem_of_getElem? hget
  have hi := (List.getElem?_eq_some_iff.mp hget).1
  have hbusy := Checker.not_finished_of_due hdue
  have hkept := (h.kept w hw).turn (h.interval_pos hfresh hw) hdue hle prober s.world
  have hcases := Checker.turn_cases prober s.monitor.mode hbusy s.world
  have hmonitor := Monitor.Moves.turn (w.checker.turn prober.ward s.monitor.mode s.world).1 hget hbusy
    (Checker.turn_site prober.ward s.monitor.mode w.checker s.world)
  have hbackends := afterTurnBy_backend? hbusy prober position (s := s)
  have hqueue : ∀ v ∈ (s.afterTurnBy prober position w).monitor.queue,
      v ∈ s.monitor.queue.eraseIdx position ∨
        v = { w with checker := (w.checker.turn prober.ward s.monitor.mode s.world).1 } :=
    fun v hv => (List.mem_append.mp hv).imp_right List.mem_singleton.mp
  constructor
  case mode => exact h.mode
  case wired => exact (hmonitor.wired (h := .turn position) h.wired).fleet_congr hbackends
  case backends => exact fun name => (hbackends name).trans (h.backends name)
  case roster =>
    refine ((Monitor.perm_requeue hi).map (·.checker.stop)).trans ?_
    rw [Monitor.map_set (·.checker.stop) hget]
    · exact h.roster
    · exact Checker.turn_stop prober.ward s.monitor.mode w.checker s.world
  case kept =>
    intro v hv
    rcases hqueue v hv with hold | rfl
    · have hne := Monitor.site_ne_of_mem_eraseIdx (h.sites.nodup_iff.mpr hfresh.sites) hget hold
      exact (h.kept v (List.mem_of_mem_eraseIdx hold)).of_rounds_eq (Checker.rounds_note_other prober s.world hne)
    · rw [h.mode]
      exact hkept
  case told =>
    intro v hv hquiet
    rcases hqueue v hv with hold | rfl
    · exact (h.told v (List.mem_of_mem_eraseIdx hold) hquiet).append _
    · have hname := Checker.turn_site prober.ward s.monitor.mode w.checker s.world
      rw [Watch.backend, hname]
      refine (h.told w hw (Or.inr (hquiet.resolve_left ?_))).append _
      rw [h.mode]
      exact Checker.turn_busy prober.ward hbusy s.world
  case silent =>
    intro site hsite
    have hne : site ≠ w.checker.site := by
      rintro rfl
      exact hsite (h.sites.mem_iff.mp (List.mem_map_of_mem hw))
    exact (Checker.rounds_note_other prober s.world hne).trans (h.silent site hsite)
  case flags =>
    rcases hcases with ⟨probe, hnote, hfleet⟩ | ⟨verdict, hnote, hfleet⟩
    · rw [hnote]
      refine h.flags_of_eq (fun site => congrArg (Fleet.endpoint? · site) hfleet) ?_
      exact fun site => Journal.flag_append _ _ _ site
    · rw [hnote]
      intro site hsite
      refine (congrArg (Fleet.endpoint? · site) hfleet).trans ?_
      exact h.flags_of_write (h.wired.known w hw) rfl site hsite

/-- Whatever happens next, all checkers keep to their timetables. -/
theorem moment (h : Timed fresh journal s) (hfresh : fresh.Fresh) {prober : Prober} {note : Option Note}
    {next : State} (hnext : Moment prober s note next) :
    Timed fresh (journal ++ (note.map (s.now, ·)).toList) next := by
  cases hnext with
  | elapse milliseconds hdue => exact (List.append_nil journal).symm ▸ h.elapse milliseconds hdue
  | turn hget hdue hle => exact h.turn hfresh hget hdue hle prober
  | mark hmark => exact h.mark hmark
  | fire name => exact h.fire name
  | quiet hquiet => exact (List.append_nil journal).symm ▸ h.quiet hquiet

end Timed

theorem Fresh.course {fresh s : State} (hfresh : fresh.Fresh) {prober : Prober} {journal : Journal}
    (h : Course prober fresh journal s) : Timed fresh journal s := by
  induction h with
  | refl => exact hfresh.timed
  | step _ hnext ih => exact ih.moment hfresh hnext

end State

end ReverseProxy
