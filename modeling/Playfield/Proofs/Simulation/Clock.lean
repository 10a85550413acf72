import Mathlib
import Playfield.Proofs.Scalar
import Playfield.Simulation

/-!
# The clock

Time that passes is gathered until it is enough for a tick. Over exact rationals none of it is lost
on the way, and none is made up: what a cap cuts off is the only thing that is dropped, and it never
comes back.

* `elapse` lets times pass one after the other, `passed` is their sum. Negative ones do not count.
* `ticksWithin`: the whole ticks that are gathered when more time has passed. `UpToDate`: the unused
  time is less than a tick.
* `dueSteps_eq`: what one time does. `ticksWithin_add`, `dueSteps_add`: a time does what its two
  parts do.
* `wholes`: the whole ticks that are gathered after each of several times. `elapse_eq`: with the cap
  on each of them, these are due.
* `elapse_capped`: a cap changes nothing but the numbers of ticks that are due.
* `clock_keeps_time` puts it together.
-/

namespace Playfield

namespace Simulation

variable {τ : Type}

/-- Lets times pass one after the other. Gives the numbers of ticks that were due. -/
def elapse {K : Type} [Scalar K] : List K → Simulation K τ → List Nat × Simulation K τ
  | [], s => ([], s)
  | elapsed :: later, s =>
    let (due, s) := s.dueSteps elapsed
    let (dues, s) := elapse later s
    (due :: dues, s)

/-- The sum of times; a negative one counts as none. -/
def passed (times : List Rat) : Rat := (times.map (max · 0)).sum

/-- The unused time is less than a tick. -/
def UpToDate (s : Simulation Rat τ) : Prop := 0 ≤ s.accumulator ∧ s.accumulator < s.dt

/-- The whole ticks in the unused time and a time that passes. -/
def ticksWithin (s : Simulation Rat τ) (elapsed : Rat) : Nat :=
  ⌊(s.accumulator + max elapsed 0 * s.pace.timeScale) / s.dt⌋₊

/-- The simulation after a time from which all whole ticks were taken. -/
def drained (s : Simulation Rat τ) (elapsed : Rat) : Simulation Rat τ :=
  { s with accumulator :=
      s.accumulator + max elapsed 0 * s.pace.timeScale - s.ticksWithin elapsed * s.dt }

/-- The simulation with another cap on the ticks that are made up for. -/
def capped (s : Simulation Rat τ) (cap : Nat) : Simulation Rat τ :=
  { s with pace := { s.pace with maxCatchupSteps := cap } }

/-- The whole ticks that are gathered after each of some times, whether or not they are all due. -/
def wholes : List Rat → Simulation Rat τ → List Nat
  | [], _ => []
  | elapsed :: later, s => s.ticksWithin elapsed :: wholes later (s.drained elapsed)

theorem passed_nonneg (times : List Rat) : 0 ≤ passed times := by
  refine List.sum_nonneg fun t mem => ?_
  obtain ⟨_, -, rfl⟩ := List.mem_map.1 mem
  exact le_max_right _ _

theorem passed_cons (elapsed : Rat) (later : List Rat) :
    passed (elapsed :: later) = max elapsed 0 + passed later := List.sum_cons

theorem passed_append (earlier later : List Rat) :
    passed (earlier ++ later) = passed earlier + passed later := by
  rw [passed, List.map_append, List.sum_append]
  rfl

variable {s : Simulation Rat τ}

/-! ### One time -/

theorem UpToDate.dt_pos (h : s.UpToDate) : 0 < s.dt := h.1.trans_lt h.2

theorem gathered_nonneg (forward : 0 ≤ s.pace.timeScale) (h : s.UpToDate) (elapsed : Rat) :
    0 ≤ s.accumulator + max elapsed 0 * s.pace.timeScale :=
  add_nonneg h.1 (mul_nonneg (le_max_right _ _) forward)

/-- What has passed is rounded down to whole ticks; the cap applies to them alone. -/
theorem dueSteps_eq (forward : 0 ≤ s.pace.timeScale)
    (word : s.pace.maxCatchupSteps ≤ Word.greatestHalf) (h : s.UpToDate) (elapsed : Rat) :
    s.dueSteps elapsed =
      (min s.pace.maxCatchupSteps (s.ticksWithin elapsed), s.drained elapsed) := by
  have positive [Decidable ((0.0 : Rat) < elapsed)] :
      (if (0.0 : Rat) < elapsed then elapsed else 0.0) = max elapsed 0 := by
    norm_num
    split
    · exact (max_eq_left (by linarith)).symm
    · exact (max_eq_right (by linarith)).symm
  have whole : Scalar.floor ((s.accumulator + max elapsed 0 * s.pace.timeScale) / s.dt) =
      ((s.ticksWithin elapsed : Int) : Rat) := by
    rw [ticksWithin, Int.natCast_floor_eq_floor
      (div_nonneg (gathered_nonneg forward h elapsed) h.dt_pos.le)]
    rfl
  have held : (Scalar.trunc 0 Word.greatestHalf ((s.ticksWithin elapsed : Int) : Rat)).toNat =
      min Word.greatestHalf (s.ticksWithin elapsed) := by
    rw [Scalar.trunc_intCast]
    omega
  simp only [dueSteps, positive, whole, held]
  exact Prod.ext (by omega) rfl

/-- A time from which all whole ticks are taken leaves less than a tick. -/
theorem upToDate_drained (forward : 0 ≤ s.pace.timeScale) (h : s.UpToDate) (elapsed : Rat) :
    (s.drained elapsed).UpToDate := by
  have gathered := gathered_nonneg forward h elapsed
  have dt := h.dt_pos
  constructor
  · have below := Nat.floor_le (div_nonneg gathered dt.le)
    rw [le_div_iff₀ dt] at below
    exact sub_nonneg.2 below
  · have above := Nat.lt_floor_add_one
      ((s.accumulator + max elapsed 0 * s.pace.timeScale) / s.dt)
    rw [div_lt_iff₀ dt, add_one_mul] at above
    exact sub_lt_iff_lt_add'.2 above

/-- The whole ticks of a time are those of its first part and those that its second part brings. -/
theorem ticksWithin_add (forward : 0 ≤ s.pace.timeScale) (h : s.UpToDate) (first : Rat)
    {second : Rat} (pos : 0 ≤ second) : s.ticksWithin (max first 0 + second) =
      s.ticksWithin first + (s.drained first).ticksWithin second := by
  have dt := h.dt_pos
  have rest : 0 ≤ (s.drained first).accumulator + max second 0 * s.pace.timeScale :=
    gathered_nonneg (s := s.drained first) forward (upToDate_drained forward h first) second
  have split : (s.accumulator + max (max first 0 + second) 0 * s.pace.timeScale) / s.dt =
      ((s.drained first).accumulator + max second 0 * s.pace.timeScale) / s.dt +
        s.ticksWithin first := by
    rw [max_eq_left (add_nonneg (le_max_right first 0) pos), max_eq_left pos, drained]
    field_simp
    ring
  rw [ticksWithin, split, Nat.floor_add_natCast (div_nonneg rest dt.le), Nat.add_comm]
  rfl

theorem drained_add (forward : 0 ≤ s.pace.timeScale) (h : s.UpToDate) (first : Rat)
    {second : Rat} (pos : 0 ≤ second) :
    s.drained (max first 0 + second) = (s.drained first).drained second := by
  have ticks := ticksWithin_add forward h first pos
  have left : s.accumulator + max (max first 0 + second) 0 * s.pace.timeScale -
      s.ticksWithin (max first 0 + second) * s.dt =
        (s.drained first).accumulator + max second 0 * s.pace.timeScale -
          (s.drained first).ticksWithin second * s.dt := by
    rw [ticks, max_eq_left (add_nonneg (le_max_right first 0) pos), max_eq_left pos, drained]
    push_cast
    ring
  exact congrArg (fun accumulator => ({ s with accumulator } : Simulation Rat τ)) left

/-- A call that lets no time pass does nothing. -/
theorem drained_zero (h : s.UpToDate) : s.ticksWithin 0 = 0 ∧ s.drained 0 = s := by
  have none : s.ticksWithin 0 = 0 := by
    rw [ticksWithin, max_self, zero_mul, add_zero, Nat.floor_eq_zero, div_lt_one h.dt_pos]
    exact h.2
  refine ⟨none, ?_⟩
  rw [drained, none, max_self]
  simp

/-! ### Many times -/

/-- All whole ticks that are gathered in some times are those of one time as long as all of them. -/
theorem sum_wholes (forward : 0 ≤ s.pace.timeScale) (h : s.UpToDate) (times : List Rat) :
    (s.wholes times).sum = s.ticksWithin (passed times) := by
  induction times generalizing s with
  | nil => exact (drained_zero h).1.symm
  | cons elapsed later ih =>
    rw [wholes, List.sum_cons,
      ih (s := s.drained elapsed) forward (upToDate_drained forward h elapsed),
      passed_cons, ticksWithin_add forward h elapsed (passed_nonneg later)]

/-- After some times, with the cap on each of them, the whole ticks that are gathered are due, and
what is left is as after one time as long as all of them. -/
theorem elapse_eq (forward : 0 ≤ s.pace.timeScale)
    (word : s.pace.maxCatchupSteps ≤ Word.greatestHalf) (h : s.UpToDate) (times : List Rat) :
    s.elapse times =
      ((s.wholes times).map (min s.pace.maxCatchupSteps), s.drained (passed times)) := by
  induction times generalizing s with
  | nil => exact Prod.ext rfl (drained_zero h).2.symm
  | cons elapsed later ih =>
    have rest := ih (s := s.drained elapsed) forward word (upToDate_drained forward h elapsed)
    rw [← drained_add forward h elapsed (passed_nonneg later), ← passed_cons] at rest
    simp only [elapse, dueSteps_eq forward word h, rest]
    rfl

/-- Where the ticks of each time are within a bound, so are those of all the times. -/
theorem wholes_le {bound : Nat} (forward : 0 ≤ s.pace.timeScale)
    (word : s.pace.maxCatchupSteps ≤ Word.greatestHalf) (h : s.UpToDate) {times : List Rat}
    (within : ∀ earlier elapsed later, times = earlier ++ elapsed :: later →
      (s.elapse earlier).2.ticksWithin elapsed ≤ bound) : ∀ n ∈ s.wholes times, n ≤ bound := by
  induction times generalizing s with
  | nil => exact fun n mem => absurd mem List.not_mem_nil
  | cons elapsed later ih =>
    refine List.forall_mem_cons.2 ⟨within [] elapsed later rfl, ?_⟩
    refine ih (s := s.drained elapsed) forward word (upToDate_drained forward h elapsed) ?_
    rintro earlier elapsed' later' rfl
    have next := within (elapsed :: earlier) elapsed' later' rfl
    rwa [elapse, dueSteps_eq forward word h] at next

/-- Of the whole ticks that are gathered a cap lets no more be due. -/
theorem sum_due_le (forward : 0 ≤ s.pace.timeScale)
    (word : s.pace.maxCatchupSteps ≤ Word.greatestHalf) (h : s.UpToDate) (times : List Rat) :
    (s.elapse times).1.sum ≤ s.ticksWithin (passed times) := by
  have each := List.sum_le_sum (l := s.wholes times) (f := min s.pace.maxCatchupSteps) (g := id)
    fun n _ => min_le_right _ n
  rw [elapse_eq forward word h, ← sum_wholes forward h]
  rwa [List.map_id] at each

theorem wholes_capped (cap : Nat) (times : List Rat) (s : Simulation Rat τ) :
    (s.capped cap).wholes times = s.wholes times := by
  induction times generalizing s with
  | nil => rfl
  | cons elapsed later ih => exact congrArg (s.ticksWithin elapsed :: ·) (ih (s.drained elapsed))

/-- A cap changes nothing but the numbers of ticks that are due. -/
theorem elapse_capped {cap : Nat} (forward : 0 ≤ s.pace.timeScale) (word : cap ≤ Word.greatestHalf)
    (h : s.UpToDate) (times : List Rat) : (s.capped cap).elapse times =
      ((s.wholes times).map (min cap), (s.drained (passed times)).capped cap) := by
  rw [elapse_eq (s := s.capped cap) forward word h, wholes_capped]
  rfl

/-- Over exact rationals, less than a tick of unused time is left after any times, and the next
time makes the whole ticks due that are gathered by then, up to the cap. However a time is split,
what is left is as after one call without a cap, and no more ticks were due than it finds; just as
many if no call has found more than the cap. Ticks that were found once are not due later: what is
left does not depend on the cap. -/
theorem clock_keeps_time (forward : 0 < s.pace.timeScale)
    (word : s.pace.maxCatchupSteps ≤ Word.greatestHalf) (start : s.UpToDate) (times : List Rat) :
    let t := (s.elapse times).2
    let single := (s.capped Word.greatestHalf).dueSteps (passed times)
    t.UpToDate ∧
      (∀ elapsed, (t.dueSteps elapsed).1 = min s.pace.maxCatchupSteps
        ⌊(t.accumulator + max elapsed 0 * s.pace.timeScale) / s.dt⌋₊) ∧
      t.accumulator = single.2.accumulator ∧
      single.1 = min Word.greatestHalf (s.ticksWithin (passed times)) ∧
      ((∀ earlier elapsed later, times = earlier ++ elapsed :: later →
        (s.elapse earlier).2.ticksWithin elapsed ≤ s.pace.maxCatchupSteps) →
          (s.elapse times).1.sum = s.ticksWithin (passed times)) ∧
      (s.elapse times).1.sum ≤ s.ticksWithin (passed times) ∧
      (∀ later, s.ticksWithin (passed times) + (t.elapse later).1.sum ≤
        s.ticksWithin (passed (times ++ later))) ∧
      ∀ cap ≤ Word.greatestHalf,
        ((s.capped cap).elapse times).2.capped s.pace.maxCatchupSteps = t := by
  have run := elapse_eq forward.le word start times
  have upToDate := upToDate_drained forward.le start (passed times)
  have one := dueSteps_eq (s := s.capped Word.greatestHalf) forward.le le_rfl start (passed times)
  intro t single
  have left : t = s.drained (passed times) := congrArg Prod.snd run
  refine ⟨left ▸ upToDate, fun elapsed => ?_, ?_, congrArg Prod.fst one, fun within => ?_,
    sum_due_le forward.le word start times, fun later => ?_, fun cap word' => ?_⟩
  · rw [left, dueSteps_eq (s := s.drained _) forward.le word upToDate]
    rfl
  · rw [left, show single = _ from one]
    rfl
  · have below := wholes_le forward.le word start within
    rw [run, ← sum_wholes forward.le start,
      List.map_congr_left fun n mem => min_eq_right (below n mem), List.map_id']
  · rw [passed_append, ← max_eq_left (passed_nonneg times), ticksWithin_add forward.le start _
      (passed_nonneg later), max_eq_left (passed_nonneg times), left]
    exact Nat.add_le_add_left (sum_due_le (s := s.drained _) forward.le word upToDate later) _
  · rw [elapse_capped forward.le word' start, left]
    rfl

namespace Doze

/-- A tick takes a quarter of a second. Time passes twice as fast as it is given, and five ticks are
made up for at most. -/
def start : Simulation Rat Empty :=
  let world : World Rat :=
    { scene := .default, actors := [], index := ∅, globals := ∅, roles := ∅
      gravityEnabled := true }
  { rules := {
      registry := { resume := nofun }, stage := ⟨world, .ofSeed 0⟩, memory := [], dt := 1 / 4 }
    physics := .ofScene .default
    pace := ⟨2, 5⟩
    accumulator := 0 }

end Doze

open Doze in
/-- After a second too long, the three ticks that were not made up for are gone: the next ones come
when their time has come. -/
theorem dropped_ticks_are_gone : 0 < start.pace.timeScale ∧
    start.pace.maxCatchupSteps ≤ Word.greatestHalf ∧ start.UpToDate ∧
    (start.elapse [1, 1 / 16, -1, 1 / 16]).1 = [5, 0, 0, 1] ∧
    start.ticksWithin (passed [1, 1 / 16, -1, 1 / 16]) = 9 ∧
    start.ticksWithin (passed [1]) + ((start.elapse [1]).2.elapse [1 / 16, -1, 1 / 16]).1.sum ≤
      9 := by
  have forward : 0 < start.pace.timeScale := by norm_num [start]
  have upToDate : start.UpToDate := by norm_num [UpToDate, start, dt]
  have all : start.ticksWithin (passed [1, 1 / 16, -1, 1 / 16]) = 9 := by
    norm_num [ticksWithin, passed, start, dt]
  obtain ⟨-, -, -, -, -, -, gone, -⟩ := clock_keeps_time forward (by decide) upToDate [1]
  exact ⟨forward, by decide, upToDate, by cbv, all, all ▸ gone [1 / 16, -1, 1 / 16]⟩

end Simulation

end Playfield
