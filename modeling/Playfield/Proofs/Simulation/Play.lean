import Playfield.Proofs.Simulation.Tick

/-!
# Playing inputs

What a simulation does when it is given one input after the other.

* `Simulation.play goes frames s` runs a tick for every input, up to a tick that fails or after
  which `goes` is false; `Played` has the reports of the ticks that came to their end, the failure
  if there was one, and the simulation that is left.
* `play_append` plays two lists, `play_always_take` plays again what was played, with no end but the
  last input. `Played.steps` counts the ticks that were run, a failed one too; `play_always_steps`
  plays these again.
* `play_ticks`: where no function of the registry touches the tick counter, the ticks that are
  played are numbered one after the other, and one that fails uses up a number too.
* `scene_play`: where no function of the registry changes the scene, it stays.
* `play_withClock`: pace and unused time play no part. `pace_play`: the pace is not changed.
-/

namespace Playfield.Simulation

variable {K τ : Type}

/-- What came of playing inputs. -/
structure Played (K τ : Type) where
  /-- The ticks that came to their end. -/
  reports : List (TickReport K)
  /-- The failure of the tick after these. -/
  failure : Option RuleError
  simulation : Simulation K τ

/-- One tick more before the others. -/
def Played.after (report : TickReport K) (p : Played K τ) : Played K τ :=
  { p with reports := report :: p.reports }

/-- The numbers of the ticks that came to their end. -/
def Played.numbers (p : Played K τ) : List Nat := p.reports.map (·.tick)

/-- Nothing is played. -/
def Played.idle (s : Simulation K τ) : Played K τ := ⟨[], none, s⟩

variable [Scalar K] {goes : Simulation K τ → Bool} {s s' : Simulation K τ}

/-- Runs a tick for every input, up to one that fails or after which `goes` is false. -/
def play (goes : Simulation K τ → Bool) : List (InputFrame K) → Simulation K τ → Played K τ
  | [], s => .idle s
  | frame :: rest, s =>
    match s.step frame with
    | (.error e, s) => ⟨[], some e, s⟩
    | (.ok report, s) => if goes s then (play goes rest s).after report else ⟨[report], none, s⟩

/-- Nothing ends the ticks early. -/
def always : Simulation K τ → Bool := fun _ => true

theorem play_nil : play goes [] s = .idle s := rfl

theorem play_of_error {frame : InputFrame K} {rest : List (InputFrame K)} {e : RuleError}
    (h : s.step frame = (.error e, s')) : play goes (frame :: rest) s = ⟨[], some e, s'⟩ := by
  rw [play, h]

theorem play_of_ok {frame : InputFrame K} {rest : List (InputFrame K)} {report : TickReport K}
    (h : s.step frame = (.ok report, s')) : play goes (frame :: rest) s =
      if goes s' then (play goes rest s').after report else ⟨[report], none, s'⟩ := by
  rw [play, h]

theorem play_always_of_ok {frame : InputFrame K} {rest : List (InputFrame K)}
    {report : TickReport K} (h : s.step frame = (.ok report, s')) :
    play always (frame :: rest) s = (play always rest s').after report := by
  rw [play_of_ok h]
  exact if_pos rfl

/-- What is played of a first list, and then of a second one if nothing ended the first. -/
theorem play_append (xs ys : List (InputFrame K)) (s : Simulation K τ) :
    play goes (xs ++ ys) s =
      let p := play goes xs s
      if p.failure = none ∧ (xs = [] ∨ goes p.simulation) then
        { play goes ys p.simulation with
          reports := p.reports ++ (play goes ys p.simulation).reports }
      else p := by
  induction xs generalizing s with
  | nil => simp [play_nil, Played.idle]
  | cons x xs ih =>
    rw [List.cons_append]
    rcases first : s.step x with ⟨e | report, s'⟩
    · rw [play_of_error first, play_of_error first]
      simp
    · rw [play_of_ok first, play_of_ok first]
      by_cases on : goes s' = true
      · rw [if_pos on, if_pos on, ih]
        by_cases last : xs = []
        · simp [last, play_nil, Played.idle, Played.after, on]
        · simp only [Played.after, last, false_or, reduceCtorEq]
          split <;> rfl
      · simp [on]

theorem length_play_le (goes : Simulation K τ → Bool) (frames : List (InputFrame K))
    (s : Simulation K τ) :
    (play goes frames s).reports.length ≤ frames.length := by
  induction frames generalizing s with
  | nil => exact le_rfl
  | cons frame rest ih =>
    rcases first : s.step frame with ⟨e | report, s'⟩
    · rw [play_of_error first]
      exact Nat.zero_le _
    · rw [play_of_ok first]
      split
      · exact Nat.succ_le_succ (ih s')
      · exact Nat.succ_le_succ (Nat.zero_le _)

/-- Where nothing ends the ticks early, all inputs are played. -/
theorem length_play {frames : List (InputFrame K)}
    (ok : (play goes frames s).failure = none)
    (on : frames = [] ∨ goes (play goes frames s).simulation = true) :
    (play goes frames s).reports.length = frames.length := by
  induction frames generalizing s with
  | nil => rfl
  | cons frame rest ih =>
    rcases first : s.step frame with ⟨e | report, s'⟩
    · rw [play_of_error first] at ok
      cases ok
    · rw [play_of_ok first] at ok on ⊢
      by_cases go : goes s' = true
      · rw [if_pos go] at ok on ⊢
        have later : rest = [] ∨ goes (play goes rest s').simulation = true :=
          on.elim (fun h => absurd h (List.cons_ne_nil _ _)) .inr
        exact congrArg (· + 1) (ih ok later)
      · rw [if_neg go] at on
        simp [go] at on

/-- Where no tick was played, nothing has changed. -/
theorem simulation_of_unticked {frames : List (InputFrame K)}
    (ok : (play always frames s).failure = none) (unticked : (play always frames s).reports = []) :
    (play always frames s).simulation = s := by
  have length := length_play ok (.inr rfl)
  rw [unticked, List.length_nil, eq_comm, List.length_eq_zero_iff] at length
  rw [length]
  rfl

/-- The inputs that were used play the same again, with no end but the last of them. -/
theorem play_always_take {frames : List (InputFrame K)}
    (ok : (play goes frames s).failure = none) :
    play always (frames.take (play goes frames s).reports.length) s = play goes frames s := by
  induction frames generalizing s with
  | nil => rfl
  | cons frame rest ih =>
    rcases first : s.step frame with ⟨e | report, s'⟩
    · rw [play_of_error first] at ok
      cases ok
    · rw [play_of_ok first] at ok ⊢
      by_cases go : goes s' = true
      · rw [if_pos go] at ok ⊢
        show play always (frame :: rest.take _) s = _
        rw [play_always_of_ok first, ih ok]
      · rw [if_neg go, List.length_singleton, List.take_succ_cons, List.take_zero,
          play_always_of_ok first]
        rfl

/-- The number of ticks that were run, one that failed among them. -/
def Played.steps (p : Played K τ) : Nat := p.reports.length + p.failure.elim 0 fun _ => 1

omit [Scalar K] in
theorem Played.steps_after (report : TickReport K) (p : Played K τ) :
    (p.after report).steps = p.steps + 1 :=
  Nat.add_right_comm p.reports.length 1 _

theorem steps_le (goes : Simulation K τ → Bool) (frames : List (InputFrame K))
    (s : Simulation K τ) : (play goes frames s).steps ≤ frames.length := by
  induction frames generalizing s with
  | nil => exact le_rfl
  | cons frame rest ih =>
    rcases first : s.step frame with ⟨e | report, s'⟩
    · rw [play_of_error first]
      exact Nat.succ_le_succ (Nat.zero_le _)
    · rw [play_of_ok first]
      split
      · rw [Played.steps_after]
        exact Nat.succ_le_succ (ih s')
      · exact Nat.succ_le_succ (Nat.zero_le _)

/-- The inputs whose ticks were run play the same again, with no end but the last of them or the
failure. -/
theorem play_always_steps (goes : Simulation K τ → Bool) (frames : List (InputFrame K))
    (s : Simulation K τ) :
    play always (frames.take (play goes frames s).steps) s = play goes frames s := by
  induction frames generalizing s with
  | nil => rfl
  | cons frame rest ih =>
    rcases first : s.step frame with ⟨e | report, s'⟩
    · rw [play_of_error first]
      exact play_of_error first
    · rw [play_of_ok first]
      by_cases go : goes s' = true
      · rw [if_pos go, Played.steps_after, List.take_succ_cons, play_always_of_ok first, ih]
      · rw [if_neg go]
        exact play_always_of_ok first

/-- Before every tick but the first, `goes` was true. -/
theorem goes_of_lt_steps {frames : List (InputFrame K)} {n : Nat} (pos : 0 < n)
    (lt : n < (play goes frames s).steps) :
    goes (play always (frames.take n) s).simulation = true := by
  induction frames generalizing s n with
  | nil => exact absurd lt (Nat.not_lt_zero n)
  | cons frame rest ih =>
    obtain ⟨n, rfl⟩ := Nat.exists_eq_succ_of_ne_zero pos.ne'
    rcases first : s.step frame with ⟨e | report, s'⟩
    · rw [play_of_error first] at lt
      exact absurd lt (Nat.not_lt.2 (Nat.succ_le_succ (Nat.zero_le n)))
    · rw [play_of_ok first] at lt
      rw [List.take_succ_cons, play_always_of_ok first]
      show goes (play always (rest.take n) s').simulation = true
      by_cases go : goes s' = true
      · rw [if_pos go, Played.steps_after] at lt
        cases n with
        | zero => exact go
        | succ n => exact ih (Nat.succ_pos n) (Nat.lt_of_succ_lt_succ lt)
      · rw [if_neg go] at lt
        exact absurd lt (Nat.not_lt.2 (Nat.succ_le_succ (Nat.zero_le n)))

/-! ### The tick counter -/

/-- A tick counts itself, whether it fails or not. -/
theorem tick_step (keeps : s.rules.registry.KeepsTick) (input : InputFrame K) :
    (s.step input).2.world.tick = s.world.tick + 1 := by
  have moved : s.move.2.world.tick = s.world.tick + 1 := by
    rw [move_world, Physics.writeBack_eq]
    rfl
  have ruled : (s.ruled input).2.world.tick = s.world.tick + 1 :=
    (ruled_respects keeps (fun _ => rfl) (fun _ _ _ h h' => h'.trans h) input).trans moved
  rcases h : s.step input with ⟨e | report, s'⟩
  · rw [← ruled, ← step_error h]
    rfl
  · rw [(step_ok h).world, Physics.writeBack_eq, carried_world, World.propagate_eq]
    exact ruled

/-- The ticks that are played are numbered one after the other. -/
theorem play_ticks (goes : Simulation K τ → Bool) (keeps : s.rules.registry.KeepsTick)
    (frames : List (InputFrame K)) :
    (play goes frames s).numbers =
        List.range' (s.world.tick + 1) (play goes frames s).reports.length ∧
      (play goes frames s).simulation.world.tick =
        s.world.tick + (play goes frames s).reports.length +
          (play goes frames s).failure.elim 0 fun _ => 1 := by
  induction frames generalizing s with
  | nil => exact ⟨rfl, rfl⟩
  | cons frame rest ih =>
    have next := tick_step keeps frame
    have same := s.step_keeps frame
    rcases first : s.step frame with ⟨e | report, s'⟩ <;> rw [first] at next same
    · -- The tick that fails has counted itself.
      rw [play_of_error first]
      exact ⟨rfl, next⟩
    · have number : report.tick = s.world.tick + 1 := (step_ok first).tick.trans next
      rw [play_of_ok first]
      by_cases go : goes s' = true
      · obtain ⟨numbers, last⟩ := ih (same.registry.symm ▸ keeps)
        simp only [] at next
        rw [if_pos go]
        constructor
        · show report.tick :: (play goes rest s').numbers = _
          rw [numbers, number, next]
          rfl
        · show (play goes rest s').simulation.world.tick = _
          rw [last, next]
          simp only [Played.after, List.length_cons]
          omega
      · rw [if_neg go]
        exact ⟨congrArg ([·]) number, next⟩

theorem play_keeps (frames : List (InputFrame K)) :
    s.rules.Keeps (play goes frames s).simulation.rules := by
  induction frames generalizing s with
  | nil => exact ⟨rfl, rfl⟩
  | cons frame rest ih =>
    have keeps := s.step_keeps frame
    rcases first : s.step frame with ⟨e | report, s'⟩ <;> rw [first] at keeps
    · rw [play_of_error first]
      exact keeps
    · rw [play_of_ok first]
      split
      · exact keeps.trans ih
      · exact keeps

/-! ### The scene -/

/-- A tick keeps the scene, whether it fails or not. -/
theorem scene_step (keeps : s.rules.registry.KeepsScene) (input : InputFrame K) :
    (s.step input).2.world.scene = s.world.scene := by
  have ruled : (s.ruled input).2.world.scene = s.world.scene :=
    (ruled_respects keeps (fun _ => rfl) (fun _ _ _ h h' => h'.trans h) input).trans s.move_scene
  rcases h : s.step input with ⟨e | report, s'⟩
  · rw [← ruled, ← step_error h]
    rfl
  · rw [(step_ok h).world, Physics.writeBack_eq, carried_world, World.propagate_eq]
    exact ruled

theorem scene_play (goes : Simulation K τ → Bool) (keeps : s.rules.registry.KeepsScene)
    (frames : List (InputFrame K)) :
    (play goes frames s).simulation.world.scene = s.world.scene := by
  induction frames generalizing s with
  | nil => rfl
  | cons frame rest ih =>
    have next := scene_step keeps frame
    have same := s.step_keeps frame
    rcases first : s.step frame with ⟨e | report, s'⟩ <;> rw [first] at next same
    · rw [play_of_error first]
      exact next
    · rw [play_of_ok first]
      split
      · exact (ih (same.registry.symm ▸ keeps)).trans next
      · exact next

/-! ### Pace and unused time -/

/-- The simulation with another pace and another remainder of time. -/
def withClock (s : Simulation K τ) (pace : Pace K) (accumulator : K) : Simulation K τ :=
  { s with pace, accumulator }

theorem step_withClock (s : Simulation K τ) (pace : Pace K) (accumulator : K)
    (input : InputFrame K) : (s.withClock pace accumulator).step input =
      ((s.step input).1, (s.step input).2.withClock pace accumulator) := by
  have move : (s.withClock pace accumulator).move =
      (s.move.1, s.move.2.withClock pace accumulator) := rfl
  have ruled : (s.withClock pace accumulator).ruled input = s.ruled input := rfl
  rw [step_eq, step_eq, ruled]
  rcases s.ruled input with ⟨e | r, rules⟩ <;> rfl

/-- Nothing that is played changes the pace. -/
theorem pace_play (goes : Simulation K τ → Bool) (frames : List (InputFrame K))
    (s : Simulation K τ) : (play goes frames s).simulation.pace = s.pace := by
  induction frames generalizing s with
  | nil => rfl
  | cons frame rest ih =>
    have one : (s.step frame).2.pace = s.pace :=
      congrArg (fun t => t.2.pace) (s.step_withClock s.pace s.accumulator frame)
    rcases first : s.step frame with ⟨e | report, s'⟩ <;> rw [first] at one
    · rw [play_of_error first]
      exact one
    · rw [play_of_ok first]
      split
      · exact (ih s').trans one
      · exact one

theorem play_withClock (frames : List (InputFrame K)) (s : Simulation K τ) (pace : Pace K)
    (accumulator : K) : play always frames (s.withClock pace accumulator) =
      let p := play always frames s
      { p with simulation := p.simulation.withClock pace accumulator } := by
  induction frames generalizing s with
  | nil => rfl
  | cons frame rest ih =>
    have clocked := s.step_withClock pace accumulator frame
    rcases first : s.step frame with ⟨e | report, s'⟩ <;> rw [first] at clocked
    · rw [play_of_error first, play_of_error clocked]
    · rw [play_always_of_ok first, play_always_of_ok clocked, ih]
      rfl

end Playfield.Simulation
