import Playfield.Proofs.Simulation.Play
import Playfield.Session.Pass

/-!
# What a pass plays

A pass over the queues of a session plays inputs, which can be said before it runs.

* `Session.agenda`: the commands of a pass in the order of their ticks. A strict session takes the
  queue of the role whose turn it is, a hybrid one the queues of all seats round by round.
* `Session.played`: what is played of the agenda, up to the end of the turn or a failure.
  `Session.clocked` is the same for the passing of time.
* `LoopMode.inputs`: the inputs that can be read off a report. They play the pass again.
* `pass_passed` and `advanceClock_passed`: passes and the clock do just this.
-/

namespace Playfield

variable {K τ : Type}

/-- The input of a tick for one command. -/
def Consumed.frame (c : Consumed K) : InputFrame K := c.command.toFrame c.role

/-- The input of a tick for several commands. -/
def Consumed.merged (cs : List (Consumed K)) : InputFrame K :=
  cs.foldl (fun f c => c.command.applyTo c.role f) {}

/-- The inputs of a report of so many ticks, in which commands were used. -/
def LoopMode.inputs (mode : LoopMode) (ticks : Nat) (consumed : List (Consumed K)) :
    List (InputFrame K) :=
  match mode with
  | .continuous =>
    match ticks with
    | 0 => []
    | n + 1 => Consumed.merged consumed :: List.replicate n {}
  | _ => consumed.map Consumed.frame

namespace Seat

/-- The oldest command, in the name of the role. -/
def oldest? (s : Seat K) : Option (Consumed K) := s.queue.head?.map (⟨s.role.id, ·⟩)

/-- The seat without its oldest command. -/
def next (s : Seat K) : Seat K := { s with queue := s.queue.tail }

/-- The commands of a round: the oldest of every seat that has one. -/
def heads (seats : List (Seat K)) : List (Consumed K) := seats.filterMap oldest?

/-- The seats after a round. -/
def nexts (seats : List (Seat K)) : List (Seat K) := seats.map next

/-- The commands of all seats, round by round. -/
def rounds (seats : List (Seat K)) : List (Consumed K) :=
  heads seats ++ if total (nexts seats) < total seats then rounds (nexts seats) else []
termination_by total seats

theorem next_of_empty {s : Seat K} (h : s.queue = []) : s.next = s := by
  rw [next, h, List.tail_nil, ← h]

end Seat

namespace Simulation.Played

/-- What the caller of a pass is told. -/
def result (p : Played K τ) (consumed : List (Consumed K)) (discarded : Nat) :
    Except RuleError (PassReport K) :=
  match p.failure with
  | some e => .error e
  | none => .ok ⟨p.reports, consumed, discarded⟩

variable {p : Played K τ}

theorem result_of_none (h : p.failure = none) (consumed : List (Consumed K)) (discarded : Nat) :
    p.result consumed discarded = .ok ⟨p.reports, consumed, discarded⟩ := by
  rw [result, h]

theorem of_result_ok {consumed : List (Consumed K)} {discarded : Nat} {report : PassReport K}
    (h : .ok report = p.result consumed discarded) :
    p.failure = none ∧ report = ⟨p.reports, consumed, discarded⟩ := by
  unfold result at h
  split at h
  · cases h
  · cases h
    exact ⟨by assumption, rfl⟩

theorem of_result_error {consumed : List (Consumed K)} {discarded : Nat} {e : RuleError}
    (h : .error e = p.result consumed discarded) : p.failure = some e := by
  unfold result at h
  split at h
  · cases h
    assumption
  · cases h

/-- One report after the other. -/
theorem map_append_result (p : Played K τ) (report : PassReport K) (consumed : List (Consumed K))
    (discarded : Nat) : (p.result consumed discarded).map report.append =
      result { p with reports := report.ticks ++ p.reports } (report.consumed ++ consumed)
        (report.discarded + discarded) := by
  unfold result
  cases p.failure <;> rfl

end Simulation.Played

open Simulation

section Turns

variable [Scalar K]

/-- The turn is still the given one. -/
def isTurn (turn : Nat) (s : Simulation K τ) : Bool := s.world.turn == turn

omit [Scalar K] in
theorem isTurn_iff {turn : Nat} {s : Simulation K τ} : isTurn turn s = true ↔ s.world.turn = turn :=
  beq_iff_eq

/-- What a queue plays while the turn lasts. -/
theorem drain_eq (turn : Nat) (role : String) (queue : List (Command K)) (s : Simulation K τ) :
    let p := play (isTurn turn) (queue.map fun c => c.toFrame role) s
    (drain turn role queue s).1 = p.result ((queue.map (⟨role, ·⟩)).take p.reports.length) 0 ∧
      (drain turn role queue s).2.2 = p.simulation := by
  induction queue generalizing s with
  | nil => exact ⟨rfl, rfl⟩
  | cons c rest ih =>
    rw [List.map_cons]
    unfold drain
    rcases first : s.step (c.toFrame role) with ⟨e | report, s'⟩
    · rw [play_of_error first]
      constructor <;> rfl
    · rw [play_of_ok first]
      obtain ⟨answer, left⟩ := ih s'
      by_cases on : s'.world.turn = turn
      · rw [if_pos (isTurn_iff.2 on)]
        simp only [if_pos on]
        rw [answer, Played.map_append_result]
        exact ⟨rfl, left⟩
      · rw [if_neg (mt isTurn_iff.1 on)]
        simp [on, Played.result, PassReport.single]

/-- A sweep plays the oldest commands of all seats while the turn lasts. -/
theorem sweep_eq (turn : Nat) (seats : List (Seat K)) (s : Simulation K τ) :
    let p := play (isTurn turn) ((Seat.heads seats).map Consumed.frame) s
    (sweep turn seats s).1 = p.result ((Seat.heads seats).take p.reports.length) 0 ∧
      (sweep turn seats s).2.2 = p.simulation ∧
      (p.failure = none → p.simulation.world.turn = turn →
        (sweep turn seats s).2.1 = Seat.nexts seats) := by
  induction seats generalizing s with
  | nil => exact ⟨rfl, rfl, fun _ _ => rfl⟩
  | cons seat seats ih =>
    unfold sweep
    cases queue : seat.queue with
    | nil =>
      obtain ⟨answer, left, seats'⟩ := ih s
      have idle : seat.oldest? = none := by simp [Seat.oldest?, queue]
      rw [Seat.heads, List.filterMap_cons_none idle]
      refine ⟨answer, left, fun ok on => ?_⟩
      rw [Seat.nexts, List.map_cons, Seat.next_of_empty queue]
      exact congrArg (seat :: ·) (seats' ok on)
    | cons c rest =>
      have oldest : seat.oldest? = some ⟨seat.role.id, c⟩ := by simp [Seat.oldest?, queue]
      have next : { seat with queue := rest } = seat.next := by simp [Seat.next, queue]
      have frame : Consumed.frame ⟨seat.role.id, c⟩ = c.toFrame seat.role.id := rfl
      rw [Seat.heads, List.filterMap_cons_some oldest, List.map_cons, frame]
      dsimp only
      rcases first : s.step (c.toFrame seat.role.id) with ⟨e | report, s'⟩
      · rw [play_of_error first]
        exact ⟨rfl, rfl, fun ok => nomatch ok⟩
      · rw [play_of_ok first]
        obtain ⟨answer, left, seats'⟩ := ih s'
        by_cases on : s'.world.turn = turn
        · rw [if_pos (isTurn_iff.2 on)]
          simp only [if_pos on]
          rw [answer, Played.map_append_result]
          refine ⟨rfl, left, fun ok on => ?_⟩
          rw [Seat.nexts, List.map_cons, next]
          exact congrArg (seat.next :: ·) (seats' ok on)
        · rw [if_neg (mt isTurn_iff.1 on)]
          simp [on, Played.result, PassReport.single]

/-- Sweeps play the commands of all seats, round by round, while the turn lasts. -/
theorem sweeps_eq (turn : Nat) (seats : List (Seat K)) (s : Simulation K τ)
    (start : s.world.turn = turn) :
    let p := play (isTurn turn) ((Seat.rounds seats).map Consumed.frame) s
    (sweeps turn seats s).1 = p.result ((Seat.rounds seats).take p.reports.length) 0 ∧
      (sweeps turn seats s).2.2 = p.simulation := by
  induction size : Seat.total seats using Nat.strongRecOn generalizing seats s with
  | _ n ih =>
  obtain ⟨answer, left, seats'⟩ := sweep_eq turn seats s
  rw [sweeps, Seat.rounds]
  generalize sweep turn seats s = swept at answer left seats'
  obtain ⟨result, later, s'⟩ := swept
  generalize more : (if Seat.total (Seat.nexts seats) < Seat.total seats then
    Seat.rounds (Seat.nexts seats) else []) = others
  rw [List.map_append, play_append]
  generalize first : play (isTurn turn) _ s = p at answer left seats' ⊢
  simp only at answer left seats'
  subst answer left
  cases failed : p.failure with
  | some e =>
    -- A failure ends the sweep and all that would follow.
    simp [failed, Played.result]
  | none =>
    rw [Played.result_of_none failed]
    have le : p.reports.length ≤ (Seat.heads seats).length := by
      rw [← first]
      simpa using length_play_le (isTurn turn) ((Seat.heads seats).map Consumed.frame) s
    by_cases on : p.simulation.world.turn = turn
    · -- The turn lasts, so every seat was served and the next sweep starts from what it left.
      have whole : p.reports.length = (Seat.heads seats).length := by
        rw [← first] at failed on ⊢
        simpa using length_play failed (.inr (isTurn_iff.2 on))
      rw [seats' failed on, if_pos ⟨failed, .inr (isTurn_iff.2 on)⟩]
      by_cases shrinks : Seat.total (Seat.nexts seats) < Seat.total seats
      · obtain ⟨answer, left⟩ := ih _ (size ▸ shrinks) (Seat.nexts seats) p.simulation on rfl
        rw [if_pos shrinks] at more
        subst more
        simp only [on, shrinks, and_self, if_true]
        rw [answer, left, Played.map_append_result, List.length_append, whole,
          List.take_length_add_append, List.take_length]
        constructor <;> rfl
      · rw [if_neg shrinks] at more
        subst more
        simp [shrinks, Played.result, play_nil, Played.idle]
    · -- The turn is over, and some tick was played, since it was not over before.
      have some : ¬(p.failure = none ∧ ((Seat.heads seats).map Consumed.frame = [] ∨
          isTurn turn p.simulation = true)) := by
        rintro ⟨-, none | still⟩
        · rw [none, play_nil] at first
          exact on (first ▸ start)
        · exact on (isTurn_iff.1 still)
      simp only [if_neg some, on, false_and, if_false]
      rw [Played.result_of_none failed, List.take_append_of_le_length le]
      exact ⟨rfl, trivial⟩

end Turns

namespace Session

/-- The commands that a pass may use, in the order of their ticks. -/
def agenda (s : Session K τ) : List (Consumed K) :=
  match s.mode with
  | .continuous => s.seats.filterMap Seat.newest?
  | .strictTurn =>
    (s.seats[s.currentIndex]?).elim [] fun seat => seat.queue.map (⟨seat.role.id, ·⟩)
  | .hybrid => Seat.rounds s.seats

variable [Scalar K] {s : Session K τ}

/-- What a pass plays: one tick for the whole agenda, or a tick for each command of it while the
turn lasts. -/
def played (s : Session K τ) : Played K τ :=
  match s.mode with
  | .continuous => play always [Consumed.merged s.agenda] s.simulation
  | _ => play (isTurn s.world.turn) (s.agenda.map Consumed.frame) s.simulation

/-- What is played when time passes: the ticks that are due, the first with the agenda, or a pass if
a command waits. -/
def clocked (s : Session K τ) (elapsed : K) : Played K τ :=
  match s.mode with
  | .continuous =>
    let (due, simulation) := s.simulation.dueSteps elapsed
    play always (LoopMode.inputs .continuous due s.agenda) simulation
  | _ => if s.seats.any (!·.queue.isEmpty) then s.played else .idle s.simulation

/-- What is played from `start` is what the outcome of a pass tells and leaves, and what was used
can be played again. -/
structure Passed (s : Session K τ) (start : Simulation K τ) (p : Played K τ)
    (outcome : Except RuleError (PassReport K) × Session K τ) : Prop where
  plays : ∃ goes frames, p = play goes frames start
  mode : outcome.2.mode = s.mode
  simulation : outcome.2.simulation = p.simulation
  answer : ∃ consumed discarded, outcome.1 = p.result consumed discarded ∧
    (p.failure = none → play always (s.mode.inputs p.reports.length consumed) start = p)

/-- What is played leaves the functions, and the scene if none of them changes it. -/
theorem Passed.stays {pace : Pace K} {accumulator : K} {p : Played K τ}
    {outcome : Except RuleError (PassReport K) × Session K τ}
    (passed : Passed s (s.simulation.withClock pace accumulator) p outcome)
    (keeps : s.simulation.rules.registry.KeepsScene) :
    outcome.2.world.scene = s.world.scene ∧
      outcome.2.simulation.rules.registry = s.simulation.rules.registry := by
  obtain ⟨⟨goes, frames, rfl⟩, -, simulation, -⟩ := passed
  rw [world, simulation]
  exact ⟨scene_play (s := s.simulation.withClock pace accumulator) goes keeps frames,
    (play_keeps frames).registry⟩

theorem played_of_turns (turns : s.mode ≠ .continuous) :
    s.played = play (isTurn s.world.turn) (s.agenda.map Consumed.frame) s.simulation := by
  unfold played
  cases mode : s.mode with
  | continuous => exact absurd mode turns
  | _ => rfl

/-- Where there are turns, a pass uses the first commands of its agenda. -/
theorem passed_of_turns (turns : s.mode ≠ .continuous)
    {outcome : Except RuleError (PassReport K) × Session K τ} (mode : outcome.2.mode = s.mode)
    (simulation : outcome.2.simulation = s.played.simulation)
    (answer : outcome.1 = s.played.result (s.agenda.take s.played.reports.length) 0) :
    Passed s s.simulation s.played outcome where
  plays := ⟨_, _, played_of_turns turns⟩
  mode := mode
  simulation := simulation
  answer := by
    refine ⟨_, _, answer, fun ok => ?_⟩
    have inputs (n : Nat) (cs : List (Consumed K)) :
        s.mode.inputs n cs = cs.map Consumed.frame := by
      unfold LoopMode.inputs
      cases mode : s.mode with
      | continuous => exact absurd mode turns
      | _ => rfl
    rw [played_of_turns turns] at ok ⊢
    rw [inputs, List.map_take, play_always_take ok]

theorem strictPass_passed (mode : s.mode = .strictTurn) :
    Passed s s.simulation s.played s.strictPass := by
  have turns : s.mode ≠ .continuous := by simp [mode]
  have agenda : s.agenda =
      (s.seats[s.currentIndex]?).elim [] fun seat => seat.queue.map (⟨seat.role.id, ·⟩) := by
    simp [Session.agenda, mode]
  have played := played_of_turns turns
  unfold strictPass
  cases current : s.seats[s.currentIndex]? with
  | none =>
    rw [current] at agenda
    rw [agenda] at played
    refine passed_of_turns turns rfl ?_ ?_ <;> rw [played]
    · rfl
    · simp [Played.result, play_nil, Played.idle]
  | some seat =>
    rw [current, Option.elim_some] at agenda
    obtain ⟨answer, left⟩ := drain_eq s.world.turn seat.role.id seat.queue s.simulation
    have same : play (isTurn s.world.turn) (seat.queue.map fun c => c.toFrame seat.role.id)
        s.simulation = s.played := by
      rw [played, agenda, List.map_map]
      rfl
    simp only [same] at answer left
    refine passed_of_turns turns rfl left ?_
    rw [agenda]
    exact answer

theorem hybridPass_passed (mode : s.mode = .hybrid) :
    Passed s s.simulation s.played s.hybridPass := by
  have turns : s.mode ≠ .continuous := by simp [mode]
  have agenda : s.agenda = Seat.rounds s.seats := by simp [Session.agenda, mode]
  obtain ⟨answer, left⟩ := sweeps_eq s.world.turn s.seats s.simulation rfl
  have same : play (isTurn s.world.turn) ((Seat.rounds s.seats).map Consumed.frame) s.simulation =
      s.played := by
    rw [played_of_turns turns, agenda]
  simp only [same] at answer left
  refine passed_of_turns turns rfl left ?_
  rw [agenda]
  exact answer

/-- A continuous pass plays one tick, with what waits in the queues. -/
theorem continuousPass_eq {consumed : List (Consumed K)}
    (waiting : s.seats.filterMap Seat.newest? = consumed) :
    s.continuousPass =
      ((play always [Consumed.merged consumed] s.simulation).result consumed
          (Seat.total s.seats - consumed.length),
        { s with
          simulation := (play always [Consumed.merged consumed] s.simulation).simulation
          seats := s.seats.map Seat.cleared }) := by
  rcases first : s.simulation.step (Consumed.merged consumed) with ⟨e | report, t⟩
  · rw [play_of_error first]
    unfold Consumed.merged at first
    simp only [continuousPass, waiting, first]
    rfl
  · rw [play_always_of_ok first]
    unfold Consumed.merged at first
    simp only [continuousPass, waiting, first]
    rfl

omit [Scalar K] in
theorem newest?_cleared (seats : List (Seat K)) :
    (seats.map Seat.cleared).filterMap Seat.newest? = [] := by
  simp [Seat.newest?, Seat.cleared]

omit [Scalar K] in
theorem total_cleared (seats : List (Seat K)) : Seat.total (seats.map Seat.cleared) = 0 := by
  induction seats with
  | nil => rfl
  | cons seat seats ih => exact (Nat.zero_add _).trans ih

/-- One continuous pass and then others, which find empty queues. -/
theorem continuousPasses_of_step (n : Nat) {consumed : List (Consumed K)}
    (waiting : s.seats.filterMap Seat.newest? = consumed) :
    continuousPasses (n + 1) s =
      match s.simulation.step (Consumed.merged consumed) with
      | (.error e, t) => (.error e, { s with simulation := t, seats := s.seats.map Seat.cleared })
      | (.ok report, t) =>
        let (more, s') :=
          continuousPasses n { s with simulation := t, seats := s.seats.map Seat.cleared }
        (more.map (PassReport.append
          ⟨[report], consumed, Seat.total s.seats - consumed.length⟩), s') := by
  rw [continuousPasses, continuousPass_eq waiting]
  rcases first : s.simulation.step (Consumed.merged consumed) with ⟨e | report, t⟩
  · rw [play_of_error first]
    rfl
  · rw [play_always_of_ok first]
    rfl

/-- From empty queues, continuous passes play ticks without commands. -/
theorem continuousPasses_of_empty (n : Nat) (empty : s.seats.map Seat.cleared = s.seats) :
    continuousPasses n s =
      let p := play always (List.replicate n {}) s.simulation
      (p.result [] 0, { s with simulation := p.simulation }) := by
  have waiting : s.seats.filterMap Seat.newest? = [] := empty ▸ newest?_cleared s.seats
  have none : Seat.total s.seats = 0 := empty ▸ total_cleared s.seats
  induction n generalizing s with
  | zero => rfl
  | succ n ih =>
    rw [continuousPasses_of_step n waiting, empty, none, List.replicate_succ]
    have frame : Consumed.merged ([] : List (Consumed K)) = {} := rfl
    rw [frame]
    rcases first : s.simulation.step {} with ⟨e | report, t⟩
    · rw [play_of_error first]
      rfl
    · rw [play_always_of_ok first]
      simp only [ih (s := { s with simulation := t }) empty waiting none,
        Played.map_append_result]
      rfl

/-- Continuous passes play a tick each, the first with what waits in the queues. -/
theorem continuousPasses_succ (n : Nat) {consumed : List (Consumed K)}
    (waiting : s.seats.filterMap Seat.newest? = consumed) :
    continuousPasses (n + 1) s =
      let p := play always (LoopMode.inputs .continuous (n + 1) consumed) s.simulation
      (p.result consumed (Seat.total s.seats - consumed.length),
        { s with simulation := p.simulation, seats := s.seats.map Seat.cleared }) := by
  rw [continuousPasses_of_step n waiting, LoopMode.inputs]
  rcases first : s.simulation.step (Consumed.merged consumed) with ⟨e | report, t⟩
  · rw [play_of_error first]
    rfl
  · have empty : (s.seats.map Seat.cleared).map Seat.cleared = s.seats.map Seat.cleared := by
      rw [List.map_map]
      rfl
    rw [play_always_of_ok first]
    simp only [continuousPasses_of_empty n
      (s := { s with simulation := t, seats := s.seats.map Seat.cleared }) empty,
      Played.map_append_result, List.append_nil]
    rfl

omit [Scalar K] in
theorem length_inputs (n : Nat) (cs : List (Consumed K)) :
    (LoopMode.inputs .continuous n cs).length = n := by
  cases n <;> simp [LoopMode.inputs]

theorem continuousPass_passed (mode : s.mode = .continuous) :
    Passed s s.simulation s.played s.continuousPass := by
  have agenda : s.seats.filterMap Seat.newest? = s.agenda := by simp [Session.agenda, mode]
  have played : s.played = play always [Consumed.merged s.agenda] s.simulation := by
    simp [Session.played, mode]
  rw [continuousPass_eq agenda, ← played]
  refine ⟨⟨_, _, played⟩, rfl, rfl, _, _, rfl, fun ok => ?_⟩
  rw [played] at ok ⊢
  rw [length_play ok (.inr rfl), mode]
  rfl

/-- What a pass plays. -/
theorem pass_passed (s : Session K τ) : Passed s s.simulation s.played s.pass := by
  unfold pass
  cases mode : s.mode with
  | continuous => exact continuousPass_passed mode
  | strictTurn => exact strictPass_passed mode
  | hybrid => exact hybridPass_passed mode

/-- Where there are turns, the clock makes a pass if a command waits. -/
theorem advanceClock_turns (turns : s.mode ≠ .continuous) (elapsed : K) : s.advanceClock elapsed =
    if s.seats.any (!·.queue.isEmpty) then s.pass else (.ok {}, s) := by
  unfold advanceClock
  cases mode : s.mode with
  | continuous => exact absurd mode turns
  | _ => rfl

/-- In a continuous session the clock makes the passes that are due. -/
theorem advanceClock_continuous (mode : s.mode = .continuous) (elapsed : K) :
    s.advanceClock elapsed = continuousPasses (s.simulation.dueSteps elapsed).1
      { s with simulation := (s.simulation.dueSteps elapsed).2 } := by
  simp [advanceClock, mode]

/-- Where there are turns, the passing of time does nothing or what a pass does. -/
theorem advanceClock_of_turns (turns : s.mode ≠ .continuous) (elapsed : K) :
    Passed s s.simulation (s.clocked elapsed) (s.advanceClock elapsed) := by
  have idle : Passed s s.simulation (.idle s.simulation) (.ok {}, s) := by
    refine ⟨⟨always, [], rfl⟩, rfl, rfl, [], 0, rfl, fun _ => ?_⟩
    unfold LoopMode.inputs
    split <;> rfl
  have clocked : s.clocked elapsed =
      if s.seats.any (!·.queue.isEmpty) then s.played else .idle s.simulation := by
    unfold Session.clocked
    cases mode : s.mode with
    | continuous => exact absurd mode turns
    | _ => rfl
  rw [clocked, advanceClock_turns turns]
  split
  · exact s.pass_passed
  · exact idle

/-- What is played when time passes. Nothing else changes but the time that is left over. -/
theorem advanceClock_passed (s : Session K τ) (elapsed : K) :
    ∃ accumulator, Passed s (s.simulation.withClock s.simulation.pace accumulator)
      (s.clocked elapsed) (s.advanceClock elapsed) := by
  by_cases turns : s.mode = .continuous
  · refine ⟨(s.simulation.dueSteps elapsed).2.accumulator, ?_⟩
    have agenda : s.seats.filterMap Seat.newest? = s.agenda := by simp [Session.agenda, turns]
    have clocked : s.clocked elapsed =
        play always (LoopMode.inputs .continuous (s.simulation.dueSteps elapsed).1 s.agenda)
          (s.simulation.dueSteps elapsed).2 := by
      simp [Session.clocked, turns]
    rw [clocked, advanceClock_continuous turns elapsed]
    cases (s.simulation.dueSteps elapsed).1 with
    | zero => exact ⟨⟨_, _, rfl⟩, rfl, rfl, [], 0, rfl, fun _ => by rw [turns]; rfl⟩
    | succ n =>
      rw [continuousPasses_succ n (s := { s with simulation := (s.simulation.dueSteps elapsed).2 })
        agenda]
      refine ⟨⟨_, _, rfl⟩, rfl, rfl, _, _, rfl, fun ok => ?_⟩
      rw [length_play ok (.inr rfl), length_inputs, turns]
      rfl
  · exact ⟨s.simulation.accumulator, advanceClock_of_turns turns elapsed⟩

end Session

end Playfield
