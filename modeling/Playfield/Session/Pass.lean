import Playfield.Session.Basic

/-!
# Passes over the queues

A pass takes commands off the queues of a session and runs ticks with them, in the way of the
session's loop mode.

* `continuous`: one tick with the newest command of every role; older ones are dropped.
* `strictTurn`: a tick for each command of the role whose turn it is, until the turn changes.
* `hybrid`: sweeps over the roles with a tick for one command each, until the turn changes or
  nothing is left.

`Session.advanceClock` runs the ticks that are due. A tick that fails ends the pass; the session
that is left has lost the command, and what the pass did before it is not reported.
-/

namespace Playfield

variable {K τ : Type}

/-- The report of a tick for one command. -/
def PassReport.single (report : TickReport K) (role : String) (c : Command K) : PassReport K :=
  ⟨[report], [⟨role, c⟩], 0⟩

namespace Seat

/-- The newest command, in the name of the role. -/
def newest? (s : Seat K) : Option (Consumed K) := s.queue.getLast?.map (⟨s.role.id, ·⟩)

/-- The seat without commands. -/
def cleared (s : Seat K) : Seat K := { s with queue := [] }

/-- The number of commands of all seats. -/
def total (seats : List (Seat K)) : Nat :=
  seats.foldr (fun seat n => seat.queue.length + n) 0

end Seat

variable [Scalar K]

/-- Runs commands of a role, a tick each, until the turn is no longer the given one. Also gives the
commands that are left. -/
def drain (turn : Nat) (role : String) : List (Command K) → Simulation K τ →
    Except RuleError (PassReport K) × List (Command K) × Simulation K τ
  | [], s => (.ok {}, [], s)
  | c :: rest, s =>
    match s.step (c.toFrame role) with
    | (.error e, s) => (.error e, rest, s)
    | (.ok report, s) =>
      let done := PassReport.single report role c
      if s.world.turn = turn then
        let (more, left, s) := drain turn role rest s
        (more.map done.append, left, s)
      else (.ok done, rest, s)

/-- Runs one command of every seat that has one, until the turn is no longer the given one. -/
def sweep (turn : Nat) : List (Seat K) → Simulation K τ →
    Except RuleError (PassReport K) × List (Seat K) × Simulation K τ
  | [], s => (.ok {}, [], s)
  | seat :: seats, s =>
    match seat.queue with
    | [] =>
      let (report, seats, s) := sweep turn seats s
      (report, seat :: seats, s)
    | c :: rest =>
      let seat := { seat with queue := rest }
      match s.step (c.toFrame seat.role.id) with
      | (.error e, s) => (.error e, seat :: seats, s)
      | (.ok report, s) =>
        let done := PassReport.single report seat.role.id c
        if s.world.turn = turn then
          let (more, seats, s) := sweep turn seats s
          (more.map done.append, seat :: seats, s)
        else (.ok done, seat :: seats, s)

/-- Sweeps until the turn changes or a sweep finds no command. -/
def sweeps (turn : Nat) (seats : List (Seat K)) (s : Simulation K τ) :
    Except RuleError (PassReport K) × List (Seat K) × Simulation K τ :=
  match sweep turn seats s with
  | (.error e, seats', s') => (.error e, seats', s')
  | (.ok report, seats', s') =>
    if s'.world.turn = turn ∧ Seat.total seats' < Seat.total seats then
      let (more, seats'', s'') := sweeps turn seats' s'
      (more.map report.append, seats'', s'')
    else (.ok report, seats', s')
termination_by Seat.total seats

namespace Session

/-- One tick with the newest command of every role. -/
def continuousPass (s : Session K τ) : Except RuleError (PassReport K) × Session K τ :=
  let consumed := s.seats.filterMap Seat.newest?
  let frame := consumed.foldl (fun f c => c.command.applyTo c.role f) {}
  let (result, simulation) := s.simulation.step frame
  (result.map fun report => ⟨[report], consumed, Seat.total s.seats - consumed.length⟩,
    { s with simulation, seats := s.seats.map Seat.cleared })

/-- A tick for each command of the role whose turn it is, until the turn changes. -/
def strictPass (s : Session K τ) : Except RuleError (PassReport K) × Session K τ :=
  match s.seats[s.currentIndex]? with
  | none => (.ok {}, s)
  | some seat =>
    let (result, left, simulation) := drain s.world.turn seat.role.id seat.queue s.simulation
    (result, { s with
      simulation, seats := s.seats.set s.currentIndex { seat with queue := left } })

/-- Sweeps over the roles until the turn changes or nothing is left. -/
def hybridPass (s : Session K τ) : Except RuleError (PassReport K) × Session K τ :=
  let (result, seats, simulation) := sweeps s.world.turn s.seats s.simulation
  (result, { s with simulation, seats })

/-- One pass in the way of the loop mode. -/
def pass (s : Session K τ) : Except RuleError (PassReport K) × Session K τ :=
  match s.mode with
  | .continuous => s.continuousPass
  | .strictTurn => s.strictPass
  | .hybrid => s.hybridPass

/-- Several continuous passes, up to one that fails. -/
def continuousPasses : Nat → Session K τ → Except RuleError (PassReport K) × Session K τ
  | 0, s => (.ok {}, s)
  | n + 1, s =>
    match s.continuousPass with
    | (.error e, s) => (.error e, s)
    | (.ok report, s) =>
      let (more, s) := continuousPasses n s
      (more.map report.append, s)

/-- Lets time pass. A continuous session runs the ticks that are due, of which the first takes the
commands; the others make a pass if a command waits. -/
def advanceClock (s : Session K τ) (elapsed : K) : Except RuleError (PassReport K) × Session K τ :=
  match s.mode with
  | .continuous =>
    let (due, simulation) := s.simulation.dueSteps elapsed
    continuousPasses due { s with simulation }
  | _ => if s.seats.any (!·.queue.isEmpty) then s.pass else (.ok {}, s)

end Session

end Playfield
