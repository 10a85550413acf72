import Playfield.Proofs.Input
import Playfield.Proofs.Session.Accounts

/-!
# The newest command wins

A continuous pass uses the newest command of every seat and drops the others, so what waits behind
the newest commands shows nowhere but in the number of commands dropped.

* `InputFrame.MadeOf`: an input has what several others have. `merged_eq_mergeAll`: the input of a
  continuous pass is merged from the inputs of its commands, in the order of the seats.
* `Seat.busy` counts the seats with commands, each of which has one newest command.
* `Session.SameNewest s s'`: two sessions that differ in older commands only.
* `newest_command_wins`: what a continuous pass plays, tells and leaves, and what the clock does;
  both do the same in two such sessions.
-/

namespace Playfield

variable {K τ : Type}

/-- The input has what the parts have: of sets the union, of lists one after the other. -/
structure InputFrame.MadeOf (f : InputFrame K) (parts : List (InputFrame K)) : Prop where
  keyboard : ∀ phase name, f.keyboard.contains phase name =
    parts.any fun g => g.keyboard.contains phase name
  mouse : ∀ phase name, f.mouse.contains phase name =
    parts.any fun g => g.mouse.contains phase name
  collisions : f.collisions = parts.flatMap (·.collisions)
  tools : f.tools = parts.flatMap (·.tools)
  buttons : f.buttons = parts.flatMap (·.buttons)

theorem InputFrame.madeOf_mergeAll (fs : List (InputFrame K)) : (mergeAll fs).MadeOf fs where
  keyboard := contains_mergeAll InputFrame.keyboard (fun _ _ => rfl) rfl fs
  mouse := contains_mergeAll InputFrame.mouse (fun _ _ => rfl) rfl fs
  collisions := mergeAll_of_append InputFrame.collisions (fun _ _ => rfl) rfl fs
  tools := mergeAll_of_append InputFrame.tools (fun _ _ => rfl) rfl fs
  buttons := mergeAll_of_append InputFrame.buttons (fun _ _ => rfl) rfl fs

/-- The input for several commands is merged from the inputs for each of them. -/
theorem merged_eq_mergeAll (cs : List (Consumed K)) :
    Consumed.merged cs = .mergeAll (cs.map Consumed.frame) := by
  rw [Consumed.merged, InputFrame.mergeAll, List.foldl_map]
  simp only [Command.applyTo_eq_merge]
  rfl

namespace Seat

/-- The number of seats with a command. -/
def busy (seats : List (Seat K)) : Nat := seats.countP (!·.queue.isEmpty)

/-- Every seat with a command has one newest command. -/
theorem length_newest (seats : List (Seat K)) :
    (seats.filterMap newest?).length = busy seats := by
  rw [List.length_filterMap_eq_countP, busy]
  refine List.countP_congr fun seat _ => ?_
  cases queue : seat.queue <;> simp [newest?, queue]

theorem busy_le_total (seats : List (Seat K)) : busy seats ≤ total seats :=
  length_newest seats ▸ length_newest_le seats

/-- The same role, and the same newest command if there is one. -/
structure SameNewest (a b : Seat K) : Prop where
  role : b.role = a.role
  newest : b.queue.getLast? = a.queue.getLast?

theorem newest?_of_same {seats seats' : List (Seat K)}
    (same : List.Forall₂ SameNewest seats seats') :
    seats'.filterMap newest? = seats.filterMap newest? := by
  induction same with
  | nil => rfl
  | @cons a b rest rest' first _ ih =>
    have newest : b.newest? = a.newest? := by rw [newest?, newest?, first.role, first.newest]
    rw [List.filterMap_cons, List.filterMap_cons, newest, ih]

theorem cleared_of_same {seats seats' : List (Seat K)}
    (same : List.Forall₂ SameNewest seats seats') :
    seats'.map cleared = seats.map cleared := by
  induction same with
  | nil => rfl
  | @cons a b rest rest' first _ ih =>
    have role : b.cleared = a.cleared := by rw [cleared, cleared, first.role]
    rw [List.map_cons, List.map_cons, role, ih]

end Seat

open Seat Simulation

namespace Session

/-- The newest command of every seat that has one, in the order of the seats. -/
def newest (s : Session K τ) : List (Consumed K) := s.seats.filterMap newest?

/-- The input merged from the inputs for the newest commands. -/
def newestInput (s : Session K τ) : InputFrame K := .mergeAll (s.newest.map Consumed.frame)

/-- The number of commands behind the newest ones. -/
def stale (s : Session K τ) : Nat := total s.seats - busy s.seats

/-- Two sessions that differ at most in commands behind the newest one of a seat. -/
structure SameNewest (s s' : Session K τ) : Prop where
  simulation : s'.simulation = s.simulation
  mode : s'.mode = s.mode
  seats : List.Forall₂ Seat.SameNewest s.seats s'.seats

variable {s s' : Session K τ}

theorem SameNewest.newest_eq (same : SameNewest s s') : s'.newest = s.newest :=
  newest?_of_same same.seats

theorem SameNewest.newestInput_eq (same : SameNewest s s') : s'.newestInput = s.newestInput := by
  rw [newestInput, same.newest_eq, newestInput]

/-- What a pass tells but for the commands it dropped, and the session it leaves. -/
def told (outcome : Except RuleError (PassReport K) × Session K τ) :
    Except RuleError (List (TickReport K) × List (Consumed K)) × Session K τ :=
  (outcome.1.map fun report => (report.ticks, report.consumed), outcome.2)

variable [Scalar K]

/-- What a continuous pass plays, tells and leaves. -/
theorem pass_of_continuous (mode : s.mode = .continuous) : s.pass =
    ((s.simulation.step s.newestInput).1.map fun report => ⟨[report], s.newest, s.stale⟩,
      { s with
        simulation := (s.simulation.step s.newestInput).2
        seats := s.seats.map cleared }) := by
  have pass : s.pass = s.continuousPass := by rw [Session.pass, mode]
  rw [pass, newestInput, ← merged_eq_mergeAll, stale, ← length_newest]
  rfl

/-- What is played when ticks are due in a continuous session: the first tick takes the newest
commands, the others take none. -/
def due (s : Session K τ) (elapsed : K) (n : Nat) : Played K τ :=
  play always (s.newestInput :: List.replicate n {}) (s.simulation.dueSteps elapsed).2

/-- What the clock of a continuous session tells and leaves when ticks are due. -/
theorem advanceClock_of_due (mode : s.mode = .continuous) {elapsed : K} {n : Nat}
    (isDue : (s.simulation.dueSteps elapsed).1 = n + 1) : s.advanceClock elapsed =
      ((s.due elapsed n).result s.newest s.stale,
        { s with simulation := (s.due elapsed n).simulation, seats := s.seats.map cleared }) := by
  rw [advanceClock_continuous mode, isDue, due, newestInput, ← merged_eq_mergeAll, stale,
    ← length_newest]
  exact continuousPasses_succ n rfl

theorem told_pass_of_same (mode : s.mode = .continuous) (same : SameNewest s s') :
    told s'.pass = told s.pass := by
  rw [pass_of_continuous mode, pass_of_continuous (same.mode.trans mode), same.newestInput_eq,
    same.newest_eq, same.simulation, cleared_of_same same.seats, same.mode]
  generalize s.simulation.step s.newestInput = ticked
  rcases ticked with ⟨e | report, t⟩ <;> rfl

theorem told_advanceClock_of_same (mode : s.mode = .continuous) (same : SameNewest s s')
    {elapsed : K} (isDue : 0 < (s.simulation.dueSteps elapsed).1) :
    told (s'.advanceClock elapsed) = told (s.advanceClock elapsed) := by
  obtain ⟨n, isDue⟩ := Nat.exists_eq_add_of_lt isDue
  rw [Nat.zero_add] at isDue
  have plays : s'.due elapsed n = s.due elapsed n := by
    rw [due, due, same.newestInput_eq, same.simulation]
  rw [advanceClock_of_due mode isDue,
    advanceClock_of_due (same.mode.trans mode) (same.simulation ▸ isDue), plays,
    same.newest_eq, cleared_of_same same.seats, same.mode]
  generalize s.due elapsed n = p
  simp only [told, Played.result]
  cases p.failure <;> rfl

end Session

open Session

/-- A continuous pass plays one tick with the input merged from the newest commands, tells these and
how many others it dropped, and empties the queues. When ticks are due, the clock does the same with
the first of them, and plays the others without commands. So what waits behind the newest commands
changes neither what a pass or the clock leaves nor what it tells of ticks and used commands. -/
theorem newest_command_wins [Scalar K] {s s' : Session K τ} (mode : s.mode = .continuous)
    (same : SameNewest s s') :
    s.newestInput.MadeOf (s.newest.map Consumed.frame) ∧
      busy s.seats ≤ total s.seats ∧
      s.pass = ((s.simulation.step s.newestInput).1.map fun report =>
          ⟨[report], s.newest, total s.seats - busy s.seats⟩,
        { s with
          simulation := (s.simulation.step s.newestInput).2
          seats := s.seats.map cleared }) ∧
      (∀ elapsed n, (s.simulation.dueSteps elapsed).1 = n + 1 →
        let p := play always (s.newestInput :: List.replicate n {})
          (s.simulation.dueSteps elapsed).2
        s.advanceClock elapsed = (p.result s.newest (total s.seats - busy s.seats),
          { s with simulation := p.simulation, seats := s.seats.map cleared })) ∧
      told s'.pass = told s.pass ∧
      ∀ elapsed, 0 < (s.simulation.dueSteps elapsed).1 →
        told (s'.advanceClock elapsed) = told (s.advanceClock elapsed) :=
  ⟨InputFrame.madeOf_mergeAll _, busy_le_total s.seats, pass_of_continuous mode,
    fun _ _ => advanceClock_of_due mode, told_pass_of_same mode same,
    fun _ => told_advanceClock_of_same mode same⟩

/-! ### A command that is overtaken -/

namespace Overtaken

/-- A role of which nothing but the name matters. -/
def role (id : String) : Role Rat :=
  { id, kind := .human, required := true, camera := none, ui := none
    serverFields := ∅, localFields := ∅ }

/-- A session of two roles, where commands of the first wait. -/
def session (simulation : Simulation Rat Empty) (queue : List (Command Rat)) :
    Session Rat Empty :=
  { simulation, mode := .continuous, seats := [⟨role "a", queue⟩, ⟨role "b", []⟩] }

/-- No functions. -/
def registry : Registry Rat Empty := { resume := fun t => nomatch t }

/-- Within a second ticks are due. -/
def isDue : Bool :=
  match Simulation.new Scene.default [] registry 0 with
  | .error _ => false
  | .ok simulation => (simulation.dueSteps 1).1 == 5

end Overtaken

/-- With and without a press of a button that another one follows, a pass and a second of time tell
and leave the same; only the first drops a command. -/
theorem overtaken_command_is_dropped : ∃ simulation : Simulation Rat Empty,
    let s := Overtaken.session simulation [.button "x", .button "y"]
    let s' := Overtaken.session simulation [.button "y"]
    (simulation.dueSteps 1).1 = 5 ∧ s.mode = .continuous ∧ SameNewest s s' ∧
      s.newest = [⟨"a", .button "y"⟩] ∧
      total s.seats - busy s.seats = 1 ∧ total s'.seats - busy s'.seats = 0 ∧
      told s'.pass = told s.pass ∧ told (s'.advanceClock 1) = told (s.advanceClock 1) := by
  have isDue : Overtaken.isDue = true := by cbv
  unfold Overtaken.isDue at isDue
  split at isDue
  · cases isDue
  rename_i simulation _
  have due : (simulation.dueSteps 1).1 = 5 := by simpa using isDue
  have same : SameNewest (Overtaken.session simulation [.button "x", .button "y"])
      (Overtaken.session simulation [.button "y"]) :=
    ⟨rfl, rfl, .cons ⟨rfl, rfl⟩ (.cons ⟨rfl, rfl⟩ .nil)⟩
  obtain ⟨-, -, -, -, pass, clock⟩ := newest_command_wins rfl same
  exact ⟨simulation, due, rfl, same, rfl, rfl, rfl, pass,
    clock 1 (due.symm ▸ Nat.succ_pos 4)⟩

end Playfield
