import Playfield.Proofs.Lobby.Rights
import Playfield.Proofs.Session.Admission
import Playfield.Proofs.Session.LastWins
import Playfield.Proofs.Simulation.Start

/-!
# The tool calls that reach the rules

A command is checked where it is queued and used much later, merged with those of other roles or on
its own. Whatever way it takes, the rules get a tool call in the name of the role that sent the
command, and only of tools that are offered to this role.

* `Session.handed` are the inputs that the ticks get when a session is asked for something;
  `enter_plays`: these are the ticks that are run.
* `mem_tools_of_inputs`, `mem_agenda`: a tool call in such an input is a command that waits in the
  queue of its role.
* `Book.Lawful`: the queues are short, and what waits or was used has been accepted and is offered.
  `Lawful.run`: requests keep it so.
* `only_offered_tools_are_called` puts this together.
-/

namespace Playfield

variable {K τ : Type}

/-! ### Calls in inputs -/

section Inputs

variable {c : Consumed K} {cs : List (Consumed K)} {f : InputFrame K} {call : ToolCall K}

/-- A tool call is what a role has asked for. -/
def Consumed.Calls (c : Consumed K) (call : ToolCall K) : Prop :=
  c.command = .tool call.name call.args ∧ call.role = some c.role

theorem mem_tools_of_frame (mem : call ∈ c.frame.tools) : c.Calls call := by
  obtain ⟨role, command⟩ := c
  cases command with
  | tool name args =>
    obtain rfl := List.mem_singleton.1 mem
    exact ⟨rfl, rfl⟩
  | input keyboard mouse buttons => cases mem
  | button name => cases mem
  | noop => cases mem

theorem mem_tools_of_merged (mem : call ∈ (Consumed.merged cs).tools) : ∃ c ∈ cs, c.Calls call := by
  rw [merged_eq_mergeAll, (InputFrame.madeOf_mergeAll _).tools, List.flatMap_map,
    List.mem_flatMap] at mem
  obtain ⟨c, here, mem⟩ := mem
  exact ⟨c, here, mem_tools_of_frame mem⟩

/-- Inputs for commands have the tool calls of the commands, and no others. -/
theorem mem_tools_of_inputs {mode : LoopMode} {n : Nat} (input : f ∈ mode.inputs n cs)
    (mem : call ∈ f.tools) : ∃ c ∈ cs, c.Calls call := by
  have single (input : f ∈ cs.map Consumed.frame) : ∃ c ∈ cs, c.Calls call := by
    obtain ⟨c, here, rfl⟩ := List.mem_map.1 input
    exact ⟨c, here, mem_tools_of_frame mem⟩
  cases mode with
  | continuous =>
    cases n with
    | zero => cases input
    | succ n =>
      rcases List.mem_cons.1 input with rfl | later
      · exact mem_tools_of_merged mem
      · -- The ticks after the first get nothing.
        obtain rfl := List.eq_of_mem_replicate later
        cases mem
  | strictTurn => exact single input
  | hybrid => exact single input

end Inputs

/-! ### Commands in queues -/

namespace Seat

variable {role : String} {c : Command K} {seats seats' : List (Seat K)}

/-- The command waits in the queue of the role in whose name it is told. -/
def Waits (seats : List (Seat K)) (c : Consumed K) : Prop :=
  ∃ seat ∈ seats, seat.role.id = c.role ∧ c.command ∈ seat.queue

theorem waits_of_mem_waiting (mem : c ∈ waiting role seats) : Waits seats ⟨role, c⟩ := by
  rcases first_or_none role seats with ⟨j, seat, first, rfl⟩ | none
  · rw [first.waiting] at mem
    exact ⟨seat, List.mem_of_getElem? first.found, rfl, mem⟩
  · rw [waiting_of_empty fun seat here same => absurd same (none seat here)] at mem
    cases mem

theorem waits_of_holds {t : Ticket K} (holds : Holds seats t) : Waits seats t.consumed := by
  obtain ⟨seat, found, role, waits⟩ := holds
  exact ⟨seat, List.mem_of_getElem? found, role.symm, waits⟩

/-- Where nothing was put in a queue, each is the end of what it was. -/
theorem FedBy.exists_of_mem {seat' : Seat K} (fed : FedBy (fun _ => False) seats seats')
    (mem : seat' ∈ seats') :
    ∃ seat ∈ seats, seat'.role = seat.role ∧ seat'.queue <:+ seat.queue := by
  induction fed with
  | nil => cases mem
  | cons head tail ih =>
    rcases List.mem_cons.1 mem with rfl | later
    · exact ⟨_, List.mem_cons_self, head.1, head.2.resolve_right id⟩
    · obtain ⟨seat, here, rest⟩ := ih later
      exact ⟨seat, List.mem_cons_of_mem _ here, rest⟩

theorem FedBy.sole (fed : FedBy (fun _ => False) seats seats') (sole : Sole seats) :
    Sole seats' := by
  induction fed with
  | nil => exact .nil
  | @cons seat seat' seats seats' head tail ih =>
    obtain ⟨first, rest⟩ := List.pairwise_cons.1 sole
    refine List.pairwise_cons.2 ⟨fun b mem same => ?_, ih rest⟩
    obtain ⟨old, here, role, queue⟩ := FedBy.exists_of_mem tail mem
    rw [head.1, role] at same
    rw [first old here same] at queue
    exact List.suffix_nil.1 queue

end Seat

open Seat Simulation

namespace Session

variable {s : Session K τ} {c : Consumed K}

/-- What is on the agenda of a pass waits in a queue. -/
theorem mem_agenda (mem : c ∈ s.agenda) : Waits s.seats c := by
  unfold agenda at mem
  split at mem
  · obtain ⟨seat, here, newest⟩ := List.mem_filterMap.1 mem
    obtain ⟨last, is_last, rfl⟩ := Option.map_eq_some_iff.1 newest
    exact ⟨seat, here, rfl, List.mem_of_getLast? is_last⟩
  · cases current : s.seats[s.currentIndex]? with
    | none =>
      rw [current] at mem
      cases mem
    | some seat =>
      rw [current, Option.elim_some] at mem
      obtain ⟨command, waits, rfl⟩ := List.mem_map.1 mem
      exact ⟨seat, List.mem_of_getElem? current, rfl, waits⟩
  · rw [← consumed_interleaving] at mem
    obtain ⟨t, here, rfl⟩ := List.mem_map.1 mem
    exact waits_of_holds (holds_of_mem_interleaving here)

theorem Settled.waits {report : PassReport K} {s' : Session K τ} (settled : Settled s report s')
    (mem : c ∈ report.consumed) : Waits s.seats c := by
  have told : c.command ∈ Consumed.ofRole c.role report.consumed :=
    List.mem_filterMap.2 ⟨c, mem, if_pos rfl⟩
  exact waits_of_mem_waiting
    ((settled.accounted.order c.role).subset (List.mem_append_left _ told))

/-! ### Inputs that are handed to the rules -/

variable [Scalar K]

/-- The inputs that the ticks of a request get. The rules get them with the collisions of the tick
added. -/
def handed (s : Session K τ) : Request K → List (InputFrame K)
  | .enqueue .. => []
  | .pass => (s.mode.inputs 1 s.agenda).take s.played.steps
  | .clock elapsed =>
    (s.mode.inputs (s.simulation.dueSteps elapsed).1 s.agenda).take (s.clocked elapsed).steps

/-- The simulation in which the ticks of a request begin. -/
def begins (s : Session K τ) : Request K → Simulation K τ
  | .clock elapsed =>
    if s.mode = .continuous then (s.simulation.dueSteps elapsed).2 else s.simulation
  | _ => s.simulation

/-- The first of some inputs are handed in, one for each tick that is run. -/
theorem handed_of_play (goes : Simulation K τ → Bool) {frames : List (InputFrame K)}
    {start : Simulation K τ} {p : Played K τ} (plays : play goes frames start = p) :
    play always (frames.take p.steps) start = p ∧ (frames.take p.steps).length = p.steps := by
  subst plays
  exact ⟨play_always_steps goes frames start, List.length_take_of_le (steps_le goes frames start)⟩

omit [Scalar K] in
theorem inputs_of_turns {mode : LoopMode} (turns : mode ≠ .continuous) (n : Nat)
    (cs : List (Consumed K)) : mode.inputs n cs = cs.map Consumed.frame := by
  cases mode with
  | continuous => exact absurd rfl turns
  | strictTurn => rfl
  | hybrid => rfl

theorem handed_pass (s : Session K τ) :
    play always (s.handed .pass) s.simulation = s.played ∧
      (s.handed .pass).length = s.played.steps := by
  by_cases mode : s.mode = .continuous
  · refine handed_of_play always ?_
    rw [played, mode]
    rfl
  · refine handed_of_play (isTurn s.world.turn) ?_
    rw [inputs_of_turns mode, played_of_turns mode]

theorem handed_clock (s : Session K τ) (elapsed : K) :
    play always (s.handed (.clock elapsed)) (s.begins (.clock elapsed)) = s.clocked elapsed ∧
      (s.handed (.clock elapsed)).length = (s.clocked elapsed).steps := by
  by_cases mode : s.mode = .continuous
  · rw [begins, if_pos mode]
    refine handed_of_play always ?_
    rw [clocked, mode]
  · have clocked : s.clocked elapsed =
        if s.seats.any (!·.queue.isEmpty) then s.played else .idle s.simulation := by
      rw [Session.clocked]
      split
      · exact absurd ‹_› mode
      · rfl
    -- In turns a clock makes one pass, and only if a command waits.
    rw [begins, if_neg mode, handed, clocked, inputs_of_turns mode]
    split
    · refine handed_of_play (isTurn s.world.turn) ?_
      rw [played_of_turns mode]
    · exact ⟨rfl, rfl⟩

/-- A tool call that is handed in is a command that waits. -/
theorem waits_of_handed {request : Request K} {f : InputFrame K} {call : ToolCall K}
    (input : f ∈ s.handed request) (mem : call ∈ f.tools) :
    ∃ c, Waits s.seats c ∧ c.Calls call := by
  have of_inputs {n k : Nat} (input : f ∈ (s.mode.inputs n s.agenda).take k) :
      ∃ c, Waits s.seats c ∧ c.Calls call := by
    obtain ⟨c, here, calls⟩ := mem_tools_of_inputs (List.mem_of_mem_take input) mem
    exact ⟨c, mem_agenda here, calls⟩
  cases request with
  | enqueue role commands greatest => cases input
  | pass => exact of_inputs input
  | clock elapsed => exact of_inputs input

end Session

/-! ### Runs -/

variable [Scalar K]

namespace Session

variable {s : Session K τ}

/-- What stays when a pass is made or time passes, whether a rule fails or not. -/
structure Lasting (s : Session K τ) (outcome : Except RuleError (PassReport K) × Session K τ) :
    Prop where
  registry : outcome.2.simulation.rules.registry = s.simulation.rules.registry
  scene : outcome.2.world.scene = s.world.scene
  fed : FedBy (fun _ => False) s.seats outcome.2.seats
  settled : ∀ report s', outcome = (.ok report, s') → Settled s report s'

theorem Passed.lasting {pace : Pace K} {accumulator : K} {p : Played K τ}
    {outcome : Except RuleError (PassReport K) × Session K τ}
    (passed : Passed s (s.simulation.withClock pace accumulator) p outcome)
    (keeps : s.simulation.rules.registry.KeepsScene)
    (fed : FedBy (fun _ => False) s.seats outcome.2.seats)
    (settled : ∀ report s', outcome = (.ok report, s') → Settled s report s') :
    Lasting s outcome := by
  obtain ⟨scene, registry⟩ := passed.stays keeps
  exact ⟨registry, scene, fed, settled⟩

theorem pass_lasting (keeps : s.simulation.rules.registry.KeepsScene) (sole : Sole s.seats) :
    Lasting s s.pass := by
  have passed : Passed s (s.simulation.withClock s.simulation.pace s.simulation.accumulator)
    s.played s.pass := s.pass_passed
  exact passed.lasting keeps s.pass_seats fun _ _ => pass_settled sole

theorem advanceClock_lasting (keeps : s.simulation.rules.registry.KeepsScene)
    (sole : Sole s.seats) (elapsed : K) : Lasting s (s.advanceClock elapsed) := by
  obtain ⟨accumulator, passed⟩ := s.advanceClock_passed elapsed
  exact passed.lasting keeps (s.advanceClock_seats elapsed) fun _ _ => advanceClock_settled sole

end Session

namespace Book

/-- Everything that was accepted is offered, queues are short, and what waits or was used has been
accepted. -/
structure Lawful (scene : Scene K) (greatest : Nat) (b : Book K τ) : Prop where
  plays : b.session.world.scene = scene
  bounded : ∀ seat ∈ b.session.seats, seat.queue.length ≤ greatest
  queued : ∀ c, Waits b.session.seats c → c ∈ b.accepted
  consumed : ∀ c ∈ b.report.consumed, c ∈ b.accepted
  offered : ∀ c ∈ b.accepted, ∀ name, c.command.tool? = some name → scene.Offers c.role name

/-- What else stays: the functions keep the scene, and only the first seat of a role has
commands. -/
structure Steady (b : Book K τ) : Prop where
  keeps : b.session.simulation.rules.registry.KeepsScene
  sole : Sole b.session.seats

variable {scene : Scene K} {greatest : Nat} {b : Book K τ}
  {outcome : Except RuleError (PassReport K) × Session K τ}

omit [Scalar K] in
theorem seats_new {simulation : Simulation K τ} {mode : LoopMode} {roles : List (Role K)}
    {seat : Seat K} (mem : seat ∈ (Session.new simulation mode roles).seats) : seat.queue = [] := by
  obtain ⟨role, -, rfl⟩ := List.mem_map.1 mem
  rfl

omit [Scalar K] in
theorem lawful_new (simulation : Simulation K τ) (mode : LoopMode) (roles : List (Role K))
    (greatest : Nat) : Lawful simulation.world.scene greatest
      ({ session := Session.new simulation mode roles } : Book K τ) where
  plays := rfl
  bounded seat mem := by
    rw [seats_new mem]
    exact Nat.zero_le _
  queued c waits := by
    obtain ⟨seat, mem, -, here⟩ := waits
    rw [seats_new mem] at here
    cases here
  consumed _ := nofun
  offered _ := nofun

omit [Scalar K] in
/-- A pass takes commands off the queues and tells which it has used. -/
theorem Lawful.settle (lawful : Lawful scene greatest b)
    (lasting : Session.Lasting b.session outcome) : Lawful scene greatest (b.settle outcome) := by
  obtain ⟨-, same, fed, settled⟩ := lasting
  have bounded : ∀ seat ∈ outcome.2.seats, seat.queue.length ≤ greatest := by
    intro seat mem
    obtain ⟨old, here, -, queue⟩ := fed.exists_of_mem mem
    exact queue.length_le.trans (lawful.bounded old here)
  have queued : ∀ c, Waits outcome.2.seats c → c ∈ b.accepted := by
    rintro c ⟨seat, mem, role, waits⟩
    obtain ⟨old, here, same, queue⟩ := fed.exists_of_mem mem
    exact lawful.queued c ⟨old, here, same ▸ role, queue.subset waits⟩
  rcases outcome with ⟨e | report, s'⟩
  · exact ⟨same.trans lawful.plays, bounded, queued, lawful.consumed, lawful.offered⟩
  · refine ⟨same.trans lawful.plays, bounded, queued, fun c mem => ?_, lawful.offered⟩
    rcases List.mem_append.1 mem with before | now
    · exact lawful.consumed c before
    · exact lawful.queued c ((settled report s' rfl).waits now)

omit [Scalar K] in
/-- A batch that is accepted was admitted, and found room in the queue of its role. -/
theorem Lawful.append (lawful : Lawful scene greatest b) {role : String}
    {commands : List (Command K)} {most : Nat} (le : most ≤ greatest) {s' : Session K τ}
    (appended : b.session.Appended role commands most s') :
    Lawful scene greatest
      { b with session := s', accepted := b.accepted ++ commands.map (⟨role, ·⟩) } := by
  obtain ⟨admitted, j, seat, first, rfl, room, rfl⟩ := appended
  have mem_seats {other : Seat K}
      (mem : other ∈ b.session.seats.set j { seat with queue := seat.queue ++ commands }) :
      other ∈ b.session.seats ∨ other = { seat with queue := seat.queue ++ commands } :=
    List.mem_or_eq_of_mem_set mem
  refine ⟨lawful.plays, fun other mem => ?_, fun c waits => ?_, fun c mem => ?_,
    fun c mem name calls => ?_⟩
  · rcases mem_seats mem with old | rfl
    · exact lawful.bounded other old
    · rw [List.length_append]
      exact room.trans le
  · obtain ⟨other, mem, own, here⟩ := waits
    rcases mem_seats mem with old | rfl
    · exact List.mem_append_left _ (lawful.queued c ⟨other, old, own, here⟩)
    · -- In the queue of the role stand its earlier commands and then the batch.
      rcases List.mem_append.1 here with old | new
      · exact List.mem_append_left _
          (lawful.queued c ⟨seat, List.mem_of_getElem? first.found, own, old⟩)
      · refine List.mem_append_right _ (List.mem_map.2 ⟨c.command, new, ?_⟩)
        rw [show seat.role.id = c.role from own]
  · exact List.mem_append_left _ (lawful.consumed c mem)
  · rcases List.mem_append.1 mem with old | new
    · exact lawful.offered c old name calls
    · obtain ⟨command, here, rfl⟩ := List.mem_map.1 new
      rw [← lawful.plays]
      exact Session.offers_of_admits (admitted command here) calls

/-- A batch is refused, or its commands are accepted. -/
theorem enter_enqueue (b : Book K τ) (role : String) (commands : List (Command K)) (most : Nat) :
    b.enter (.enqueue role commands most) = b ∨
      ∃ s', b.session.enqueue role commands most = .ok s' ∧
        b.enter (.enqueue role commands most) =
          { b with session := s', accepted := b.accepted ++ commands.map (⟨role, ·⟩) } := by
  cases taken : b.session.enqueue role commands most with
  | error e => exact .inl (by rw [enter, taken])
  | ok s' => exact .inr ⟨s', rfl, by rw [enter, taken]⟩

theorem Lawful.enter (lawful : Lawful scene greatest b) (steady : Steady b)
    {request : Session.Request K}
    (le : ∀ role commands most, request = .enqueue role commands most → most ≤ greatest) :
    Lawful scene greatest (b.enter request) := by
  cases request with
  | enqueue role commands most =>
    rcases b.enter_enqueue role commands most with refused | ⟨s', taken, entered⟩
    · exact refused.symm ▸ lawful
    · rw [entered]
      exact lawful.append (le role commands most rfl) (Session.enqueue_eq_ok_iff.1 taken)
  | pass => exact lawful.settle (Session.pass_lasting steady.keeps steady.sole)
  | clock elapsed =>
    exact lawful.settle (Session.advanceClock_lasting steady.keeps steady.sole elapsed)

omit [Scalar K] in
theorem Steady.settle (steady : Steady b) (lasting : Session.Lasting b.session outcome) :
    Steady (b.settle outcome) := by
  have keeps := lasting.registry ▸ steady.keeps
  have sole := lasting.fed.sole steady.sole
  rcases outcome with ⟨e | report, s'⟩ <;> exact ⟨keeps, sole⟩

theorem Steady.enter (steady : Steady b) (request : Session.Request K) :
    Steady (b.enter request) := by
  cases request with
  | enqueue role commands most =>
    rcases b.enter_enqueue role commands most with refused | ⟨s', taken, entered⟩
    · exact refused.symm ▸ steady
    · obtain ⟨seat, -, -, rfl⟩ := Session.enqueue_ok taken
      rw [entered]
      exact ⟨steady.keeps, steady.sole.push⟩
  | pass => exact steady.settle (Session.pass_lasting steady.keeps steady.sole)
  | clock elapsed =>
    exact steady.settle (Session.advanceClock_lasting steady.keeps steady.sole elapsed)

theorem Lawful.run (lawful : Lawful scene greatest b) (steady : Steady b)
    {requests : List (Session.Request K)}
    (le : ∀ role commands most, .enqueue role commands most ∈ requests → most ≤ greatest) :
    Lawful scene greatest (b.run requests) := by
  induction requests generalizing b with
  | nil => exact lawful
  | cons request requests ih =>
    refine ih (lawful.enter steady fun role commands most same => ?_) (steady.enter request)
      fun role commands most mem => le role commands most (List.mem_cons_of_mem _ mem)
    exact le role commands most (same ▸ List.mem_cons_self)

/-- The ticks of a request are those that play what is handed in. -/
theorem enter_plays (b : Book K τ) (request : Session.Request K) :
    let p := play always (b.session.handed request) (b.session.begins request)
    (b.enter request).session.simulation = p.simulation ∧
      (b.session.handed request).length = p.steps := by
  have settled (outcome : Except RuleError (PassReport K) × Session K τ) :
      (b.settle outcome).session = outcome.2 := by
    rcases outcome with ⟨e | report, s'⟩ <;> rfl
  cases request with
  | enqueue role commands most =>
    refine ⟨?_, rfl⟩
    rcases b.enter_enqueue role commands most with refused | ⟨s', taken, entered⟩
    · rw [refused]
      rfl
    · obtain ⟨seat, -, -, rfl⟩ := Session.enqueue_ok taken
      rw [entered]
      rfl
  | pass =>
    obtain ⟨plays, length⟩ := b.session.handed_pass
    have begins : b.session.begins .pass = b.session.simulation := rfl
    rw [begins, plays, Book.enter, settled]
    exact ⟨b.session.pass_passed.simulation, length⟩
  | clock elapsed =>
    obtain ⟨plays, length⟩ := b.session.handed_clock elapsed
    obtain ⟨accumulator, passed⟩ := b.session.advanceClock_passed elapsed
    rw [plays, Book.enter, settled]
    exact ⟨passed.simulation, length⟩

end Book

/-- In every run of a session the queues stay short, and whatever waits, was used or is handed to
the rules by the next request was accepted from the role that it names and calls no tool but those
offered to this role. A batch is put at the end of the queue of its role, or it is refused and
changes nothing; one command that is not admitted is enough. -/
theorem only_offered_tools_are_called (simulation : Simulation K τ)
    (keeps : simulation.rules.registry.KeepsScene) (mode : LoopMode) (roles : List (Role K))
    {greatest : Nat} {requests : List (Session.Request K)}
    (le : ∀ role commands most, .enqueue role commands most ∈ requests → most ≤ greatest) :
    let scene := simulation.world.scene
    let b := Book.run { session := Session.new simulation mode roles } requests
    b.Lawful scene greatest ∧
      (∀ request,
        let p := play always (b.session.handed request) (b.session.begins request)
        ((b.enter request).session.simulation = p.simulation ∧
            (b.session.handed request).length = p.steps) ∧
          ∀ f ∈ b.session.handed request, ∀ call ∈ f.tools, ∃ role, call.role = some role ∧
            ⟨role, .tool call.name call.args⟩ ∈ b.accepted ∧ scene.Offers role call.name) ∧
      (∀ role commands most s', b.session.enqueue role commands most = .ok s' ↔
        b.session.Appended role commands most s') ∧
      (∀ role commands most e, b.session.enqueue role commands most = .error e →
        b.enter (.enqueue role commands most) = b) ∧
      ∀ role before c after most e, Session.admits scene role c = .error e →
        ∃ e, b.session.enqueue role (before ++ c :: after) most = .error e := by
  intro scene b
  have sole : Sole (Session.new simulation mode roles).seats :=
    sole_of_empty fun seat => Book.seats_new
  have lawful : b.Lawful scene greatest :=
    (Book.lawful_new simulation mode roles greatest).run ⟨keeps, sole⟩ le
  refine ⟨lawful, fun request => ⟨b.enter_plays request, fun f input call mem => ?_⟩,
    fun role commands most s' => Session.enqueue_eq_ok_iff, fun role commands most e refused => ?_,
    fun role before c after most e refused => ?_⟩
  · obtain ⟨⟨role, command⟩, waits, rfl, named⟩ := Session.waits_of_handed input mem
    have accepted := lawful.queued _ waits
    exact ⟨role, named, accepted, lawful.offered _ accepted call.name rfl⟩
  · rw [Book.enter, refused]
  · rw [← lawful.plays] at refused
    exact Session.enqueue_of_refused refused

/-! ### A tool for one of two roles -/

namespace Dig

/-- A scene with a tool for the first role. -/
def scene : Scene Rat :=
  { Scene.default with
    tools := [{ name := "dig", description := "", parameters := .null, roles := ["a"] }] }

/-- No functions. -/
def registry : Registry Rat Empty := { resume := fun t => nomatch t }

theorem keeps : registry.KeepsScene := ⟨fun _ _ found => (nomatch found), fun t => nomatch t⟩

/-- Both roles call the tool, the first also one that is not declared. -/
def requests : List (Session.Request Rat) :=
  [.enqueue "a" [.noop, .tool "dig" .null] 2, .enqueue "b" [.tool "dig" .null] 2,
    .enqueue "a" [.tool "fly" .null] 2]

/-- The book of the session. -/
def book (simulation : Simulation Rat Empty) : Book Rat Empty :=
  Book.run { session := Session.new simulation .hybrid [Errand.role "a", Errand.role "b"] } requests

/-- Two commands wait, and the next pass calls a tool. -/
def calls : Bool :=
  match Simulation.new scene [Errand.role "a", Errand.role "b"] registry 0 with
  | .error _ => false
  | .ok simulation =>
    total (book simulation).session.seats == 2 &&
      ((book simulation).session.handed .pass).any fun f => !f.tools.isEmpty

end Dig

/-- The tool is called once, in the name of the first role. -/
theorem tool_is_called_by_its_role : ∃ simulation : Simulation Rat Empty,
    simulation.rules.registry.KeepsScene ∧ total (Dig.book simulation).session.seats = 2 ∧
      ∃ f ∈ (Dig.book simulation).session.handed .pass, ∃ call ∈ f.tools, ∃ role,
        call.role = some role ∧ simulation.world.scene.Offers role call.name := by
  have calls : Dig.calls = true := by cbv
  unfold Dig.calls at calls
  split at calls
  · cases calls
  rename_i simulation new
  simp only [Bool.and_eq_true, beq_iff_eq, List.any_eq_true, Bool.not_eq_true',
    List.isEmpty_eq_false_iff_exists_mem] at calls
  obtain ⟨waits, f, input, call, mem⟩ := calls
  have keeps : simulation.rules.registry.KeepsScene :=
    (Simulation.new_ok new).registry ▸ Dig.keeps
  have le : ∀ role commands most, .enqueue role commands most ∈ Dig.requests → most ≤ 2 := by
    intro role commands most mem
    simp only [Dig.requests, List.mem_cons, Session.Request.enqueue.injEq, List.not_mem_nil,
      or_false] at mem
    rcases mem with ⟨-, -, rfl⟩ | ⟨-, -, rfl⟩ | ⟨-, -, rfl⟩ <;> exact le_rfl
  obtain ⟨-, handed, -⟩ := only_offered_tools_are_called simulation keeps .hybrid
    [Errand.role "a", Errand.role "b"] le
  obtain ⟨role, named, -, offers⟩ := (handed .pass).2 f input call mem
  exact ⟨simulation, keeps, waits, f, input, call, mem, role, named, offers⟩

end Playfield
