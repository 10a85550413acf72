import Playfield.Proofs.Session.Tickets

/-!
# Turns in a strict session

A strict session serves one role at a time: the seat at the place of the turn, counted round the
seats.

* `strict_pass_serves_owner`: a pass serves the queue of that seat from its start on, a tick for
  each command while the turn is the same, and touches no other queue. The clock does nothing else.
* A pass ends when the turn has changed, the queue is empty or a tick fails. In `Stumble` it ends
  although the turn is the same and a command waits (`turn_may_end_early`).
-/

namespace Playfield

variable {K τ : Type} [Scalar K]

namespace Session

/-- A strict pass with nothing in the queue does nothing. -/
theorem strictPass_of_empty {s : Session K τ} (empty : ∀ seat ∈ s.seats, seat.queue = []) :
    s.strictPass = (.ok {}, s) := by
  unfold strictPass
  cases current : s.seats[s.currentIndex]? with
  | none => rfl
  | some seat =>
    obtain ⟨lt, here⟩ := List.getElem?_eq_some_iff.1 current
    have none : seat.queue = [] := empty seat (List.mem_of_getElem? current)
    have same : ({ seat with queue := [] } : Seat K) = s.seats[s.currentIndex] := by
      rw [here, ← none]
    simp only [none, drain]
    rw [same, List.set_getElem_self]

theorem advanceClock_strict {s : Session K τ} (mode : s.mode = .strictTurn) (elapsed : K) :
    s.advanceClock elapsed = s.pass := by
  rw [advanceClock_turns (by simp [mode])]
  by_cases some : s.seats.any (!·.queue.isEmpty) = true
  · rw [if_pos some]
  · have empty : ∀ seat ∈ s.seats, seat.queue = [] := by
      simpa using some
    rw [if_neg some, pass, mode]
    exact (strictPass_of_empty empty).symm

/-- In a strict session with a role, passes and the clock serve the seat at the place of the turn,
counted round the seats. The commands used are the first of its queue, up to the one whose tick has
changed the turn or has failed, each with a tick of its own, before which the turn is still that of
the seat. No other seat is touched. -/
theorem strict_pass_serves_owner (simulation : Simulation K τ) (first : Seat K)
    (others : List (Seat K)) :
    let s : Session K τ := { simulation, mode := .strictTurn, seats := first :: others }
    let owner (turn : Nat) : Nat := turn % (first :: others).length
    (∀ elapsed, s.advanceClock elapsed = s.pass) ∧
      ∃ seat used, s.seats[owner s.world.turn]? = some seat ∧
        Served s (seat.tickets (owner s.world.turn)) used s.pass ∧
        (∀ n (h : n < used.length),
          used[n].seat = owner (s.serving (used.take n)).simulation.world.turn) ∧
        s.pass.2.seats = s.seats.set (owner s.world.turn)
          { seat with queue := seat.queue.drop used.length } := by
  intro s owner
  have lt : owner s.world.turn < s.seats.length := Nat.mod_lt _ (Nat.succ_pos _)
  have current : s.seats[s.currentIndex]? = some s.seats[owner s.world.turn] :=
    List.getElem?_eq_getElem lt
  obtain ⟨used, served, seats⟩ := strictPass_served current
  refine ⟨advanceClock_strict rfl, _, used, current, served, fun n h => ?_, seats⟩
  -- The tickets are those of the seat of the first turn, and the turn is still the same.
  have mem : used[n] ∈ s.seats[owner s.world.turn].tickets (owner s.world.turn) :=
    served.first.subset (List.getElem_mem h)
  obtain ⟨c, -, ticket⟩ := List.mem_map.1 mem
  rw [served.turn n h, ← ticket]

/-! ### A turn that ends early -/

namespace Stumble

/-- A role takes its turns, with a tool. -/
def scene : Scene Rat :=
  { Scene.default with
    roles := [{ id := "a", kind := .human, required := true, camera := none, ui := none,
                serverFields := ∅, localFields := ∅ }]
    tools := [{ name := "trip", description := "", parameters := .null, roles := none }]
    rules := [⟨.tool "trip" .on, "trip"⟩]
    multiplayer := { Multiplayer.default with defaultLoop := .strictTurn, tickRate := 1 } }

/-- The action of the tool fails. -/
def registry : Registry Rat Empty :=
  { actions := Table.ofList [("trip", fun _ s => (.error "no", s))]
    resume := fun t => nomatch t }

/-- After a pass over a call of the tool and another command, the other command still waits, and the
turn is the same. -/
def waits : Bool :=
  match Simulation.new scene scene.roles registry 0 with
  | .error _ => false
  | .ok simulation =>
    match (Session.new simulation .strictTurn scene.roles).enqueue "a"
        [.tool "trip" .null, .noop] 2 with
    | .error _ => false
    | .ok s =>
      s.pass.2.world.turn == s.world.turn &&
        (s.pass.2.seats[s.currentIndex]?).any fun seat => !seat.queue.isEmpty

end Stumble

/-- A strict pass may end while the turn is the same and the seat has a command left: a tick that
fails ends it. -/
theorem turn_may_end_early :
    ¬∀ (scene : Scene Rat) (role : Role Rat) (others : List (Role Rat))
      (registry : Registry Rat Empty) (seed : UInt64) (simulation : Simulation Rat Empty)
      (commands : List (Command Rat)) (greatest : Nat) (s : Session Rat Empty),
      Simulation.new scene (role :: others) registry seed = .ok simulation →
      (Session.new simulation .strictTurn (role :: others)).enqueue role.id commands greatest =
        .ok s →
      s.pass.2.world.turn ≠ s.world.turn ∨
        ∀ seat, s.pass.2.seats[s.currentIndex]? = some seat → seat.queue = [] := by
  intro claimed
  have waits : Stumble.waits = true := by cbv
  unfold Stumble.waits at waits
  split at waits
  · cases waits
  rename_i simulation made
  split at waits
  · cases waits
  rename_i s taken
  simp only [Bool.and_eq_true, beq_iff_eq, Option.any_eq_true, Bool.not_eq_true',
    List.isEmpty_eq_false_iff] at waits
  obtain ⟨same, seat, current, left⟩ := waits
  rcases claimed _ _ _ _ _ _ _ _ _ made taken with changed | empty
  · exact changed same
  · exact left (empty seat current)

end Session

end Playfield
