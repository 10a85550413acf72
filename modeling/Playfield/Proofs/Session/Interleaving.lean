import Mathlib.Data.List.Basic
import Playfield.Proofs.Session.Tickets

/-!
# Round after round

A hybrid pass goes round the seats and takes one command of each that has one, until the turn
changes or nothing is left.

* `Seat.round k`: the `k`-th commands of the queues, in the order of the seats.
* `Seat.interleaving`: round after round, as long as some queue lasts. `ofSeat_interleaving`: it has
  the commands of every seat in the order of its queue. `consumed_interleaving`: these are the
  rounds of the agenda, which come about by taking the oldest commands off again and again.
* `sweep_took`, `sweeps_took`: the commands of the ticks that were run are gone from the queues.
* `hybrid_pass_serves_interleaving`: a hybrid pass serves the interleaving from its start on, and
  if it gets to its end, no queue has a command left.
-/

namespace Playfield

variable {K τ : Type}

namespace Seat

/-- The ticket of the `k`-th command of a seat at a place. -/
def ticket? (k j : Nat) (seat : Seat K) : Option (Ticket K) :=
  seat.queue[k]?.map fun c => ⟨j, ⟨seat.role.id, c⟩⟩

/-- The tickets of the `k`-th commands of all queues that are long enough, in the order of the
seats, which stand at the places from `first` on. -/
def round (k first : Nat) : List (Seat K) → List (Ticket K)
  | [] => []
  | seat :: seats => (seat.ticket? k first).toList ++ round k (first + 1) seats

/-- The length of the longest queue. -/
def longest (seats : List (Seat K)) : Nat := (seats.map (·.queue.length)).foldr max 0

/-- The tickets of all commands, round after round. -/
def interleaving (seats : List (Seat K)) : List (Ticket K) :=
  (List.range (longest seats)).flatMap fun k => round k 0 seats

section Rounds

variable {seat : Seat K} {seats : List (Seat K)} {k first : Nat}

theorem seat_of_mem_round {t : Ticket K} (h : t ∈ round k first seats) : first ≤ t.seat := by
  induction seats generalizing first with
  | nil => cases h
  | cons seat seats ih =>
    rcases List.mem_append.1 h with here | later
    · obtain ⟨c, -, rfl⟩ := Option.map_eq_some_iff.1 (Option.mem_toList.1 here)
      exact le_rfl
    · exact (Nat.le_succ first).trans (ih later)

theorem round_cons_of_empty (empty : seat.queue = []) :
    round k first (seat :: seats) = round k (first + 1) seats := by
  rw [round, ticket?, empty]
  rfl

theorem round_cons_of_cons {c : Command K} {rest : List (Command K)}
    (queue : seat.queue = c :: rest) :
    round 0 first (seat :: seats) =
      ⟨first, ⟨seat.role.id, c⟩⟩ :: round 0 (first + 1) seats := by
  rw [round, ticket?, queue]
  rfl

/-- A round has one command of a seat, if its queue is long enough. -/
theorem ofSeat_round {j : Nat} (k first : Nat) (found : seats[j]? = some seat) :
    Ticket.ofSeat (j + first) (round k first seats) = seat.queue[k]?.toList := by
  induction seats generalizing first j with
  | nil => cases found
  | cons other seats ih =>
    rw [round, Ticket.ofSeat_append]
    cases j with
    | zero =>
      obtain rfl : other = seat := Option.some.inj found
      have later : Ticket.ofSeat first (round k (first + 1) seats) = [] := by
        refine Ticket.ofSeat_eq_nil fun t mem => ?_
        have := seat_of_mem_round mem
        omega
      rw [Nat.zero_add, later, List.append_nil, ticket?]
      cases other.queue[k]? with
      | none => rfl
      | some c => exact Ticket.ofSeat_cons_self rfl
    | succ j =>
      have here : Ticket.ofSeat (j + 1 + first) (other.ticket? k first).toList = [] := by
        refine Ticket.ofSeat_eq_nil fun t mem => ?_
        obtain ⟨c, -, rfl⟩ := Option.map_eq_some_iff.1 (Option.mem_toList.1 mem)
        show first ≠ j + 1 + first
        omega
      rw [here, List.nil_append, Nat.succ_add_eq_add_succ]
      exact ih _ found

theorem longest_cons (seat : Seat K) (seats : List (Seat K)) :
    longest (seat :: seats) = max seat.queue.length (longest seats) := rfl

theorem le_longest (mem : seat ∈ seats) : seat.queue.length ≤ longest seats := by
  induction mem with
  | head => exact le_max_left ..
  | tail _ _ ih => exact ih.trans (le_max_right ..)

/-- What a list has at the places before `n` are its first `n` entries. -/
theorem flatMap_getElem? {α : Type} (l : List α) (n : Nat) :
    (List.range n).flatMap (fun k => l[k]?.toList) = l.take n := by
  induction n with
  | zero => simp
  | succ n ih =>
    rw [List.range_succ, List.flatMap_append, ih, List.flatMap_singleton, List.take_add_one]

/-- The interleaving has the commands of every seat in the order of its queue. -/
theorem ofSeat_interleaving {j : Nat} (found : seats[j]? = some seat) :
    Ticket.ofSeat j (interleaving seats) = seat.queue := by
  have rounds (k : Nat) : Ticket.ofSeat j (round k 0 seats) = seat.queue[k]?.toList :=
    ofSeat_round k 0 found
  calc Ticket.ofSeat j (interleaving seats)
      = (List.range (longest seats)).flatMap fun k => Ticket.ofSeat j (round k 0 seats) :=
        List.filterMap_flatMap ..
    _ = (List.range (longest seats)).flatMap fun k => seat.queue[k]?.toList := by
        simp only [rounds]
    _ = seat.queue := by
        rw [flatMap_getElem?, List.take_of_length_le (le_longest (List.mem_of_getElem? found))]

/-- The first round has the oldest commands. -/
theorem consumed_round (seats : List (Seat K)) (first : Nat) :
    (round 0 first seats).map (·.consumed) = heads seats := by
  induction seats generalizing first with
  | nil => rfl
  | cons seat seats ih =>
    rw [heads]
    cases queue : seat.queue with
    | nil =>
      rw [round_cons_of_empty queue, ih, List.filterMap_cons_none (by rw [oldest?, queue]; rfl)]
      rfl
    | cons c rest =>
      rw [round_cons_of_cons queue, List.map_cons, ih,
        List.filterMap_cons_some (by rw [oldest?, queue]; rfl)]
      rfl

/-- A round after the first is one of what is behind the oldest commands. -/
theorem round_succ (k first : Nat) (seats : List (Seat K)) :
    round (k + 1) first seats = round k first (nexts seats) := by
  induction seats generalizing first with
  | nil => rfl
  | cons seat seats ih =>
    have behind : seat.next.queue[k]? = seat.queue[k + 1]? := List.getElem?_tail
    rw [nexts, List.map_cons, round, round, ticket?, ticket?, behind, ih]
    rfl

theorem longest_nexts (seats : List (Seat K)) : longest (nexts seats) = longest seats - 1 := by
  induction seats with
  | nil => rfl
  | cons seat seats ih =>
    have behind : seat.next.queue.length = seat.queue.length - 1 := List.length_tail
    rw [nexts, List.map_cons, ← nexts, longest_cons, longest_cons, ih, behind]
    omega

theorem total_cons (seat : Seat K) (seats : List (Seat K)) :
    total (seat :: seats) = seat.queue.length + total seats := rfl

/-- A round takes as many commands as it has. -/
theorem total_nexts (first : Nat) (seats : List (Seat K)) :
    (round 0 first seats).length + total (nexts seats) = total seats := by
  induction seats generalizing first with
  | nil => rfl
  | cons seat seats ih =>
    have later := ih (first + 1)
    have behind : seat.next.queue.length = seat.queue.length - 1 := List.length_tail
    rw [nexts, List.map_cons, ← nexts, total_cons, total_cons, behind]
    cases queue : seat.queue with
    | nil =>
      rw [round_cons_of_empty queue, List.length_nil]
      omega
    | cons c rest =>
      rw [round_cons_of_cons queue, List.length_cons, List.length_cons]
      omega

theorem round_of_longest_le (h : longest seats ≤ k) : round k first seats = [] := by
  induction seats generalizing first with
  | nil => rfl
  | cons seat seats ih =>
    rw [longest_cons, Nat.max_le] at h
    rw [round, ih h.2, ticket?, List.getElem?_eq_none h.1]
    rfl

/-- The interleaving goes on behind the first round. -/
theorem interleaving_eq (seats : List (Seat K)) :
    interleaving seats = round 0 0 seats ++ interleaving (nexts seats) := by
  rw [interleaving, interleaving, longest_nexts]
  cases length : longest seats with
  | zero =>
    rw [round_of_longest_le length.le]
    rfl
  | succ n =>
    rw [List.range_succ_eq_map, List.flatMap_cons, List.flatMap_map, Nat.add_sub_cancel]
    simp only [round_succ]

/-- Only a round of empty queues takes nothing. -/
theorem longest_of_round_nil (h : round 0 first seats = []) : longest seats = 0 := by
  induction seats generalizing first with
  | nil => rfl
  | cons seat seats ih =>
    cases queue : seat.queue with
    | nil =>
      rw [round_cons_of_empty queue] at h
      rw [longest_cons, queue, ih h]
      rfl
    | cons c rest =>
      rw [round_cons_of_cons queue] at h
      cases h

theorem interleaving_nexts_nil (h : ¬total (nexts seats) < total seats) :
    interleaving (nexts seats) = [] := by
  have taken := total_nexts 0 seats
  have none : (round 0 0 seats).length = 0 := by omega
  rw [interleaving, longest_nexts, longest_of_round_nil (List.length_eq_zero_iff.1 none)]
  rfl

/-- The rounds of the agenda are those of the interleaving. -/
theorem consumed_interleaving (seats : List (Seat K)) :
    (interleaving seats).map (·.consumed) = rounds seats := by
  induction size : total seats using Nat.strongRecOn generalizing seats with
  | _ n ih =>
  rw [interleaving_eq, List.map_append, consumed_round, rounds]
  congr 1
  by_cases shrinks : total (nexts seats) < total seats
  · rw [if_pos shrinks]
    exact ih _ (size ▸ shrinks) (nexts seats) rfl
  · rw [if_neg shrinks, interleaving_nexts_nil shrinks]
    rfl

end Rounds

end Seat

open Simulation Seat

section Sweeps

variable [Scalar K]

/-- The commands of the ticks that a sweep ran are gone from the queues. -/
theorem sweep_took (turn first : Nat) (seats : List (Seat K)) (s : Simulation K τ) :
    TookFrom first ((round 0 first seats).take
        (play (isTurn turn) ((round 0 first seats).map Ticket.frame) s).steps)
      seats (sweep turn seats s).2.1 := by
  -- On the seats: where the turn lasts, the others are served from the simulation that is left.
  induction seats generalizing first s with
  | nil => exact .nil
  | cons seat seats ih =>
    have others (n : Nat) : Ticket.ofSeat first ((round 0 (first + 1) seats).take n) = [] := by
      refine Ticket.ofSeat_eq_nil fun t mem => ?_
      have := seat_of_mem_round (List.mem_of_mem_take mem)
      omega
    unfold sweep
    cases queue : seat.queue with
    | nil =>
      have here (n : Nat) : Ticket.ofSeat first ((round 0 (first + 1) seats).take n) ++ seat.queue =
          seat.queue := by rw [others, List.nil_append]
      rw [round_cons_of_empty queue]
      exact .cons (here _) (ih (first + 1) s)
    | cons c rest =>
      -- The command is taken before its tick, whatever becomes of it.
      have taken (n : Nat) : Ticket.ofSeat first
          (⟨first, ⟨seat.role.id, c⟩⟩ :: (round 0 (first + 1) seats).take n) ++ rest =
            seat.queue := by
        rw [Ticket.ofSeat_cons_self (t := ⟨first, _⟩) rfl, others, queue]
        rfl
      have frame : Ticket.frame ⟨first, ⟨seat.role.id, c⟩⟩ = c.toFrame seat.role.id := rfl
      rw [round_cons_of_cons queue, List.map_cons, frame]
      dsimp only
      rcases step : s.step (c.toFrame seat.role.id) with ⟨e | report, s'⟩
      · rw [play_of_error step]
        exact .cons (taken 0) (.cons_ticket (Nat.lt_succ_self first) .refl)
      · rw [play_of_ok step]
        by_cases on : s'.world.turn = turn
        · rw [if_pos (isTurn_iff.2 on), Played.steps_after, List.take_succ_cons]
          simp only [if_pos on]
          exact .cons (taken _) (.cons_ticket (Nat.lt_succ_self first) (ih (first + 1) s'))
        · rw [if_neg (mt isTurn_iff.1 on)]
          simp only [if_neg on]
          exact .cons (taken 0) (.cons_ticket (Nat.lt_succ_self first) .refl)

/-- The commands of the ticks that sweeps ran are gone from the queues. -/
theorem sweeps_took (turn : Nat) (seats : List (Seat K)) (s : Simulation K τ)
    (start : s.world.turn = turn) :
    Took ((interleaving seats).take
        (play (isTurn turn) ((interleaving seats).map Ticket.frame) s).steps)
      seats (sweeps turn seats s).2.1 := by
  -- On the number of commands: a sweep that takes any leaves fewer, one that takes none ends it.
  induction size : total seats using Nat.strongRecOn generalizing seats s with
  | _ n ih =>
  have took : Took _ seats _ := sweep_took turn 0 seats s
  obtain ⟨answer, left, seats'⟩ := sweep_eq turn seats s
  have heads : (heads seats).map Consumed.frame = (round 0 0 seats).map Ticket.frame := by
    rw [← consumed_round seats 0, List.map_map]
    rfl
  rw [heads] at answer left seats'
  rw [sweeps, interleaving_eq, List.map_append, play_append]
  generalize sweep turn seats s = swept at took answer left seats'
  obtain ⟨result, later, s'⟩ := swept
  have le := steps_le (isTurn turn) ((round 0 0 seats).map Ticket.frame) s
  rw [List.length_map] at le
  generalize first : play (isTurn turn) _ s = p at took answer left seats' le ⊢
  simp only at took answer left seats'
  subst answer left
  cases failed : p.failure with
  | some e =>
    simp only [failed, reduceCtorEq, false_and, if_false, Played.result]
    rw [List.take_append_of_le_length le]
    exact took
  | none =>
    rw [Played.result_of_none failed]
    by_cases on : p.simulation.world.turn = turn
    · -- The whole round was served, and the next sweep starts from what it left.
      have whole : p.steps = (round 0 0 seats).length := by
        rw [← first] at failed on ⊢
        have length := length_play failed (.inr (isTurn_iff.2 on))
        rw [Played.steps, failed, length, List.length_map]
        rfl
      have count (q : Played K τ) :
          Played.steps { q with reports := p.reports ++ q.reports } = p.steps + q.steps := by
        simp only [Played.steps, failed, List.length_append, Option.elim_none]
        omega
      obtain rfl := seats' failed on
      rw [whole, List.take_length] at took
      rw [if_pos ⟨failed, .inr (isTurn_iff.2 on)⟩, count, whole, List.take_length_add_append]
      by_cases shrinks : total (nexts seats) < total seats
      · simp only [on, shrinks, and_self, if_true]
        exact Took.trans took (ih _ (size ▸ shrinks) (nexts seats) p.simulation on rfl)
      · rw [interleaving_nexts_nil shrinks, List.take_nil, List.append_nil]
        simp only [shrinks, and_false, if_false]
        exact took
    · -- The turn is over, and some tick was played, since it was not over before.
      have some : ¬(p.failure = none ∧ ((round 0 0 seats).map Ticket.frame = [] ∨
          isTurn turn p.simulation = true)) := by
        rintro ⟨-, none | still⟩
        · rw [none, play_nil] at first
          exact on (first ▸ start)
        · exact on (isTurn_iff.1 still)
      simp only [if_neg some, on, false_and, if_false]
      rw [List.take_append_of_le_length le]
      exact took

end Sweeps

namespace Session

variable [Scalar K]

theorem hybridPass_served (s : Session K τ) :
    ∃ used, Served s (interleaving s.seats) used s.hybridPass := by
  obtain ⟨answer, left⟩ := sweeps_eq s.world.turn s.seats s.simulation rfl
  have took := sweeps_took s.world.turn s.seats s.simulation rfl
  have frames : (interleaving s.seats).map Ticket.frame =
      (rounds s.seats).map Consumed.frame := by
    rw [← consumed_interleaving, List.map_map]
    rfl
  rw [← frames, ← consumed_interleaving] at answer
  rw [← frames] at left
  exact ⟨_, served_of_play rfl left rfl answer took⟩

/-- A hybrid pass serves the commands of all seats round after round. The commands it used are the
first of that order, up to the one whose tick has changed the turn or has failed, each with a tick
of its own, and the others wait in their order. Where it has used all of them, no queue has a
command left. -/
theorem hybrid_pass_serves_interleaving (simulation : Simulation K τ) (seats : List (Seat K)) :
    let s : Session K τ := { simulation, mode := .hybrid, seats }
    ∃ used, Served s (interleaving seats) used s.pass ∧
      (used = interleaving seats → ∀ seat ∈ s.pass.2.seats, seat.queue = []) := by
  intro s
  obtain ⟨used, served⟩ := s.hybridPass_served
  refine ⟨used, served, fun all seat mem => ?_⟩
  obtain ⟨j, found⟩ := List.mem_iff_getElem?.1 mem
  -- What is left of a queue follows the commands used, which are the whole queue already.
  have lt : j < seats.length := served.seats.1 ▸ (List.getElem?_eq_some_iff.1 found).1
  obtain ⟨left, found', taken⟩ := served.seats.2 j seats[j] (List.getElem?_eq_getElem lt)
  obtain rfl := Option.some.inj (found'.symm.trans found)
  rw [all] at taken
  exact List.append_right_eq_self.1
    (taken.trans (ofSeat_interleaving (List.getElem?_eq_getElem lt)).symm)

end Session

end Playfield
