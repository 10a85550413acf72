import Mathlib.Data.List.Basic
import Playfield.Proofs.Session.Agenda

/-!
# Commands taken off the queues

A `Ticket` is a command with the place of the seat in whose queue it waits. Where there are turns, a
pass serves tickets one after the other, a tick for each, and takes their commands off the queues.

* `Ticket.ofSeat`: the commands of one seat among tickets.
* `Seat.Took`: seats from which the commands of tickets were taken, each off the front of its queue.
* `Session.Served`: what a pass does that serves the first of the tickets that wait;
  `served_of_play` puts it together from what was played.
* `strictPass_served`: a strict pass serves the tickets of the seat whose turn it is.
-/

namespace Playfield

variable {K τ : Type}

/-- A command and the place of its seat. -/
structure Ticket (K : Type) where
  seat : Nat
  consumed : Consumed K

namespace Ticket

/-- The input of a tick for a ticket. -/
def frame (t : Ticket K) : InputFrame K := t.consumed.frame

/-- The commands of one seat. -/
def ofSeat (j : Nat) (ts : List (Ticket K)) : List (Command K) :=
  ts.filterMap fun t => if t.seat = j then some t.consumed.command else none

variable {j : Nat} {t : Ticket K} {ts : List (Ticket K)}

@[simp] theorem ofSeat_append (ts us : List (Ticket K)) :
    ofSeat j (ts ++ us) = ofSeat j ts ++ ofSeat j us :=
  List.filterMap_append

theorem ofSeat_cons_self (h : t.seat = j) :
    ofSeat j (t :: ts) = t.consumed.command :: ofSeat j ts :=
  List.filterMap_cons_some (if_pos h)

theorem ofSeat_cons_of_ne (h : t.seat ≠ j) : ofSeat j (t :: ts) = ofSeat j ts :=
  List.filterMap_cons_none (if_neg h)

theorem ofSeat_eq_nil (h : ∀ t ∈ ts, t.seat ≠ j) : ofSeat j ts = [] :=
  List.filterMap_eq_nil_iff.2 fun t mem => if_neg (h t mem)

end Ticket

namespace Seat

/-- The tickets of a seat at a place. -/
def tickets (j : Nat) (seat : Seat K) : List (Ticket K) :=
  seat.queue.map fun c => ⟨j, ⟨seat.role.id, c⟩⟩

theorem ofSeat_tickets (j n : Nat) (seat : Seat K) :
    Ticket.ofSeat j ((seat.tickets j).take n) = seat.queue.take n := by
  rw [tickets, ← List.map_take, Ticket.ofSeat, List.filterMap_map]
  simp

/-- The commands of tickets were taken off the front of the queues of seats that stand at the places
from `first` on. -/
def TookFrom (first : Nat) (ts : List (Ticket K)) (seats seats' : List (Seat K)) : Prop :=
  seats'.length = seats.length ∧
    ∀ j seat, seats[j]? = some seat → ∃ left, seats'[j]? = some { seat with queue := left } ∧
      Ticket.ofSeat (j + first) ts ++ left = seat.queue

/-- The commands of tickets were taken off the front of the queues: those of a seat and what is left
of its queue make up the queue that was. -/
def Took (ts : List (Ticket K)) (seats seats' : List (Seat K)) : Prop := TookFrom 0 ts seats seats'

section Took

variable {first : Nat} {t : Ticket K} {ts us : List (Ticket K)} {seat : Seat K}
  {seats seats' seats'' : List (Seat K)} {left : List (Command K)}

theorem TookFrom.nil : TookFrom first ts ([] : List (Seat K)) [] := ⟨rfl, by simp⟩

theorem TookFrom.cons (here : Ticket.ofSeat first ts ++ left = seat.queue)
    (later : TookFrom (first + 1) ts seats seats') :
    TookFrom first ts (seat :: seats) ({ seat with queue := left } :: seats') := by
  obtain ⟨length, each⟩ := later
  refine ⟨congrArg (· + 1) length, fun j found => ?_⟩
  cases j with
  | zero =>
    rintro ⟨⟩
    exact ⟨left, rfl, by simpa using here⟩
  | succ j =>
    intro at_j
    obtain ⟨left, found', taken⟩ := each j found at_j
    exact ⟨left, found', by rwa [Nat.succ_add_eq_add_succ]⟩

theorem TookFrom.refl : TookFrom first [] seats seats :=
  ⟨rfl, fun _ seat found => ⟨seat.queue, found, rfl⟩⟩

/-- The ticket of a seat that stands before says nothing of the others. -/
theorem TookFrom.cons_ticket (before : t.seat < first) (took : TookFrom first ts seats seats') :
    TookFrom first (t :: ts) seats seats' := by
  refine ⟨took.1, fun j seat found => ?_⟩
  rw [Ticket.ofSeat_cons_of_ne (by omega)]
  exact took.2 j seat found

theorem Took.trans (one : Took ts seats seats') (two : Took us seats' seats'') :
    Took (ts ++ us) seats seats'' := by
  refine ⟨two.1.trans one.1, fun j seat found => ?_⟩
  obtain ⟨left, found', taken⟩ := one.2 j seat found
  obtain ⟨left', found'', taken'⟩ := two.2 j _ found'
  refine ⟨left', found'', ?_⟩
  rw [Ticket.ofSeat_append, List.append_assoc, taken', taken]

/-- Only the queue of one seat is shorter. -/
theorem took_set {j : Nat} (found : seats[j]? = some seat) (n : Nat) :
    Took ((seat.tickets j).take n) seats
      (seats.set j { seat with queue := seat.queue.drop n }) := by
  refine ⟨List.length_set, fun i other found' => ?_⟩
  by_cases same : j = i
  · subst same
    obtain rfl : other = seat := Option.some.inj (found'.symm.trans found)
    refine ⟨_, List.getElem?_set_self (List.getElem?_eq_some_iff.1 found).1, ?_⟩
    show Ticket.ofSeat j _ ++ _ = other.queue
    rw [ofSeat_tickets, List.take_append_drop]
  · refine ⟨other.queue, ?_, ?_⟩
    · rw [List.getElem?_set_ne same, found']
    · rw [Ticket.ofSeat_eq_nil fun t mem => ?_, List.nil_append]
      obtain ⟨c, -, rfl⟩ := List.mem_map.1 (List.mem_of_mem_take mem)
      exact same

end Took

end Seat

open Simulation

variable [Scalar K]

namespace Session

/-- What comes of a tick for every ticket, up to one that fails. -/
def serving (s : Session K τ) (ts : List (Ticket K)) : Played K τ :=
  play always (ts.map Ticket.frame) s.simulation

/-- A pass serves the first of the tickets that wait. Before each tick the turn is that of the
start. If no tick fails, the tickets used are reported, a tick for each, and the pass ends because
none waits any more or because the turn has changed; if one fails, it is that of the last ticket,
and the pass fails. -/
structure Served (s : Session K τ) (waiting used : List (Ticket K))
    (outcome : Except RuleError (PassReport K) × Session K τ) : Prop where
  first : used <+: waiting
  turn : ∀ n < used.length, (s.serving (used.take n)).simulation.world.turn = s.world.turn
  simulation : outcome.2.simulation = (s.serving used).simulation
  mode : outcome.2.mode = s.mode
  seats : Seat.Took used s.seats outcome.2.seats
  completed : (s.serving used).failure = none →
    outcome.1 = .ok ⟨(s.serving used).reports, used.map (·.consumed), 0⟩ ∧
      (s.serving used).reports.length = used.length ∧
      (used = waiting ∨ (s.serving used).simulation.world.turn ≠ s.world.turn)
  failed : ∀ e, (s.serving used).failure = some e →
    outcome.1 = .error e ∧ (s.serving used).reports.length + 1 = used.length

/-- The tickets served are those of the ticks that were run while the turn lasted. -/
theorem served_of_play {s : Session K τ} {waiting : List (Ticket K)} {p : Played K τ}
    {outcome : Except RuleError (PassReport K) × Session K τ}
    (plays : play (isTurn s.world.turn) (waiting.map Ticket.frame) s.simulation = p)
    (simulation : outcome.2.simulation = p.simulation) (mode : outcome.2.mode = s.mode)
    (answer : outcome.1 =
      p.result ((waiting.map (·.consumed)).take p.reports.length) 0)
    (seats : Seat.Took (waiting.take p.steps) s.seats outcome.2.seats) :
    Served s waiting (waiting.take p.steps) outcome := by
  have le : p.steps ≤ waiting.length := by
    rw [← plays]
    simpa using steps_le (isTurn s.world.turn) (waiting.map Ticket.frame) s.simulation
  have served : s.serving (waiting.take p.steps) = p := by
    rw [serving, List.map_take, ← plays]
    exact play_always_steps ..
  refine ⟨List.take_prefix _ _, fun n lt => ?_, ?_, mode, seats, fun ok => ?_, fun e failed => ?_⟩
  · rw [List.length_take_of_le le] at lt
    rw [serving, List.take_take, Nat.min_eq_left lt.le, List.map_take]
    cases n with
    | zero => rfl
    | succ n =>
      rw [← plays] at lt
      exact isTurn_iff.1 (goes_of_lt_steps (Nat.succ_pos n) lt)
  · rw [served, simulation]
  · rw [served] at ok ⊢
    have steps : p.steps = p.reports.length := by simp [Played.steps, ok]
    rw [answer, Played.result_of_none ok, steps, List.map_take]
    refine ⟨rfl, ?_, ?_⟩
    · rw [List.length_take_of_le (steps ▸ le)]
    · by_cases still : p.simulation.world.turn = s.world.turn
      · -- Nothing ended the ticks early, so all tickets were served.
        rw [← plays] at ok still ⊢
        rw [length_play ok (.inr (isTurn_iff.2 still)), List.length_map]
        exact .inl List.take_length
      · exact .inr still
  · rw [served] at failed ⊢
    have steps : p.steps = p.reports.length + 1 := by simp [Played.steps, failed]
    refine ⟨?_, ?_⟩
    · rw [answer, Played.result, failed]
    · rw [List.length_take_of_le le, steps]

/-- Commands of the ticks that were run are gone from a queue. -/
theorem drain_left (turn : Nat) (role : String) (queue : List (Command K)) (s : Simulation K τ) :
    (drain turn role queue s).2.1 =
      queue.drop (play (isTurn turn) (queue.map fun c => c.toFrame role) s).steps := by
  induction queue generalizing s with
  | nil => rfl
  | cons c rest ih =>
    rw [List.map_cons]
    unfold drain
    rcases first : s.step (c.toFrame role) with ⟨e | report, s'⟩
    · rw [play_of_error first]
      rfl
    · rw [play_of_ok first]
      by_cases on : s'.world.turn = turn
      · rw [if_pos (isTurn_iff.2 on), Played.steps_after, List.drop_succ_cons, ← ih s']
        simp [on]
      · rw [if_neg (mt isTurn_iff.1 on)]
        simp [on, Played.steps]

/-- A strict pass serves the seat whose turn it is, and changes no other. -/
theorem strictPass_served {s : Session K τ} {seat : Seat K}
    (current : s.seats[s.currentIndex]? = some seat) :
    ∃ used, Served s (seat.tickets s.currentIndex) used s.strictPass ∧
      s.strictPass.2.seats =
        s.seats.set s.currentIndex { seat with queue := seat.queue.drop used.length } := by
  have frames : (seat.tickets s.currentIndex).map Ticket.frame =
      seat.queue.map fun c => c.toFrame seat.role.id := by
    rw [Seat.tickets, List.map_map]
    rfl
  have consumed : (seat.tickets s.currentIndex).map (·.consumed) =
      seat.queue.map (⟨seat.role.id, ·⟩) := by
    rw [Seat.tickets, List.map_map]
    rfl
  obtain ⟨answer, left⟩ := drain_eq s.world.turn seat.role.id seat.queue s.simulation
  have queue := drain_left s.world.turn seat.role.id seat.queue s.simulation
  have le := steps_le (isTurn s.world.turn) (seat.queue.map fun c => c.toFrame seat.role.id)
    s.simulation
  have pass : s.strictPass =
      ((drain s.world.turn seat.role.id seat.queue s.simulation).1, { s with
        simulation := (drain s.world.turn seat.role.id seat.queue s.simulation).2.2
        seats := s.seats.set s.currentIndex { seat with
          queue := (drain s.world.turn seat.role.id seat.queue s.simulation).2.1 } }) := by
    rw [strictPass, current]
  rw [← frames] at answer left queue le
  rw [List.length_map] at le
  refine ⟨_, served_of_play rfl ?_ ?_ ?_ ?_, ?_⟩
  · rw [pass]
    exact left
  · rw [pass]
  · rw [pass, consumed]
    exact answer
  · rw [pass, queue]
    exact Seat.took_set current _
  · rw [pass, queue, List.length_take_of_le le]

end Session

end Playfield
