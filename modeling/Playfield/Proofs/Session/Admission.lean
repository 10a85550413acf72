import Playfield.Proofs.Session.Accounts

/-!
# What a session takes

A batch of commands is taken as a whole or not at all.

* `Scene.Offers`: a tool of a name is declared and offered to a role. `admits_eq_ok_iff`: a command
  is admitted if the first tool of the name that it calls is offered.
* `Session.Appended`: a batch stands at the end of the queue of its role, and nothing else is
  different. `enqueue_eq_ok_iff`: this is what becomes of a batch of which all commands are admitted
  and for which there is room; any other is refused.
-/

namespace Playfield

variable {K τ : Type}

/-- A tool of the name is declared and offered to the role. -/
def Scene.Offers (s : Scene K) (role name : String) : Prop :=
  ∃ t ∈ s.tools, t.name = name ∧ t.offeredTo role = true

theorem Scene.tool?_eq_some {s : Scene K} {name : String} {t : Tool K} (h : s.tool? name = some t) :
    t ∈ s.tools ∧ t.name = name :=
  ⟨List.mem_of_find?_eq_some h, by simpa using List.find?_some h⟩

/-- A role has one first seat. -/
theorem Seat.First.eq {seats : List (Seat K)} {i j : Nat} {seat other : Seat K}
    (one : First seats i other) (two : First seats j seat)
    (same : other.role.id = seat.role.id) : i = j ∧ other = seat := by
  rcases Nat.lt_trichotomy i j with lt | rfl | lt
  · exact absurd same (two.before i lt other one.found)
  · exact ⟨rfl, Option.some.inj (one.found.symm.trans two.found)⟩
  · exact absurd same.symm (one.before j lt seat two.found)

namespace Session

variable {scene : Scene K} {role name : String} {c : Command K} {commands : List (Command K)}
  {greatest : Nat} {s s' : Session K τ}

/-- A command that calls no tool is admitted, and one that calls a tool of which the first
declaration is offered. -/
theorem admits_eq_ok_iff : admits scene role c = .ok () ↔
    ∀ name, c.tool? = some name → ∃ t, scene.tool? name = some t ∧ t.offeredTo role = true := by
  unfold admits
  cases c.tool? with
  | none => simp
  | some name =>
    dsimp only
    cases found : scene.tool? name with
    | none => simp [found]
    | some t => by_cases offered : t.offeredTo role = true <;> simp [found, offered]

theorem offers_of_admits (h : admits scene role c = .ok ()) (calls : c.tool? = some name) :
    scene.Offers role name := by
  obtain ⟨t, found, offered⟩ := admits_eq_ok_iff.1 h name calls
  obtain ⟨declared, same⟩ := Scene.tool?_eq_some found
  exact ⟨t, declared, same, offered⟩

/-- A batch of admitted commands was put at the end of the queue of its role, in which there was
room, and nothing else is different. -/
def Appended (s : Session K τ) (role : String) (commands : List (Command K)) (greatest : Nat)
    (s' : Session K τ) : Prop :=
  (∀ c ∈ commands, admits s.world.scene role c = .ok ()) ∧
    ∃ j seat, Seat.First s.seats j seat ∧ seat.role.id = role ∧
      seat.queue.length + commands.length ≤ greatest ∧
      s' = { s with seats := s.seats.set j { seat with queue := seat.queue ++ commands } }

theorem push_eq_set {seats : List (Seat K)} {j : Nat} {seat : Seat K}
    (first : Seat.First seats j seat) (commands : List (Command K)) :
    push seat.role.id commands seats =
      seats.set j { seat with queue := seat.queue ++ commands } := by
  obtain ⟨found, before⟩ := first
  induction seats generalizing j with
  | nil => cases found
  | cons other seats ih =>
    unfold push
    cases j with
    | zero =>
      cases found
      exact if_pos rfl
    | succ j =>
      rw [if_neg (before 0 j.succ_pos other rfl), List.set_cons_succ]
      exact congrArg (other :: ·)
        (ih found fun i lt => before (i + 1) (Nat.succ_lt_succ lt))

/-- What becomes of a batch. -/
theorem enqueue_eq_ok_iff : s.enqueue role commands greatest = .ok s' ↔
    s.Appended role commands greatest s' := by
  unfold enqueue Appended
  rcases Seat.first_or_none role s.seats with ⟨j, seat, first, rfl⟩ | none
  · have found : s.seat? seat.role.id = some seat := first.find?_eq
    rw [found]
    dsimp only
    rw [← Roster.forM_eq_ok_iff]
    cases commands.forM (admits s.world.scene seat.role.id) with
    | error e =>
      constructor
      · rintro ⟨⟩
      · rintro ⟨⟨⟩, -⟩
    | ok u =>
      rw [push_eq_set first]
      show (if _ then _ else _) = _ ↔ _
      split
      · rename_i full
        constructor
        · rintro ⟨⟩
        · rintro ⟨-, i, other, h, same, fits, -⟩
          obtain ⟨-, rfl⟩ := h.eq first same
          omega
      · rename_i fits
        constructor
        · rintro ⟨⟩
          exact ⟨rfl, j, seat, first, rfl, Nat.le_of_not_lt fits, rfl⟩
        · rintro ⟨-, i, other, h, same, -, rfl⟩
          obtain ⟨rfl, rfl⟩ := h.eq first same
          rfl
  · have absent : s.seat? role = .none := by
      rw [seat?, List.find?_eq_none]
      exact fun seat mem => by simpa using none seat mem
    rw [absent]
    constructor
    · rintro ⟨⟩
    · rintro ⟨-, j, seat, first, rfl, -⟩
      exact absurd rfl (none seat (List.mem_of_getElem? first.found))

/-- A batch is refused if a single command of it is not admitted, wherever it stands. -/
theorem enqueue_of_refused {before after : List (Command K)} {e : SessionError}
    (refused : admits s.world.scene role c = .error e) :
    ∃ e, s.enqueue role (before ++ c :: after) greatest = .error e := by
  cases taken : s.enqueue role (before ++ c :: after) greatest with
  | error e => exact ⟨e, rfl⟩
  | ok s' =>
    have admitted := (enqueue_eq_ok_iff.1 taken).1 c (by simp)
    rw [refused] at admitted
    cases admitted

end Session

end Playfield
