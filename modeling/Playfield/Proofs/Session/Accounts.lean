import Playfield.Proofs.Session.Interleaving

/-!
# What becomes of the commands

Every command that a session has accepted is used, dropped for a newer one or still waits.

* `Book`: a session with what it has accepted and what its passes have told. `Book.run` enters
  requests one after the other, refused ones and failures included.
* `Seat.Sole`: only the first seat of a role has commands. `Seat.Accounted`: commands that were
  given are told by a report or wait in the queues, in their order.
* `pass_settled`, `advanceClock_settled`: what a pass tells and leaves accounts for what waited
  before.
* `no_command_lost`: where there are turns, the commands used of a role and those that wait are the
  commands accepted of it. In a continuous session they are some of these in their order, and the
  commands used, dropped and waiting are as many as those accepted.
-/

namespace Playfield

variable {K τ : Type}

/-- The commands of one role. -/
def Consumed.ofRole (role : String) (cs : List (Consumed K)) : List (Command K) :=
  cs.filterMap fun c => if c.role = role then some c.command else none

section OfRole

variable {role : String} {c : Consumed K} {cs : List (Consumed K)}

theorem ofRole_append (cs ds : List (Consumed K)) :
    Consumed.ofRole role (cs ++ ds) = Consumed.ofRole role cs ++ Consumed.ofRole role ds :=
  List.filterMap_append

theorem ofRole_cons_of_eq (h : c.role = role) :
    Consumed.ofRole role (c :: cs) = c.command :: Consumed.ofRole role cs :=
  List.filterMap_cons_some (if_pos h)

theorem ofRole_cons_of_ne (h : c.role ≠ role) :
    Consumed.ofRole role (c :: cs) = Consumed.ofRole role cs :=
  List.filterMap_cons_none (if_neg h)

/-- A batch belongs to its role alone. -/
theorem ofRole_batch (role sender : String) (commands : List (Command K)) :
    Consumed.ofRole role (commands.map (⟨sender, ·⟩)) = if sender = role then commands else [] := by
  rw [Consumed.ofRole, List.filterMap_map]
  by_cases same : sender = role
  · simp [same]
  · simp [same]

end OfRole

namespace Seat

/-- The commands that wait for a role. -/
def waiting (role : String) (seats : List (Seat K)) : List (Command K) :=
  (seats.find? (·.role.id == role)).elim [] (·.queue)

/-- Of seats with the same role, only the first has commands. -/
def Sole (seats : List (Seat K)) : Prop :=
  seats.Pairwise fun a b => a.role.id = b.role.id → b.queue = []

section Waiting

variable {role : String} {seat : Seat K} {seats seats' : List (Seat K)}

theorem waiting_cons (role : String) (seat : Seat K) (seats : List (Seat K)) :
    waiting role (seat :: seats) =
      if seat.role.id = role then seat.queue else waiting role seats := by
  rw [waiting, List.find?_cons]
  by_cases same : seat.role.id = role
  · rw [if_pos same, beq_iff_eq.2 same]
    rfl
  · rw [if_neg same, beq_eq_false_iff_ne.2 same]
    rfl

theorem waiting_of_empty (empty : ∀ seat ∈ seats, seat.role.id = role → seat.queue = []) :
    waiting role seats = [] := by
  rw [waiting]
  cases found : seats.find? (·.role.id == role) with
  | none => rfl
  | some seat =>
    have same : seat.role.id = role := by simpa using List.find?_some found
    exact empty seat (List.mem_of_find?_eq_some found) same

/-- The seat at a place is the first of its role. -/
structure First (seats : List (Seat K)) (j : Nat) (seat : Seat K) : Prop where
  found : seats[j]? = some seat
  before : ∀ i < j, ∀ other, seats[i]? = some other → other.role.id ≠ seat.role.id

theorem First.find?_eq {j : Nat} (first : First seats j seat) :
    seats.find? (·.role.id == seat.role.id) = some seat := by
  obtain ⟨lt, here⟩ := List.getElem?_eq_some_iff.1 first.found
  refine List.find?_eq_some_iff_getElem.2 ⟨beq_self_eq_true _, j, lt, here, fun i before => ?_⟩
  simpa using first.before i before _ (List.getElem?_eq_getElem (before.trans lt))

theorem First.waiting {j : Nat} (first : First seats j seat) :
    waiting seat.role.id seats = seat.queue := by
  rw [Seat.waiting, first.find?_eq, Option.elim_some]

theorem first_or_none (role : String) (seats : List (Seat K)) :
    (∃ j seat, First seats j seat ∧ seat.role.id = role) ∨
      ∀ seat ∈ seats, seat.role.id ≠ role := by
  cases found : seats.find? (·.role.id == role) with
  | none => exact .inr fun seat mem => by simpa using List.find?_eq_none.1 found seat mem
  | some seat =>
    obtain ⟨same, j, lt, here, before⟩ := List.find?_eq_some_iff_getElem.1 found
    obtain rfl := beq_iff_eq.1 same
    refine .inl ⟨j, seat, ⟨List.getElem?_eq_some_iff.2 ⟨lt, here⟩, ?_⟩, rfl⟩
    intro i less other place
    obtain ⟨-, rfl⟩ := List.getElem?_eq_some_iff.1 place
    simpa using before i less

theorem sole_of_empty (empty : ∀ seat ∈ seats, seat.queue = []) : Sole seats :=
  List.pairwise_of_forall_mem_list fun _ _ b mem _ => empty b mem

end Waiting

/-! ### Batches -/

section Push

variable {role : String} {commands : List (Command K)} {seats : List (Seat K)}

theorem mem_push {b : Seat K} (mem : b ∈ Session.push role commands seats) :
    b ∈ seats ∨ b.role.id = role := by
  induction seats with
  | nil => cases mem
  | cons seat seats ih =>
    unfold Session.push at mem
    split at mem
    · rename_i same
      rcases List.mem_cons.1 mem with rfl | later
      · exact .inr same
      · exact .inl (List.mem_cons_of_mem _ later)
    · rcases List.mem_cons.1 mem with rfl | later
      · exact .inl List.mem_cons_self
      · exact (ih later).imp_left (List.mem_cons_of_mem _)

theorem Sole.push (sole : Sole seats) : Sole (Session.push role commands seats) := by
  induction sole with
  | nil => exact .nil
  | @cons seat seats head tail ih =>
    unfold Session.push
    split
    · exact .cons head tail
    · rename_i other
      refine .cons (fun b mem same => ?_) ih
      rcases mem_push mem with old | new
      · exact head b old same
      · exact absurd (same.trans new) other

theorem waiting_push (r : String) {seat : Seat K} (mem : seat ∈ seats) (id : seat.role.id = role) :
    waiting r (Session.push role commands seats) =
      waiting r seats ++ if role = r then commands else [] := by
  induction seats with
  | nil => cases mem
  | cons first seats ih =>
    unfold Session.push
    split
    · rename_i same
      rw [waiting_cons, waiting_cons, same]
      by_cases here : role = r
      · rw [if_pos here, if_pos here, if_pos here]
      · rw [if_neg here, if_neg here, if_neg here, List.append_nil]
    · rename_i other
      have later : seat ∈ seats :=
        (List.mem_cons.1 mem).resolve_left fun same => other (same ▸ id)
      rw [waiting_cons, waiting_cons, ih later]
      by_cases here : first.role.id = r
      · rw [if_pos here, if_pos here, if_neg fun same => other (here.trans same.symm),
          List.append_nil]
      · rw [if_neg here, if_neg here]

theorem total_push {seat : Seat K} (mem : seat ∈ seats) (id : seat.role.id = role) :
    total (Session.push role commands seats) = total seats + commands.length := by
  induction seats with
  | nil => cases mem
  | cons first seats ih =>
    unfold Session.push
    split
    · rw [total_cons, total_cons, List.length_append]
      omega
    · rename_i other
      have later := ih ((List.mem_cons.1 mem).resolve_left fun same => other (same ▸ id))
      rw [total_cons, total_cons, later]
      omega

end Push

/-! ### Tickets -/

/-- The command of a ticket waits in the queue of its seat, whose role it names. -/
def Holds (seats : List (Seat K)) (t : Ticket K) : Prop :=
  ∃ seat, seats[t.seat]? = some seat ∧ t.consumed.role = seat.role.id ∧
    t.consumed.command ∈ seat.queue

section Holds

variable {seat : Seat K} {seats seats' : List (Seat K)} {t : Ticket K} {ts : List (Ticket K)}

theorem holds_of_mem_tickets {j : Nat} (found : seats[j]? = some seat)
    (mem : t ∈ seat.tickets j) : Holds seats t := by
  obtain ⟨c, waits, rfl⟩ := List.mem_map.1 mem
  exact ⟨seat, found, rfl, waits⟩

theorem of_mem_round {k first : Nat} (mem : t ∈ round k first seats) :
    ∃ j seat, t.seat = j + first ∧ seats[j]? = some seat ∧ t.consumed.role = seat.role.id ∧
      t.consumed.command ∈ seat.queue := by
  induction seats generalizing first with
  | nil => cases mem
  | cons seat seats ih =>
    rcases List.mem_append.1 mem with here | later
    · obtain ⟨c, at_k, rfl⟩ := Option.map_eq_some_iff.1 (Option.mem_toList.1 here)
      exact ⟨0, seat, (Nat.zero_add first).symm, rfl, rfl, List.mem_of_getElem? at_k⟩
    · obtain ⟨j, found, place, rest⟩ := ih later
      exact ⟨j + 1, found, place.trans (Nat.succ_add_eq_add_succ j first).symm, rest⟩

theorem holds_of_mem_interleaving (mem : t ∈ interleaving seats) : Holds seats t := by
  obtain ⟨k, -, mem⟩ := List.mem_flatMap.1 mem
  obtain ⟨j, seat, rfl, rest⟩ := of_mem_round mem
  exact ⟨seat, rest⟩

/-- The tickets of a role are those of its first seat. -/
theorem Sole.ofRole_eq {j : Nat} (sole : Sole seats) (first : First seats j seat)
    (holds : ∀ t ∈ ts, Holds seats t) :
    Consumed.ofRole seat.role.id (ts.map (·.consumed)) = Ticket.ofSeat j ts := by
  rw [Consumed.ofRole, List.filterMap_map, Ticket.ofSeat]
  refine List.filterMap_congr fun t mem => ?_
  obtain ⟨holder, place, role, waits⟩ := holds t mem
  by_cases same : t.seat = j
  · obtain rfl : holder = seat := Option.some.inj ((same ▸ place).symm.trans first.found)
    rw [Function.comp_apply, if_pos role, if_pos same]
  · have other : holder.role.id ≠ seat.role.id := by
      intro equal
      rcases Nat.lt_or_gt_of_ne same with before | behind
      · exact first.before _ before holder place equal
      · -- A later seat of the same role has no commands.
        obtain ⟨hj, rfl⟩ := List.getElem?_eq_some_iff.1 first.found
        obtain ⟨ht, rfl⟩ := List.getElem?_eq_some_iff.1 place
        rw [List.pairwise_iff_getElem.1 sole j t.seat hj ht behind equal.symm] at waits
        cases waits
    rw [Function.comp_apply, role, if_neg other, if_neg same]

theorem Took.sole (took : Took ts seats seats') (sole : Sole seats) : Sole seats' := by
  refine List.pairwise_iff_getElem.2 fun i j hi hj lt same => ?_
  obtain ⟨length, each⟩ := took
  obtain ⟨left, found, -⟩ := each i _ (List.getElem?_eq_getElem (length ▸ hi))
  obtain ⟨left', found', taken⟩ := each j _ (List.getElem?_eq_getElem (length ▸ hj))
  obtain ⟨_, here⟩ := List.getElem?_eq_some_iff.1 found
  obtain ⟨_, there⟩ := List.getElem?_eq_some_iff.1 found'
  rw [here, there] at same
  have none := List.pairwise_iff_getElem.1 sole i j (length ▸ hi) (length ▸ hj) lt same
  rw [there]
  exact (List.append_eq_nil_iff.1 (taken.trans none)).2

theorem Took.before {j : Nat} {seat' : Seat K} (took : Took ts seats seats')
    (found : seats'[j]? = some seat') : ∃ seat, seats[j]? = some seat ∧ seat.role = seat'.role := by
  have lt : j < seats.length := took.1 ▸ (List.getElem?_eq_some_iff.1 found).1
  obtain ⟨left, found', -⟩ := took.2 j _ (List.getElem?_eq_getElem lt)
  obtain rfl := Option.some.inj (found'.symm.trans found)
  exact ⟨_, List.getElem?_eq_getElem lt, rfl⟩

/-- What was taken of a role and what is left make up what waited. -/
theorem Took.waiting_eq (took : Took ts seats seats') (sole : Sole seats)
    (holds : ∀ t ∈ ts, Holds seats t) (role : String) :
    Consumed.ofRole role (ts.map (·.consumed)) ++ waiting role seats' = waiting role seats := by
  rcases first_or_none role seats with ⟨j, seat, first, rfl⟩ | none
  · -- All tickets of the role are those of its first seat, and that seat stays the first.
    obtain ⟨left, found, taken⟩ := took.2 j seat first.found
    have first' : First seats' j { seat with queue := left } := by
      refine ⟨found, fun i lt other place => ?_⟩
      obtain ⟨old, was, same⟩ := took.before place
      rw [← same]
      exact first.before i lt old was
    have left_eq : waiting seat.role.id seats' = left := first'.waiting
    rw [sole.ofRole_eq first holds, first.waiting, left_eq]
    exact taken
  · have none' : ∀ seat ∈ seats', seat.role.id ≠ role := by
      intro seat mem
      obtain ⟨j, found⟩ := List.mem_iff_getElem?.1 mem
      obtain ⟨old, was, same⟩ := took.before found
      rw [← same]
      exact none old (List.mem_of_getElem? was)
    have unused : Consumed.ofRole role (ts.map (·.consumed)) = [] := by
      rw [Consumed.ofRole, List.filterMap_map]
      refine List.filterMap_eq_nil_iff.2 fun t mem => ?_
      obtain ⟨holder, place, named, -⟩ := holds t mem
      exact if_neg fun same => none holder (List.mem_of_getElem? place) (named.symm.trans same)
    rw [unused, waiting_of_empty fun seat mem same => absurd same (none' seat mem),
      waiting_of_empty fun seat mem same => absurd same (none seat mem), List.append_nil]

end Holds

/-! ### Accounts -/

/-- Commands that were given are told by a report or wait in the queues. In each role they are so in
their order; none is missing where there are turns, and otherwise those missing are counted. -/
structure Accounted (mode : LoopMode) (given : String → List (Command K)) (number : Nat)
    (report : PassReport K) (seats : List (Seat K)) : Prop where
  order : ∀ role, (Consumed.ofRole role report.consumed ++ waiting role seats).Sublist (given role)
  number : mode = .continuous →
    number = report.consumed.length + report.discarded + total seats
  whole : mode ≠ .continuous → report.discarded = 0 ∧
    ∀ role, Consumed.ofRole role report.consumed ++ waiting role seats = given role

section Accounted

variable {mode : LoopMode} {given : String → List (Command K)} {number : Nat}
  {report report' : PassReport K} {seats seats' : List (Seat K)}

theorem Accounted.refl (mode : LoopMode) (seats : List (Seat K)) :
    Accounted mode (waiting · seats) (total seats) {} seats where
  order _ := .refl _
  number _ := by simp
  whole _ := ⟨rfl, fun _ => rfl⟩

theorem Accounted.append (one : Accounted mode given number report seats)
    (two : Accounted mode (waiting · seats) (total seats) report' seats') :
    Accounted mode given number (report.append report') seats' where
  order role := by
    rw [PassReport.append, ofRole_append, List.append_assoc]
    exact ((two.order role).append_left _).trans (one.order role)
  number continuous := by
    have := one.number continuous
    have := two.number continuous
    simp only [PassReport.append, List.length_append]
    omega
  whole turns := by
    obtain ⟨none, one⟩ := one.whole turns
    obtain ⟨none', two⟩ := two.whole turns
    refine ⟨?_, fun role => ?_⟩
    · rw [PassReport.append, none, none']
    · rw [PassReport.append, ofRole_append, List.append_assoc, two, one]

theorem Accounted.push {role : String} {seat : Seat K}
    (accounted : Accounted mode given number report seats) (mem : seat ∈ seats)
    (id : seat.role.id = role) (commands : List (Command K)) :
    Accounted mode (fun r => given r ++ if role = r then commands else [])
      (number + commands.length) report (Session.push role commands seats) where
  order r := by
    rw [waiting_push r mem id, ← List.append_assoc]
    exact (accounted.order r).append_right _
  number continuous := by
    have := accounted.number continuous
    rw [total_push mem id]
    omega
  whole turns := by
    obtain ⟨none, same⟩ := accounted.whole turns
    refine ⟨none, fun r => ?_⟩
    rw [waiting_push r mem id, ← List.append_assoc, same]

/-- The newest command of a role is one of those that wait. -/
theorem newest_of_sole (role : String) (sole : Sole seats) :
    (Consumed.ofRole role (seats.filterMap newest?)).Sublist (waiting role seats) := by
  induction sole with
  | nil => exact .refl _
  | @cons seat seats head tail ih =>
    rw [waiting_cons]
    by_cases same : seat.role.id = role
    · -- The other seats of the role are empty, so nothing of them is used.
      have later : waiting role seats = [] :=
        waiting_of_empty fun b mem equal => head b mem (same.trans equal.symm)
      rw [later] at ih
      rw [if_pos same]
      cases newest : seat.newest? with
      | none =>
        rw [List.filterMap_cons_none newest, List.sublist_nil.1 ih]
        exact List.nil_sublist _
      | some c =>
        obtain ⟨last, mem, rfl⟩ := Option.map_eq_some_iff.1 newest
        rw [List.filterMap_cons_some newest, ofRole_cons_of_eq same, List.sublist_nil.1 ih]
        exact List.singleton_sublist.2 (List.mem_of_getLast? mem)
    · rw [if_neg same]
      cases newest : seat.newest? with
      | none => rwa [List.filterMap_cons_none newest]
      | some c =>
        obtain ⟨last, -, rfl⟩ := Option.map_eq_some_iff.1 newest
        rwa [List.filterMap_cons_some newest, ofRole_cons_of_ne same]

theorem length_newest_le (seats : List (Seat K)) :
    (seats.filterMap newest?).length ≤ total seats := by
  induction seats with
  | nil => exact le_rfl
  | cons seat seats ih =>
    rw [total_cons]
    cases newest : seat.newest? with
    | none =>
      rw [List.filterMap_cons_none newest]
      omega
    | some c =>
      obtain ⟨last, mem, -⟩ := Option.map_eq_some_iff.1 newest
      have := List.length_pos_of_mem (List.mem_of_getLast? mem)
      rw [List.filterMap_cons_some newest, List.length_cons]
      omega

theorem total_eq_zero (empty : ∀ seat ∈ seats, seat.queue = []) : total seats = 0 := by
  induction seats with
  | nil => rfl
  | cons seat seats ih =>
    rw [total_cons, ih fun later mem => empty later (List.mem_cons_of_mem _ mem),
      empty seat List.mem_cons_self]
    rfl

end Accounted

end Seat

open Seat Simulation

variable [Scalar K]

namespace Session

/-- A pass tells and leaves what waited before. -/
structure Settled (s : Session K τ) (report : PassReport K) (s' : Session K τ) : Prop where
  mode : s'.mode = s.mode
  sole : Sole s'.seats
  accounted : Accounted s.mode (waiting · s.seats) (total s.seats) report s'.seats

variable {s s' s'' : Session K τ} {report report' : PassReport K}

omit [Scalar K] in
/-- A batch that is accepted goes to the first seat of its role. -/
theorem enqueue_ok {role : String} {commands : List (Command K)} {greatest : Nat}
    (h : s.enqueue role commands greatest = .ok s') :
    ∃ seat ∈ s.seats, seat.role.id = role ∧
      s' = { s with seats := push role commands s.seats } := by
  unfold enqueue at h
  cases found : s.seat? role with
  | none =>
    rw [found] at h
    cases h
  | some seat =>
    have same : seat.role.id = role := by simpa using List.find?_some found
    rw [found] at h
    cases admitted : commands.forM (admits s.world.scene role) <;>
      simp only [admitted, bind, Except.bind] at h
    · cases h
    · split at h
      · cases h
      · cases h
        exact ⟨seat, List.mem_of_find?_eq_some found, same, rfl⟩

omit [Scalar K] in
theorem Settled.refl (sole : Sole s.seats) : Settled s {} s := ⟨rfl, sole, .refl ..⟩

omit [Scalar K] in
theorem Settled.append (one : Settled s report s') (two : Settled s' report' s'') :
    Settled s (report.append report') s'' where
  mode := two.mode.trans one.mode
  sole := two.sole
  accounted := one.accounted.append (one.mode ▸ two.accounted)

/-- Where there are turns, a pass serves tickets of commands that wait. -/
theorem pass_served (turns : s.mode ≠ .continuous) :
    ∃ waits used, (∀ t ∈ waits, Holds s.seats t) ∧ Served s waits used s.pass := by
  unfold pass
  cases mode : s.mode with
  | continuous => exact absurd mode turns
  | strictTurn =>
    cases current : s.seats[s.currentIndex]? with
    | none =>
      have idle : s.strictPass = (.ok {}, s) := by rw [strictPass, current]
      dsimp only
      rw [idle]
      have none : ∀ t ∈ ([] : List (Ticket K)), Holds s.seats t := by simp
      exact ⟨[], _, none, served_of_play (p := .idle s.simulation) rfl rfl rfl rfl .refl⟩
    | some seat =>
      obtain ⟨used, served, -⟩ := strictPass_served current
      exact ⟨_, used, fun t mem => holds_of_mem_tickets current mem, served⟩
  | hybrid =>
    obtain ⟨used, served⟩ := s.hybridPass_served
    exact ⟨_, used, fun t mem => holds_of_mem_interleaving mem, served⟩

theorem Served.settled {waits used : List (Ticket K)} (turns : s.mode ≠ .continuous)
    (sole : Sole s.seats) (holds : ∀ t ∈ waits, Holds s.seats t)
    (served : Served s waits used (.ok report, s')) : Settled s report s' := by
  cases failure : (s.serving used).failure with
  | some e => cases (served.failed e failure).1
  | none =>
    obtain ⟨answer, -⟩ := served.completed failure
    cases answer
    have taken := served.seats.waiting_eq sole fun t mem => holds t (served.first.subset mem)
    exact ⟨served.mode, served.seats.sole sole, fun role => by rw [taken],
      fun mode => absurd mode turns, fun _ => ⟨rfl, taken⟩⟩

theorem continuousPass_settled (mode : s.mode = .continuous) (sole : Sole s.seats)
    (h : s.continuousPass = (.ok report, s')) : Settled s report s' := by
  rw [continuousPass_eq rfl, Prod.mk.injEq] at h
  obtain ⟨answer, rfl⟩ := h
  obtain ⟨-, rfl⟩ := Played.of_result_ok answer.symm
  have empty : ∀ seat ∈ s.seats.map cleared, seat.queue = [] := by
    intro seat mem
    obtain ⟨old, -, rfl⟩ := List.mem_map.1 mem
    rfl
  refine ⟨rfl, sole_of_empty empty, fun role => ?_, fun _ => ?_, fun turns => absurd mode turns⟩
  · rw [waiting_of_empty fun seat mem _ => empty seat mem, List.append_nil]
    exact newest_of_sole role sole
  · rw [total_eq_zero empty]
    exact (Nat.add_sub_of_le (length_newest_le s.seats)).symm

theorem continuousPasses_settled {n : Nat} (mode : s.mode = .continuous) (sole : Sole s.seats)
    (h : continuousPasses n s = (.ok report, s')) : Settled s report s' := by
  induction n generalizing s report with
  | zero =>
    cases h
    exact .refl sole
  | succ n ih =>
    unfold continuousPasses at h
    rcases first : s.continuousPass with ⟨e | one, t⟩ <;> rw [first] at h
    · cases h
    · have settled := continuousPass_settled mode sole first
      rcases later : continuousPasses n t with ⟨e | two, t'⟩ <;> simp only [later] at h
      · cases h
      · cases h
        exact settled.append (ih (settled.mode.trans mode) settled.sole later)

/-- What a pass tells and leaves accounts for what waited before. -/
theorem pass_settled (sole : Sole s.seats) (h : s.pass = (.ok report, s')) :
    Settled s report s' := by
  by_cases mode : s.mode = .continuous
  · rw [pass, mode] at h
    exact continuousPass_settled mode sole h
  · obtain ⟨waits, used, holds, served⟩ := pass_served mode
    rw [h] at served
    exact served.settled mode sole holds

theorem advanceClock_settled {elapsed : K} (sole : Sole s.seats)
    (h : s.advanceClock elapsed = (.ok report, s')) : Settled s report s' := by
  by_cases mode : s.mode = .continuous
  · rw [advanceClock_continuous mode] at h
    obtain ⟨same, sole, accounted⟩ := continuousPasses_settled
      (s := { s with simulation := (s.simulation.dueSteps elapsed).2 }) mode sole h
    exact ⟨same, sole, accounted⟩
  · rw [advanceClock_turns mode] at h
    split at h
    · exact pass_settled sole h
    · cases h
      exact .refl sole

end Session

/-! ### The book -/

/-- What can be asked of a session. -/
inductive Session.Request (K : Type) where
  | enqueue (role : String) (commands : List (Command K)) (greatest : Nat)
  | pass
  | clock (elapsed : K)

/-- A session with what it has accepted and told. -/
structure Book (K τ : Type) where
  session : Session K τ
  /-- The commands accepted, each in the name of its role. -/
  accepted : List (Consumed K) := []
  /-- The reports of all passes, one after the other. -/
  report : PassReport K := {}
  failures : List RuleError := []

namespace Book

/-- Enters what came of a pass. -/
def settle (b : Book K τ) : Except RuleError (PassReport K) × Session K τ → Book K τ
  | (.error e, session) => { b with session, failures := b.failures ++ [e] }
  | (.ok report, session) => { b with session, report := b.report.append report }

/-- Asks the session and enters what came of it. A batch that is refused changes nothing. -/
def enter (b : Book K τ) : Session.Request K → Book K τ
  | .enqueue role commands greatest =>
    match b.session.enqueue role commands greatest with
    | .error _ => b
    | .ok session =>
      { b with session, accepted := b.accepted ++ commands.map (⟨role, ·⟩) }
  | .pass => b.settle b.session.pass
  | .clock elapsed => b.settle (b.session.advanceClock elapsed)

/-- Enters requests one after the other. -/
def run (b : Book K τ) (requests : List (Session.Request K)) : Book K τ := requests.foldl enter b

/-- A book is kept if the commands accepted are accounted. -/
structure Kept (mode : LoopMode) (b : Book K τ) : Prop where
  loop : b.session.mode = mode
  sole : Sole b.session.seats
  accounted : Accounted mode (Consumed.ofRole · b.accepted) b.accepted.length b.report
    b.session.seats

variable {mode : LoopMode} {b : Book K τ}

omit [Scalar K] in
theorem kept_new (simulation : Simulation K τ) (mode : LoopMode) (roles : List (Role K)) :
    Kept mode { session := Session.new simulation mode roles } := by
  have empty : ∀ seat ∈ (Session.new simulation mode roles).seats, seat.queue = [] := by
    intro seat mem
    obtain ⟨role, -, rfl⟩ := List.mem_map.1 mem
    rfl
  have none : total (Session.new simulation mode roles).seats = 0 := total_eq_zero empty
  refine ⟨rfl, sole_of_empty empty, fun role => ?_, fun _ => ?_, fun _ => ⟨rfl, fun role => ?_⟩⟩
  · rw [waiting_of_empty fun seat mem _ => empty seat mem]
    exact .refl _
  · rw [none]
    rfl
  · rw [waiting_of_empty fun seat mem _ => empty seat mem]
    rfl

omit [Scalar K] in
theorem Kept.settle (kept : Kept mode b) {outcome : Except RuleError (PassReport K) × Session K τ}
    (settled : ∀ report s', outcome = (.ok report, s') → Session.Settled b.session report s')
    (sound : (b.settle outcome).failures = []) : Kept mode (b.settle outcome) := by
  rcases outcome with ⟨e | report, s'⟩
  · exact absurd sound (List.append_ne_nil_of_right_ne_nil _ (List.cons_ne_nil _ _))
  · obtain ⟨same, sole, accounted⟩ := settled report s' rfl
    rw [kept.loop] at same accounted
    exact ⟨same, sole, kept.accounted.append accounted⟩

theorem Kept.enter (kept : Kept mode b) (request : Session.Request K)
    (sound : (b.enter request).failures = []) : Kept mode (b.enter request) := by
  cases request with
  | enqueue role commands greatest =>
    unfold Book.enter at sound ⊢
    dsimp only at sound ⊢
    rcases taken : b.session.enqueue role commands greatest with e | s'
    · exact kept
    · obtain ⟨seat, mem, id, rfl⟩ := Session.enqueue_ok taken
      refine ⟨kept.loop, kept.sole.push, ?_⟩
      have accounted := kept.accounted.push mem id commands
      simpa only [ofRole_append, ofRole_batch, List.length_append, List.length_map] using accounted
  | pass => exact kept.settle (fun _ _ => Session.pass_settled kept.sole) sound
  | clock elapsed => exact kept.settle (fun _ _ => Session.advanceClock_settled kept.sole) sound

omit [Scalar K] in
theorem failures_settle {outcome : Except RuleError (PassReport K) × Session K τ}
    (sound : (b.settle outcome).failures = []) : b.failures = [] := by
  rcases outcome with ⟨e | report, s'⟩
  · exact (List.append_eq_nil_iff.1 sound).1
  · exact sound

theorem failures_enter {request : Session.Request K} (sound : (b.enter request).failures = []) :
    b.failures = [] := by
  cases request with
  | enqueue role commands greatest =>
    unfold Book.enter at sound
    dsimp only at sound
    split at sound
    · exact sound
    · exact sound
  | pass => exact failures_settle sound
  | clock elapsed => exact failures_settle sound

/-- A book is kept as long as no pass has failed. -/
theorem Kept.run {requests : List (Session.Request K)} (kept : Kept mode b)
    (sound : (b.run requests).failures = []) : Kept mode (b.run requests) := by
  induction requests using List.reverseRecOn with
  | nil => exact kept
  | append_singleton requests request ih =>
    have last : b.run (requests ++ [request]) = (b.run requests).enter request :=
      List.foldl_concat ..
    -- No failure in the end means none before the last request.
    rw [last] at sound ⊢
    exact (ih (failures_enter sound)).enter request sound

end Book

/-- In every run of a session in which no pass fails, no command that was accepted is lost, used
twice or out of order. -/
theorem no_command_lost (simulation : Simulation K τ) (mode : LoopMode) (roles : List (Role K))
    (requests : List (Session.Request K))
    (sound : (Book.run { session := Session.new simulation mode roles } requests).failures = []) :
    let b := Book.run { session := Session.new simulation mode roles } requests
    match mode with
    | .continuous =>
      (∀ role, (Consumed.ofRole role b.report.consumed ++ waiting role b.session.seats).Sublist
        (Consumed.ofRole role b.accepted)) ∧
      b.accepted.length =
        b.report.consumed.length + b.report.discarded + total b.session.seats
    | .strictTurn | .hybrid =>
      (∀ role, Consumed.ofRole role b.report.consumed ++ waiting role b.session.seats =
        Consumed.ofRole role b.accepted) ∧
      b.report.discarded = 0 := by
  intro b
  have kept : Book.Kept mode b := (Book.kept_new simulation mode roles).run sound
  have whole (turns : mode ≠ .continuous) := (kept.accounted.whole turns).symm
  cases mode with
  | continuous => exact ⟨kept.accounted.order, kept.accounted.number rfl⟩
  | strictTurn => exact whole nofun
  | hybrid => exact whole nofun

/-! ### A session of two roles -/

namespace Errand

/-- A role of which nothing but the name matters. -/
def role (id : String) : Role Rat :=
  { id, kind := .human, required := true, camera := none, ui := none
    serverFields := ∅, localFields := ∅ }

/-- Two batches and one of a role that does not take part, then a pass and some time. -/
def requests : List (Session.Request Rat) :=
  [.enqueue "a" [.noop, .noop] 4, .enqueue "b" [.noop] 4, .enqueue "c" [.noop] 4, .pass, .clock 1]

/-- The book of the session. -/
def book (simulation : Simulation Rat Empty) : Book Rat Empty :=
  Book.run { session := Session.new simulation .strictTurn [role "a", role "b"] } requests

/-- No pass fails. One role is served, the commands of the other wait. -/
def serves : Bool :=
  match Simulation.new Scene.default [role "a", role "b"] { resume := fun t => nomatch t } 0 with
  | .error _ => false
  | .ok simulation =>
    (book simulation).failures.isEmpty && (book simulation).report.consumed.length == 2 &&
      total (book simulation).session.seats == 1

end Errand

/-- Of three commands accepted, two are used and one waits. -/
theorem errand_accounts : ∃ simulation : Simulation Rat Empty,
    (Errand.book simulation).failures = [] ∧
      (Errand.book simulation).report.consumed.length = 2 ∧
      total (Errand.book simulation).session.seats = 1 ∧
      (∀ role, Consumed.ofRole role (Errand.book simulation).report.consumed ++
        waiting role (Errand.book simulation).session.seats =
          Consumed.ofRole role (Errand.book simulation).accepted) ∧
      (Errand.book simulation).report.discarded = 0 := by
  have serves : Errand.serves = true := by cbv
  unfold Errand.serves at serves
  split at serves
  · cases serves
  rename_i simulation _
  simp only [Bool.and_eq_true, beq_iff_eq, List.isEmpty_iff] at serves
  obtain ⟨⟨sound, used⟩, left⟩ := serves
  exact ⟨simulation, sound, used, left,
    no_command_lost simulation .strictTurn _ Errand.requests sound⟩

end Playfield
