import Mathlib.Data.List.Basic
import Playfield.Proofs.Lobby.Opening
import Playfield.Proofs.Simulation.Start

/-!
# Which ticks are in the log

The store keeps one event of every pass, with the numbers of its ticks. A pass that fails files no
event, although the ticks before the failing one have happened.

* `StoredEvent.ticks` reads the tick numbers of an event of the store.
* `run_ticks`: the log has the ticks of just those calls in which no rule failed.
* `log_has_ticks_iff`: numbers in the log increase, and each tick that ran to its end is in just one
  event if and only if no call in which a rule failed had run a tick to its end.
-/

namespace Playfield

variable {K τ : Type}

/-- The numbers of the ticks that an event of the store tells of. -/
def StoredEvent.ticks (e : StoredEvent K) : List Nat :=
  if e.type = "tick" then
    (((e.payload.member? "ticks").bind Json.items?).getD []).filterMap
      fun j => j.int?.map Int.toNat
  else []

/-- The numbers of the ticks that an event tells of. -/
def SessionEvent.ticks : SessionEvent K → List Nat
  | passed ticks .. => ticks
  | _ => []

theorem SessionEvent.ticks_row [Scalar K] (id : String) (seq : Nat) (e : SessionEvent K) :
    (e.row id seq).ticks = e.ticks := by
  cases e with
  | passed ticks turn consumed discarded removed =>
    have found : (SessionEvent.payload (K := K)
        (passed ticks turn consumed discarded removed)).member? "ticks" =
        some (.list .nat ticks) := by
      simp [payload, Json.member?, List.lookup]
    have filed : (row id seq (passed ticks turn consumed discarded removed)).type = "tick" := rfl
    rw [StoredEvent.ticks, if_pos filed, row, found]
    simp [SessionEvent.ticks, Json.list, Json.items?, Json.nat, Json.int?, Function.comp_def]
  | _ => rfl

/-- The tick counter of a room. -/
def Room.tick (r : Room K τ) : Nat := r.session.world.tick

variable [Scalar K]

/-- The ticks of a pass follow those before it. -/
theorem Session.Passed.numbers {s : Session K τ} {start : Simulation K τ}
    {p : Simulation.Played K τ} {outcome : Except RuleError (PassReport K) × Session K τ}
    (passed : Passed s start p outcome) (keeps : start.rules.registry.KeepsTick) :
    p.numbers = List.range' (start.world.tick + 1) p.reports.length ∧
      start.world.tick + p.reports.length ≤ outcome.2.world.tick ∧
      outcome.2.simulation.rules.registry = start.rules.registry := by
  obtain ⟨goes, frames, plays⟩ := passed.plays
  obtain ⟨numbers, last⟩ := Simulation.play_ticks goes keeps frames
  rw [← plays] at numbers last
  refine ⟨numbers, ?_, ?_⟩
  · show _ ≤ outcome.2.simulation.world.tick
    rw [passed.simulation, last]
    omega
  · rw [passed.simulation, plays]
    exact (Simulation.play_keeps frames).registry

/-- The ticks of a step follow those before it, and they are filed unless a rule has failed. -/
theorem Room.Step.ticks {r r' : Room K τ} {p : Option (Simulation.Played K τ)}
    {e : Option (SessionEvent K)} (step : r.Step p r' e)
    (keeps : r.session.simulation.rules.registry.KeepsTick) :
    r'.session.simulation.rules.registry = r.session.simulation.rules.registry ∧
      (∃ n, p.elim [] (·.numbers) = List.range' (r.tick + 1) n ∧ r.tick + n ≤ r'.tick) ∧
      e.elim [] (·.ticks) = if (p.bind (·.failure)).isSome then [] else p.elim [] (·.numbers) := by
  cases step with
  | passed passed =>
    obtain ⟨numbers, le, registry⟩ := passed.numbers keeps
    obtain ⟨consumed, discarded, answer, -⟩ := passed.answer
    obtain ⟨failure, rfl⟩ := Simulation.Played.of_result_ok answer
    refine ⟨registry, ⟨_, numbers, le⟩, ?_⟩
    simp [failure, SessionEvent.ofPass, SessionEvent.ticks, Simulation.Played.numbers]
  | @idle _ p _ _ passed unticked =>
    obtain ⟨numbers, le, registry⟩ := passed.numbers keeps
    obtain ⟨consumed, discarded, answer, -⟩ := passed.answer
    obtain ⟨failure, rfl⟩ := Simulation.Played.of_result_ok answer
    have none : p.reports = [] := unticked
    refine ⟨registry, ⟨_, numbers, le⟩, ?_⟩
    simp [failure, none, Simulation.Played.numbers]
  | failed passed =>
    obtain ⟨numbers, le, registry⟩ := passed.numbers keeps
    obtain ⟨consumed, discarded, answer, -⟩ := passed.answer
    have failure := Simulation.Played.of_result_error answer
    refine ⟨registry, ⟨_, numbers, le⟩, ?_⟩
    simp [failure]
  | _ => exact ⟨rfl, ⟨0, rfl, le_rfl⟩, rfl⟩

/-! ### Numbers in lists of lists -/

section Lists

variable {α : Type} {f : α → List Nat} {n : Nat}

/-- A number that lists without repetition have is in just one of them. -/
theorem length_filter_mem {l : List α} (distinct : (l.flatMap f).Nodup) (mem : n ∈ l.flatMap f) :
    (l.filter fun a => n ∈ f a).length = 1 := by
  induction l with
  | nil => cases mem
  | cons a rest ih =>
    rw [List.flatMap_cons] at distinct mem
    obtain ⟨-, later, apart⟩ := List.nodup_append.1 distinct
    by_cases here : n ∈ f a
    · have others : (rest.filter fun b => n ∈ f b) = [] := by
        rw [List.filter_eq_nil_iff]
        intro b hb hn
        exact apart n here n (List.mem_flatMap.2 ⟨b, hb, by simpa using hn⟩) rfl
      simp [here, others]
    · rw [List.filter_cons_of_neg (by simpa using here)]
      exact ih later ((List.mem_append.1 mem).resolve_left here)

/-- Without repetitions, what is in a list that is left out is not in the others. -/
theorem not_mem_flatMap_filter {l : List α} {p : α → Bool} {a : α}
    (distinct : (l.flatMap f).Nodup) (mem : a ∈ l) (left : p a = false) (hn : n ∈ f a) :
    n ∉ (l.filter p).flatMap f := by
  induction l with
  | nil => cases mem
  | cons b rest ih =>
    rw [List.flatMap_cons] at distinct
    obtain ⟨-, later, apart⟩ := List.nodup_append.1 distinct
    intro hit
    obtain ⟨c, hc, hnc⟩ := List.mem_flatMap.1 hit
    obtain ⟨memC, kept⟩ := List.mem_filter.1 hc
    rcases List.mem_cons.1 mem with rfl | memA <;> rcases List.mem_cons.1 memC with rfl | memC
    · simp [left] at kept
    · exact apart n hn n (List.mem_flatMap.2 ⟨c, memC, hnc⟩) rfl
    · exact apart n hnc n (List.mem_flatMap.2 ⟨a, memA, hn⟩) rfl
    · exact ih later memA (List.mem_flatMap.2 ⟨c, List.mem_filter.2 ⟨memC, kept⟩, hnc⟩)

end Lists

namespace Lobby

variable {l : Lobby K τ} {id : String} {r : Room K τ}

/-- A rule has failed in the call. -/
def Trace.ruleFailed (t : Trace) : Bool :=
  match t.answer with
  | .error (.tickFailed _) => true
  | _ => false

omit [Scalar K] in
theorem ruleFailed_iff {t : Trace} :
    t.ruleFailed = true ↔ ∃ err, t.answer = .error (.tickFailed err) := by
  unfold Trace.ruleFailed
  split
  · rename_i err h
    simp [h]
  · rename_i h
    simp only [Bool.false_eq_true, false_iff, not_exists]
    exact h

theorem flatMap_ticks_row (e : Option (SessionEvent K)) (seq : Nat) :
    (e.toList.map (·.row id seq)).flatMap (·.ticks) = e.elim [] (·.ticks) := by
  cases e <;> simp [SessionEvent.ticks_row]

omit [Scalar K] in
theorem ruleFailed_eq {failure : Option RuleError} {answer : Except SessionError Unit}
    (failed : ∀ err, answer = .error (.tickFailed err) ↔ failure = some err) (ran : List Nat) :
    Trace.ruleFailed ⟨answer, ran⟩ = failure.isSome := by
  rw [Bool.eq_iff_iff, ruleFailed_iff, Option.isSome_iff_exists]
  exact exists_congr failed

/-- The log has the ticks of just those calls in which no rule failed; and all ticks that came to
their end have increasing numbers. -/
theorem run_ticks (calls : List (Call K)) (room : l.rooms.get? id = some r)
    (keeps : r.session.simulation.rules.registry.KeepsTick)
    (stored : ∀ t ∈ l.trail id calls, ∀ cause, t.answer ≠ .error (.storeFailed cause)) :
    ((l.run calls).store.eventsOf id).flatMap (·.ticks) =
        (l.store.eventsOf id).flatMap (·.ticks) ++
          ((l.trail id calls).filter (!·.ruleFailed)).flatMap (·.ran) ∧
      ((l.trail id calls).flatMap (·.ran)).Pairwise (· < ·) ∧
      ∀ n ∈ (l.trail id calls).flatMap (·.ran), r.tick < n := by
  induction calls generalizing l r with
  | nil => simp [run, trail]
  | cons c calls ih =>
    rw [trail] at stored ⊢
    show (((l.call c).2.run calls).store.eventsOf id).flatMap _ = _ ∧ _
    by_cases about : c.session = id
    · subst about
      rw [if_pos rfl] at stored ⊢
      obtain ⟨r', e, step, room', filed, failed⟩ := call_leads c room (stored _ List.mem_cons_self)
      obtain ⟨registry, ⟨n, numbers, le⟩, ticks⟩ := step.ticks keeps
      obtain ⟨log, sorted, above⟩ := ih room' (registry.symm ▸ keeps) fun t ht =>
        stored t (List.mem_cons_of_mem _ ht)
      refine ⟨?_, ?_, ?_⟩
      · rw [log, filed, List.flatMap_append, List.append_assoc, flatMap_ticks_row, ticks,
          List.filter_cons, ruleFailed_eq failed]
        split <;> simp_all
      · rw [List.flatMap_cons, List.pairwise_append]
        refine ⟨numbers ▸ List.pairwise_lt_range', sorted, fun m hm m' hm' => ?_⟩
        have below : m < r.tick + 1 + n := by
          simp only [numbers] at hm
          exact (List.mem_range'_1.1 hm).2
        have := above m' hm'
        omega
      · intro m hm
        rw [List.flatMap_cons, List.mem_append] at hm
        rcases hm with hm | hm
        · simp only [numbers] at hm
          exact (List.mem_range'_1.1 hm).1
        · have := above m hm
          omega
    · -- A call of another session neither files an event here nor ticks.
      have only := l.call_other c
      rw [if_neg about] at stored ⊢
      rw [← only.events id (Ne.symm about)]
      exact ih ((only.rooms id (Ne.symm about)).trans room) keeps stored

/-- For a session from its creation on, whose events the store takes: numbers in the log increase,
and each tick that came to its end is in just one event if and only if no call in which a rule
failed had run a tick to its end. The log has the ticks of all other calls. -/
theorem log_has_ticks_iff {l₀ l₁ : Lobby K τ} {fresh : Fresh} {o : SessionOptions K}
    {created : CreatedSession} (made : l₀.create fresh o = (.ok created, l₁))
    (new : l₀.store.eventsOf fresh.session = []) (keeps : l₀.game.registry.KeepsTick)
    (calls : List (Call K))
    (stored : ∀ t ∈ l₁.trail fresh.session calls, ∀ cause, t.answer ≠ .error (.storeFailed cause)) :
    (((l₁.run calls).store.eventsOf fresh.session).flatMap (·.ticks)).Pairwise (· < ·) ∧
      ((l₁.run calls).store.eventsOf fresh.session).flatMap (·.ticks) =
        ((l₁.trail fresh.session calls).filter (!·.ruleFailed)).flatMap (·.ran) ∧
      ((∀ t ∈ l₁.trail fresh.session calls, ∀ n ∈ t.ran,
          (((l₁.run calls).store.eventsOf fresh.session).filter fun e => n ∈ e.ticks).length = 1) ↔
        ∀ t ∈ l₁.trail fresh.session calls, t.ruleFailed = true → t.ran = []) := by
  obtain ⟨p, s, r, opened⟩ := create_ok made
  have starts := Simulation.new_ok opened.simulation
  have registry : r.session.simulation.rules.registry = l₀.game.registry := by
    rw [opened.session]
    exact starts.registry
  obtain ⟨log, sorted, -⟩ := run_ticks calls opened.room (registry.symm ▸ keeps) stored
  rw [opened.filed, new] at log
  simp only [List.nil_append, List.flatMap_cons, List.flatMap_nil, SessionEvent.ticks_row,
    SessionEvent.ticks] at log
  have distinct := sorted.imp Nat.ne_of_lt
  have increases : (((l₁.run calls).store.eventsOf fresh.session).flatMap (·.ticks)).Pairwise
      (· < ·) := by
    rw [log]
    exact sorted.sublist ((List.filter_sublist (l := l₁.trail fresh.session calls)).flatMap (·.ran))
  refine ⟨increases, log, ?_, ?_⟩
  · -- A tick of a call that failed would be in an event, and so in another call.
    intro once t ht failed
    by_contra some
    obtain ⟨n, hn⟩ := List.exists_mem_of_ne_nil _ some
    obtain ⟨e, he⟩ := List.length_pos_iff_exists_mem.1 ((once t ht n hn).symm ▸ Nat.one_pos)
    obtain ⟨mem, told⟩ := List.mem_filter.1 he
    have logged := List.mem_flatMap.2 ⟨e, mem, of_decide_eq_true told⟩
    rw [log] at logged
    exact not_mem_flatMap_filter distinct ht (by simp [failed]) hn logged
  · -- Only calls without failure have ticks, and these are filed.
    intro none t ht n hn
    refine length_filter_mem (increases.imp Nat.ne_of_lt) ?_
    rw [log]
    have ok : (!t.ruleFailed) = true := by
      by_contra failed
      rw [none t ht (by simpa using failed)] at hn
      cases hn
    exact List.mem_flatMap.2 ⟨t, List.mem_filter.2 ⟨ht, ok⟩, hn⟩

/-! ### Ticks that are not in the log -/

namespace Boom

/-- A role takes its turns, with a tool. -/
def scene : Scene Rat :=
  { Scene.default with
    roles := [{ id := "a", kind := .human, required := true, camera := none, ui := none,
                serverFields := ∅, localFields := ∅ }]
    tools := [{ name := "boom", description := "", parameters := .null, roles := none }]
    rules := [⟨.tool "boom" .on, "boom"⟩]
    multiplayer := { Multiplayer.default with defaultLoop := .strictTurn, tickRate := 1 } }

/-- The action of the tool fails. -/
def registry : Registry Rat Empty :=
  { actions := Table.ofList [("boom", fun _ s => (.error "no", s))]
    resume := fun t => nomatch t }

/-- A lobby without sessions. -/
def lobby : Lobby Rat Empty := { game := ⟨scene, registry⟩ }

/-- The names of the session. -/
def fresh : Fresh :=
  { session := "x", adminToken := "t", roleToken := fun role => role, invite := fun role => role
    seed := fun _ => "s" }

/-- A tick that is well, and a pass whose second tick fails. -/
def calls : List (Call Rat) :=
  [.submit "x" (.role "a") [.noop] true,
    .submit "x" (.role "a") [.noop, .tool "boom" .null] true]

theorem registry_keepsTick : registry.KeepsTick :=
  Registry.respects_of_action rfl fun _ _ => rfl

/-- What the calls did and what is in the log. -/
def works : Bool :=
  match lobby.create fresh {} with
  | (.error _, _) => false
  | (.ok _, l) =>
    ((l.trail "x" calls).map fun t => (t.ruleFailed, t.ran)) == [(false, [1]), (true, [2])] &&
    ((l.trail "x" calls).all fun t => match t.answer with
      | .error (.storeFailed _) => false
      | _ => true) &&
    ((l.run calls).store.eventsOf "x").flatMap (·.ticks) == [1]

/-- The calls of the session, all of them taken by the store. -/
structure Run (l : Lobby Rat Empty) (created : CreatedSession) : Prop where
  made : lobby.create fresh {} = (.ok created, l)
  trail : ((l.trail "x" calls).map fun t => (t.ruleFailed, t.ran)) = [(false, [1]), (true, [2])]
  stored : ∀ t ∈ l.trail "x" calls, ∀ cause, t.answer ≠ .error (.storeFailed cause)
  log : ((l.run calls).store.eventsOf "x").flatMap (·.ticks) = [1]

theorem exists_run : ∃ l created, Run l created := by
  have works : works = true := by cbv
  unfold Boom.works at works
  split at works
  · cases works
  · rename_i created l made
    simp only [Bool.and_eq_true, beq_iff_eq, List.all_eq_true] at works
    obtain ⟨⟨trail, stored⟩, log⟩ := works
    refine ⟨l, created, made, trail, fun t ht cause failed => ?_, log⟩
    have := stored t ht
    rw [failed] at this
    cases this

/-- The second pass ran a tick before a rule failed. -/
theorem Run.lost {l : Lobby Rat Empty} {created : CreatedSession} (run : Run l created) :
    ∃ t ∈ l.trail "x" calls, t.ruleFailed = true ∧ t.ran = [2] := by
  have mem : (true, [2]) ∈ (l.trail "x" calls).map fun t => (t.ruleFailed, t.ran) := by
    rw [run.trail]
    simp
  obtain ⟨t, ht, same⟩ := List.mem_map.1 mem
  cases t
  simp only [Prod.mk.injEq] at same
  exact ⟨_, ht, same⟩

end Boom

/-- A tick is missing in the log of a session, and a call in which a rule failed had run it. -/
theorem boom_loses_a_tick : ∃ (l : Lobby Rat Empty) (created : CreatedSession),
    Boom.lobby.create Boom.fresh {} = (.ok created, l) ∧
      ((l.run Boom.calls).store.eventsOf "x").flatMap (·.ticks) = [1] ∧
      ¬∀ t ∈ l.trail "x" Boom.calls, ∀ n ∈ t.ran,
        (((l.run Boom.calls).store.eventsOf "x").filter fun e => n ∈ e.ticks).length = 1 := by
  obtain ⟨l, created, run⟩ := Boom.exists_run
  obtain ⟨t, ht, failed, ran⟩ := run.lost
  obtain ⟨-, -, once⟩ :=
    log_has_ticks_iff run.made rfl Boom.registry_keepsTick Boom.calls run.stored
  refine ⟨l, created, run.made, run.log, fun all => ?_⟩
  have none := once.1 all t ht failed
  rw [ran] at none
  cases none

/-- So the log of a session may lack a tick. -/
theorem not_all_ticks_logged :
    ¬∀ (l₀ l₁ : Lobby Rat Empty) (fresh : Fresh) (o : SessionOptions Rat) (created : CreatedSession)
      (calls : List (Call Rat)),
      l₀.create fresh o = (.ok created, l₁) → l₀.store.eventsOf fresh.session = [] →
      l₀.game.registry.KeepsTick →
      (∀ t ∈ l₁.trail fresh.session calls, ∀ cause, t.answer ≠ .error (.storeFailed cause)) →
      (((l₁.run calls).store.eventsOf fresh.session).flatMap (·.ticks)).Pairwise (· < ·) ∧
        ∀ t ∈ l₁.trail fresh.session calls, ∀ n ∈ t.ran,
          (((l₁.run calls).store.eventsOf fresh.session).filter
            fun e => n ∈ e.ticks).length = 1 := by
  intro claimed
  obtain ⟨l, created, run⟩ := Boom.exists_run
  obtain ⟨t, ht, -, ran⟩ := run.lost
  have once := (claimed _ l Boom.fresh {} created Boom.calls run.made rfl Boom.registry_keepsTick
    run.stored).2 t ht 2 (by simp [ran])
  obtain ⟨e, he⟩ := List.length_pos_iff_exists_mem.1 (once.symm ▸ Nat.one_pos)
  obtain ⟨mem, told⟩ := List.mem_filter.1 he
  have logged := List.mem_flatMap.2 ⟨e, mem, of_decide_eq_true told⟩
  rw [show Boom.fresh.session = "x" from rfl, run.log] at logged
  simp at logged

end Lobby

end Playfield
