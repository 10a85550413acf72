import Playfield.Proofs.Rule.Calls

/-!
# Tasks in a step

A step resumes the tasks that earlier steps have left, before it looks at a rule.

* `step_of_chain`: where all tasks go well, the rules are applied to the engine in which each task
  has been resumed once.
* `step_of_failure`: where one fails, the step ends with it, and the tasks behind it wait.
* `tasks_are_resumed_once`: both together, with the tasks that the rules leave behind.
-/

namespace Playfield.RuleEngine

variable {K τ : Type} [Scalar K] {e : RuleEngine K τ} {done : List (RunningTask K τ × Option τ)}
  {s s' : Stage K}

theorem step_of_chain (chain : Chain (e.registry.advance e.dt) e.stage done s)
    (all : done.map Prod.fst = e.tasks) (frame : InputFrame K) (before : Table String (Motion K)) :
    e.step frame before =
      match applyRules { e with tasks := unfinished done, stage := s } frame
        s.world.scene.rules.zipIdx with
      | (.error err, e') => (.error err, e')
      | (.ok fired, e') =>
        (.ok ⟨fired, finished done, e'.tasks.length⟩, e'.modifyWorld (·.propagate before)) := by
  have left := resumeTasks_of_chain chain
  rw [all] at left
  unfold step
  rw [left]
  rfl

theorem step_of_failure {t : RunningTask K τ} {later : List (RunningTask K τ)} {cause : String}
    (chain : Chain (e.registry.advance e.dt) e.stage done s)
    (all : e.tasks = done.map Prod.fst ++ t :: later)
    (fails : e.registry.advance e.dt t s = (.error cause, s')) (frame : InputFrame K)
    (before : Table String (Motion K)) :
    e.step frame before = (.error (.taskFailed t.action cause),
      { e with tasks := unfinished done ++ later, stage := s' }) := by
  have left := resumeTasks_of_failure chain fails later
  rw [← all] at left
  unfold step
  rw [left]

/-- All tasks go well in a step, or one is the first to fail. If all go well, each is resumed once
in its turn on what the one before has left, and the rules are applied to what the last one has
left. Finished tasks are gone and counted, the others keep their order, and those that the actions
of the rules leave behind come after them as they were left. If a task fails, it is gone, those
before it have been resumed and those behind it have not, and the step ends there. -/
theorem tasks_are_resumed_once (e : RuleEngine K τ) (frame : InputFrame K)
    (before : Table String (Motion K)) :
    ((∃ done s, Chain (e.registry.advance e.dt) e.stage done s ∧ done.map Prod.fst = e.tasks) ∨
      ∃ done t later s cause s', Chain (e.registry.advance e.dt) e.stage done s ∧
        e.tasks = done.map Prod.fst ++ t :: later ∧
        e.registry.advance e.dt t s = (.error cause, s')) ∧
    (∀ done s, Chain (e.registry.advance e.dt) e.stage done s → done.map Prod.fst = e.tasks →
      e.step frame before =
        (match applyRules { e with tasks := unfinished done, stage := s } frame
          s.world.scene.rules.zipIdx with
        | (.error err, e') => (.error err, e')
        | (.ok fired, e') =>
          (.ok ⟨fired, finished done, e'.tasks.length⟩, e'.modifyWorld (·.propagate before))) ∧
      ∃ made s', Chain (e.registry.call e.dt) s made s' ∧
        (e.step frame before).2.tasks = unfinished done ++ started made ∧
        match (e.step frame before).1 with
        | .ok report => report.completed = finished done ∧
            report.fired = made.map (·.1.fired) ∧
            (e.step frame before).2.stage = { s' with world := s'.world.propagate before }
        | .error err =>
            ∃ c, e.registry.call e.dt c s' = (.error err, (e.step frame before).2.stage)) ∧
    ∀ done t later s cause s', Chain (e.registry.advance e.dt) e.stage done s →
      e.tasks = done.map Prod.fst ++ t :: later →
      e.registry.advance e.dt t s = (.error cause, s') →
      e.step frame before = (.error (.taskFailed t.action cause),
        { e with tasks := unfinished done ++ later, stage := s' }) := by
  refine ⟨Chain.total _ e.tasks e.stage, fun done s chain all => ?_,
    fun done t later s cause s' chain all fails => step_of_failure chain all fails frame before⟩
  have step := step_of_chain chain all frame before
  refine ⟨step, ?_⟩
  rw [step]
  have calls := made_applyRules { e with tasks := unfinished done, stage := s } frame
    s.world.scene.rules.zipIdx
  generalize applyRules _ frame _ = applied at calls
  cases calls with
  | well made calls chain' keeps tasks =>
    refine ⟨made, _, chain', tasks, rfl, ?_, rfl⟩
    rw [← calls, List.map_map]
    rfl
  | @stopped made c rest s' err e' calls chain' fails keeps tasks =>
    exact ⟨made, s', chain', tasks, c, fails⟩

end Playfield.RuleEngine
