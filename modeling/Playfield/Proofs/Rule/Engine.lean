import Playfield.Proofs.Table
import Playfield.Rule.Engine

/-!
# What the rules do in a step

A step of the rules is made of calls of the host's functions, and of the motion along attachments
when these are done.

* `Registry.Respects R`: every function of the registry leaves a world that `R` relates to the one
  it found. With one action and no tasks only the action has to (`respects_of_action`).
* `RuleEngine.act` is the part of the calls; `step_eq_act` puts the step together.
* `act_respects`: a relation between worlds that every function of the registry respects, and that
  can be composed, holds between the world before all calls and the world after them. Registry and
  length of a tick stay (`act_keeps`).
-/

namespace Playfield

variable {K τ : Type}

/-- Every function of the registry leaves a world that is related to the one it found. -/
structure Registry.Respects (r : Registry K τ) (R : World K → World K → Prop) : Prop where
  action : ∀ name run, r.actions.get? name = some run → ∀ t s, R s.world (run t s).2.world
  resume : ∀ task t s, R s.world (r.resume task t s).2.world

/-- No function of the registry touches the tick counter. -/
def Registry.KeepsTick (r : Registry K τ) : Prop := r.Respects fun w w' => w'.tick = w.tick

/-- No function of the registry puts another scene in the place of the world's. -/
def Registry.KeepsScene (r : Registry K τ) : Prop := r.Respects fun w w' => w'.scene = w.scene

/-- Any two worlds are related in some way. -/
theorem Registry.respects_true (r : Registry K τ) : r.Respects fun _ _ => True :=
  ⟨fun _ _ _ _ _ => trivial, fun _ _ _ => trivial⟩

/-- Where there is one action and are no tasks, only the action matters. -/
theorem Registry.respects_of_action {r : Registry K Empty} {R : World K → World K → Prop}
    {name : String} {run : Run K (Outcome Empty)} (actions : r.actions = Table.ofList [(name, run)])
    (action : ∀ t s, R s.world (run t s).2.world) : r.Respects R where
  action name' run' found t s := by
    rw [actions, Table.ofList, Table.insertAll_cons, Table.insertAll_nil, Table.get?_insert]
      at found
    split at found
    · cases found
      exact action t s
    · cases found
  resume t := nomatch t

namespace RuleEngine

variable {e : RuleEngine K τ} {frame : InputFrame K} {R : World K → World K → Prop}

/-- The calls of a step: tasks are resumed and rules applied. -/
def act (e : RuleEngine K τ) (frame : InputFrame K) :
    Except RuleError RuleReport × RuleEngine K τ :=
  match resumeTasks e.registry e.dt e.tasks e.stage with
  | (.error err, tasks, stage) => (.error err, { e with tasks, stage })
  | (.ok completed, tasks, stage) =>
    let e := { e with tasks, stage }
    match e.applyRules frame e.world.scene.rules.zipIdx with
    | (.error err, e) => (.error err, e)
    | (.ok fired, e) => (.ok ⟨fired, completed, e.tasks.length⟩, e)

/-- A step is its calls, and motion along attachments if all went well. -/
theorem step_eq_act [Scalar K] (before : Table String (Motion K)) : e.step frame before =
    match e.act frame with
    | (.error err, e) => (.error err, e)
    | (.ok report, e) => (.ok report, e.modifyWorld (·.propagate before)) := by
  unfold step act
  rcases resumeTasks e.registry e.dt e.tasks e.stage with ⟨_ | completed, tasks, stage⟩
  · rfl
  · simp only
    rcases applyRules _ frame _ with ⟨_ | fired, e'⟩ <;> rfl

/-- Only the calls themselves can change what the engine is made of. -/
structure Keeps (e e' : RuleEngine K τ) : Prop where
  registry : e'.registry = e.registry
  dt : e'.dt = e.dt

theorem Keeps.trans {e e' e'' : RuleEngine K τ} (h : e.Keeps e') (h' : e'.Keeps e'') :
    e.Keeps e'' :=
  ⟨h'.registry.trans h.registry, h'.dt.trans h.dt⟩

theorem bindings_keeps (e : RuleEngine K τ) (frame : InputFrame K) (index : Nat) (c : Condition) :
    e.Keeps (e.bindings frame index c).2 ∧ (e.bindings frame index c).2.world = e.world := by
  unfold bindings
  cases c with
  | logical predicate type phase =>
    simp only
    split <;> exact ⟨⟨rfl, rfl⟩, rfl⟩
  | _ => exact ⟨⟨rfl, rfl⟩, rfl⟩

theorem invoke_keeps (e : RuleEngine K τ) (action : String) (b : Binding K) :
    e.Keeps (e.invoke action b).2 := by
  unfold invoke
  split
  · exact ⟨rfl, rfl⟩
  · split <;> exact ⟨rfl, rfl⟩

theorem invoke_respects (h : e.registry.Respects R) (refl : ∀ w, R w w) (action : String)
    (b : Binding K) : R e.world (e.invoke action b).2.world := by
  unfold invoke
  cases found : e.registry.actions.get? action with
  | none => exact refl _
  | some run =>
    have called := h.action action run found ⟨b, e.dt⟩ e.stage
    simp only
    split <;> rename_i stage eq <;> rw [eq] at called <;> exact called

section Calls

variable (refl : ∀ w, R w w) (trans : ∀ w w' w'', R w w' → R w' w'' → R w w'')
include refl trans

theorem invokeAll_respects (h : e.registry.Respects R) (action : String) (bs : List (Binding K)) :
    e.Keeps (e.invokeAll action bs).2 ∧ R e.world (e.invokeAll action bs).2.world := by
  induction bs generalizing e with
  | nil => exact ⟨⟨rfl, rfl⟩, refl _⟩
  | cons b rest ih =>
    have keeps := e.invoke_keeps action b
    have called := invoke_respects h refl action b
    unfold invokeAll
    split
    · rename_i err e' eq
      rw [eq] at keeps called
      exact ⟨keeps, called⟩
    · rename_i e' eq
      rw [eq] at keeps called
      obtain ⟨keeps', called'⟩ := ih (keeps.registry ▸ h)
      exact ⟨keeps.trans keeps', trans _ _ _ called called'⟩

theorem applyRules_respects (e : RuleEngine K τ) (frame : InputFrame K)
    (h : e.registry.Respects R) (rules : List (Rule × Nat)) :
    e.Keeps (e.applyRules frame rules).2 ∧ R e.world (e.applyRules frame rules).2.world := by
  induction rules generalizing e with
  | nil => exact ⟨⟨rfl, rfl⟩, refl _⟩
  | cons entry rest ih =>
    obtain ⟨rule, index⟩ := entry
    obtain ⟨keeps, same⟩ := e.bindings_keeps frame index rule.condition
    unfold applyRules
    simp only
    generalize e.bindings frame index rule.condition = bound at keeps same ⊢
    obtain ⟨keeps', called⟩ :=
      invokeAll_respects refl trans (keeps.registry ▸ h) rule.action bound.1
    rw [same] at called
    split
    · rename_i err e' eq
      rw [eq] at keeps' called
      exact ⟨keeps.trans keeps', called⟩
    · rename_i fired e' eq
      rw [eq] at keeps' called
      obtain ⟨keeps'', later⟩ := ih e' ((keeps.trans keeps').registry ▸ h)
      exact ⟨(keeps.trans keeps').trans keeps'', trans _ _ _ called later⟩

theorem resumeTasks_respects {r : Registry K τ} (h : r.Respects R) (dt : K)
    (tasks : List (RunningTask K τ)) (s : Stage K) :
    R s.world (resumeTasks r dt tasks s).2.2.world := by
  induction tasks generalizing s with
  | nil => exact refl _
  | cons t rest ih =>
    have resumed := h.resume t.task ⟨t.binding, dt⟩ s
    unfold resumeTasks
    split
    · rename_i eq
      rw [eq] at resumed
      exact resumed
    · rename_i left s' eq
      rw [eq] at resumed
      have later := trans _ _ _ resumed (ih s')
      simp only
      split <;> exact later

/-- What every function of the registry respects holds across all calls of a step. -/
theorem act_respects (h : e.registry.Respects R) :
    e.Keeps (e.act frame).2 ∧ R e.world (e.act frame).2.world := by
  have resumed := resumeTasks_respects refl trans h e.dt e.tasks e.stage
  unfold act
  split
  · rename_i err tasks stage eq
    rw [eq] at resumed
    exact ⟨⟨rfl, rfl⟩, resumed⟩
  · rename_i completed tasks stage eq
    rw [eq] at resumed
    have applied := applyRules_respects refl trans { e with tasks, stage } frame h
      (RuleEngine.world { e with tasks, stage }).scene.rules.zipIdx
    simp only
    split
    · rename_i err e' eq'
      rw [eq'] at applied
      exact ⟨⟨applied.1.registry, applied.1.dt⟩, trans _ _ _ resumed applied.2⟩
    · rename_i fired e' eq'
      rw [eq'] at applied
      exact ⟨⟨applied.1.registry, applied.1.dt⟩, trans _ _ _ resumed applied.2⟩

end Calls

/-! ### What no call changes -/

theorem invokeAll_keeps (e : RuleEngine K τ) (action : String) (bs : List (Binding K)) :
    e.Keeps (e.invokeAll action bs).2 :=
  (invokeAll_respects (fun _ => trivial) (fun _ _ _ _ _ => trivial) e.registry.respects_true action
    bs).1

theorem applyRules_keeps (e : RuleEngine K τ) (frame : InputFrame K) (rules : List (Rule × Nat)) :
    e.Keeps (e.applyRules frame rules).2 :=
  (applyRules_respects (fun _ => trivial) (fun _ _ _ _ _ => trivial) e frame
    e.registry.respects_true rules).1

theorem act_keeps (e : RuleEngine K τ) (frame : InputFrame K) : e.Keeps (e.act frame).2 :=
  (act_respects (fun _ => trivial) (fun _ _ _ _ _ => trivial) e.registry.respects_true).1

end RuleEngine

end Playfield
