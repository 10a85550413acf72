import Playfield.Proofs.Rule.Dispatch

/-!
# Calls one after another

A step calls functions of the host one after another, each on the stage that the one before has
left.

* `Chain` holds of calls that go well; `Chain.total`: calls go well, or one of them is the first to
  fail.
* `Registry.advance` resumes a task. `resumeTasks_append` tells what becomes of the tasks of a chain
  and of those behind them.
* `Registry.call` calls an action. `RuleEngine.Made` tells what calls come to, and what is left of
  them when one fails.
* `RuleEngine.firings`: the bindings under which the rule at a position fires in a step. All in
  their order are the calls of the step (`made_calls`, `step_ok`).
-/

namespace Playfield

variable {K τ : Type}

/-- Calls that go well, each on the stage that the one before it has left, with their results. -/
inductive Chain {α β ε : Type} (call : α → Stage K → Except ε β × Stage K) :
    Stage K → List (α × β) → Stage K → Prop
  | nil (s : Stage K) : Chain call s [] s
  | cons {a : α} {b : β} {s s' s'' : Stage K} {rest : List (α × β)}
    (well : call a s = (.ok b, s')) (later : Chain call s' rest s'') :
    Chain call s ((a, b) :: rest) s''

namespace Chain

variable {α β ε : Type} {call : α → Stage K → Except ε β × Stage K} {s s' s'' : Stage K}
  {done done' : List (α × β)}

theorem append (h : Chain call s done s') (h' : Chain call s' done' s'') :
    Chain call s (done ++ done') s'' := by
  induction h with
  | nil => exact h'
  | cons well _ ih => exact .cons well (ih h')

/-- All calls of a list go well, or one is the first to fail. -/
theorem total (call : α → Stage K → Except ε β × Stage K) (l : List α) (s : Stage K) :
    (∃ done s', Chain call s done s' ∧ done.map Prod.fst = l) ∨
      ∃ done a later s' err s'', Chain call s done s' ∧ l = done.map Prod.fst ++ a :: later ∧
        call a s' = (.error err, s'') := by
  induction l generalizing s with
  | nil => exact .inl ⟨[], s, .nil s, rfl⟩
  | cons a rest ih =>
    rcases called : call a s with ⟨err | b, s'⟩
    · exact .inr ⟨[], a, rest, s, err, s', .nil s, rfl, called⟩
    · rcases ih s' with ⟨done, s'', chain, rfl⟩ | ⟨done, a', later, s'', err, s₃, chain, rfl, fails⟩
      · exact .inl ⟨(a, b) :: done, s'', .cons called chain, rfl⟩
      · exact .inr ⟨(a, b) :: done, a', later, s'', err, s₃, .cons called chain, rfl, fails⟩

end Chain

/-! ### Tasks -/

/-- Resumes a task. -/
def Registry.advance (r : Registry K τ) (dt : K) (t : RunningTask K τ) (s : Stage K) :
    Except String (Option τ) × Stage K :=
  r.resume t.task ⟨t.binding, dt⟩ s

/-- The tasks that still run after they were resumed. -/
def unfinished (done : List (RunningTask K τ × Option τ)) : List (RunningTask K τ) :=
  done.filterMap fun (t, left) => left.map ({ t with task := · })

/-- The number of tasks that were finished when they were resumed. -/
def finished (done : List (RunningTask K τ × Option τ)) : Nat := done.countP (·.2.isNone)

section Tasks

variable {r : Registry K τ} {dt : K} {s s' s'' : Stage K}
  {done : List (RunningTask K τ × Option τ)} {t : RunningTask K τ}

theorem resumeTasks_append (chain : Chain (r.advance dt) s done s')
    (later : List (RunningTask K τ)) :
    resumeTasks r dt (done.map Prod.fst ++ later) s =
      ((resumeTasks r dt later s').1.map (finished done + ·),
        unfinished done ++ (resumeTasks r dt later s').2.1, (resumeTasks r dt later s').2.2) := by
  induction chain with
  | nil s =>
    rw [List.map_nil, List.nil_append]
    rcases resumeTasks r dt later s with ⟨_ | n, rest, s'⟩ <;>
      simp [finished, unfinished, Except.map]
  | @cons t left s s' s'' rest well chain ih =>
    rw [Registry.advance] at well
    rw [List.map_cons, List.cons_append, resumeTasks, well]
    simp only
    rw [ih]
    rcases resumeTasks r dt later s'' with ⟨_ | n, rest', s₃⟩ <;> cases left <;>
      simp [finished, unfinished, Except.map, Nat.add_right_comm]

theorem resumeTasks_of_chain (chain : Chain (r.advance dt) s done s') :
    resumeTasks r dt (done.map Prod.fst) s = (.ok (finished done), unfinished done, s') := by
  have all := resumeTasks_append chain []
  rwa [List.append_nil, resumeTasks, List.append_nil] at all

theorem resumeTasks_of_failure (chain : Chain (r.advance dt) s done s') {cause : String}
    (fails : r.advance dt t s' = (.error cause, s'')) (later : List (RunningTask K τ)) :
    resumeTasks r dt (done.map Prod.fst ++ t :: later) s =
      (.error (.taskFailed t.action cause), unfinished done ++ later, s'') := by
  rw [Registry.advance] at fails
  rw [resumeTasks_append chain, resumeTasks, fails]
  rfl

end Tasks

/-! ### Actions -/

/-- The call of an action for a binding. -/
structure Call (K : Type) where
  action : String
  binding : Binding K

/-- The call as it is reported. -/
def Call.fired (c : Call K) : Fired := ⟨c.binding.rule, c.action⟩

/-- Calls an action. -/
def Registry.call (r : Registry K τ) (dt : K) (c : Call K) (s : Stage K) :
    Except RuleError (Outcome τ) × Stage K :=
  match r.actions.get? c.action with
  | none => (.error (.unregistered c.action), s)
  | some run =>
    match run ⟨c.binding, dt⟩ s with
    | (.error cause, s) => (.error (.actionFailed c.action cause), s)
    | (.ok outcome, s) => (.ok outcome, s)

/-- The tasks that calls have left behind. -/
def started (made : List (Call K × Outcome τ)) : List (RunningTask K τ) :=
  made.filterMap fun (c, outcome) =>
    match outcome with
    | .done => none
    | .resume task => some ⟨c.action, c.binding, task⟩

namespace RuleEngine

variable {e e' : RuleEngine K τ} {frame : InputFrame K} {cs cs' : List (Call K)}

/-- What calls come to: all go well, or the first that fails ends them. Tasks that they leave behind
come after the others. -/
inductive Made (e : RuleEngine K τ) (cs : List (Call K)) :
    Except RuleError (List Fired) × RuleEngine K τ → Prop
  | well (made : List (Call K × Outcome τ)) {e' : RuleEngine K τ} (calls : made.map Prod.fst = cs)
    (chain : Chain (e.registry.call e.dt) e.stage made e'.stage) (keeps : e.Keeps e')
    (tasks : e'.tasks = e.tasks ++ started made) : Made e cs (.ok (cs.map Call.fired), e')
  | stopped (made : List (Call K × Outcome τ)) {c : Call K} (rest : List (Call K)) {s : Stage K}
    {err : RuleError} {e' : RuleEngine K τ} (calls : made.map Prod.fst ++ c :: rest = cs)
    (chain : Chain (e.registry.call e.dt) e.stage made s)
    (fails : e.registry.call e.dt c s = (.error err, e'.stage)) (keeps : e.Keeps e')
    (tasks : e'.tasks = e.tasks ++ started made) : Made e cs (.error err, e')

theorem Made.nil (e : RuleEngine K τ) : e.Made [] (.ok [], e) :=
  .well [] rfl (.nil _) ⟨rfl, rfl⟩ (List.append_nil _).symm

/-- Calls after others that went well. -/
theorem Made.append {fired : List Fired} {r : Except RuleError (List Fired) × RuleEngine K τ}
    (first : e.Made cs (.ok fired, e')) (later : e'.Made cs' r) :
    e.Made (cs ++ cs') (r.1.map (fired ++ ·), r.2) := by
  cases first with
  | well made calls chain keeps tasks =>
    cases later with
    | well made' calls' chain' keeps' tasks' =>
      rw [keeps.registry, keeps.dt] at chain'
      rw [show Except.map (cs.map Call.fired ++ ·) (.ok (cs'.map Call.fired)) =
        (.ok ((cs ++ cs').map Call.fired) : Except RuleError _) by simp [Except.map]]
      refine .well (made ++ made') ?_ (chain.append chain') (keeps.trans keeps') ?_
      · rw [List.map_append, calls, calls']
      · rw [tasks', tasks, started, started, started, List.filterMap_append, List.append_assoc]
    | stopped made' rest calls' chain' fails keeps' tasks' =>
      rw [keeps.registry, keeps.dt] at chain' fails
      refine .stopped (made ++ made') rest ?_ (chain.append chain') fails (keeps.trans keeps') ?_
      · rw [List.map_append, List.append_assoc, calls, calls']
      · rw [tasks', tasks, started, started, started, List.filterMap_append, List.append_assoc]

/-- Calls that would have come after the one that failed. -/
theorem Made.of_error {err : RuleError} (h : e.Made cs (.error err, e')) (cs' : List (Call K)) :
    e.Made (cs ++ cs') (.error err, e') := by
  cases h with
  | stopped made rest calls chain fails keeps tasks =>
    refine .stopped made (rest ++ cs') ?_ chain fails keeps tasks
    rw [← calls, List.append_assoc, List.cons_append]

theorem made_invoke (e : RuleEngine K τ) (action : String) (b : Binding K) :
    e.Made [⟨action, b⟩]
      ((e.invoke action b).1.map fun _ => [⟨b.rule, action⟩], (e.invoke action b).2) := by
  have keeps := e.invoke_keeps action b
  rcases called : e.registry.call e.dt ⟨action, b⟩ e.stage with ⟨err | outcome, s⟩
  · have eq : e.invoke action b = (.error err, { e with stage := s }) := by
      unfold Registry.call at called
      unfold invoke
      split at called
      · cases called
        rename_i absent
        simp only [absent]
      · rename_i run found
        simp only [found]
        split at called <;> cases called
        rename_i failed
        simp only [failed]
    rw [eq] at keeps ⊢
    exact .stopped [] [] rfl (.nil _) called keeps (List.append_nil _).symm
  · have eq : e.invoke action b = (.ok (),
        { e with stage := s, tasks := e.tasks ++ started [(⟨action, b⟩, outcome)] }) := by
      unfold Registry.call at called
      unfold invoke
      split at called
      · cases called
      · rename_i run found
        simp only [found]
        split at called <;> cases called
        rename_i well
        cases outcome <;> simp [well, started]
    rw [eq] at keeps ⊢
    exact .well [(⟨action, b⟩, outcome)] rfl (.cons called (.nil _)) keeps rfl

theorem made_invokeAll (e : RuleEngine K τ) (action : String) (bs : List (Binding K)) :
    e.Made (bs.map (⟨action, ·⟩)) (e.invokeAll action bs) := by
  induction bs generalizing e with
  | nil => exact .nil e
  | cons b rest ih =>
    have first := e.made_invoke action b
    rw [List.map_cons, ← List.singleton_append, invokeAll]
    generalize e.invoke action b = invoked at first ⊢
    rcases invoked with ⟨err | ⟨⟩, e'⟩
    · exact first.of_error _
    · exact first.append (ih e')

/-- Looking for bindings changes nothing but the memory. -/
theorem bindings_eq (e : RuleEngine K τ) (frame : InputFrame K) (index : Nat) (c : Condition) :
    (e.bindings frame index c).2 = { e with memory := (e.bindings frame index c).2.memory } := by
  unfold bindings
  cases c with
  | logical predicate type phase =>
    simp only
    split <;> rfl
  | _ => rfl

theorem Made.of_memory {memory : List Bool}
    {r : Except RuleError (List Fired) × RuleEngine K τ} (h : Made { e with memory } cs r) :
    e.Made cs r := by
  cases h with
  | well made calls chain keeps tasks =>
    exact .well made calls chain ⟨keeps.registry, keeps.dt⟩ tasks
  | stopped made rest calls chain fails keeps tasks =>
    exact .stopped made rest calls chain fails ⟨keeps.registry, keeps.dt⟩ tasks

/-- The calls of the rule at a position, when the rules before it have been applied. -/
def callsAt (e : RuleEngine K τ) (frame : InputFrame K) (rules : List (Rule × Nat)) (i : Nat)
    (entry : Rule × Nat) : List (Call K) :=
  ((e.applyRules frame (rules.take i)).2.bindings frame entry.2 entry.1.condition).1.map
    (⟨entry.1.action, ·⟩)

/-- A pass over rules makes the calls of each, in the order of the rules. -/
theorem made_applyRules (e : RuleEngine K τ) (frame : InputFrame K) (rules : List (Rule × Nat)) :
    e.Made (rules.mapIdx (e.callsAt frame rules)).flatten (e.applyRules frame rules) := by
  induction rules generalizing e with
  | nil => exact .nil e
  | cons entry rest ih =>
    obtain ⟨rule, index⟩ := entry
    have only := e.bindings_eq frame index rule.condition
    have called := made_invokeAll (e.bindings frame index rule.condition).2 rule.action
      (e.bindings frame index rule.condition).1
    rw [only] at called
    have first := called.of_memory
    rw [← only] at first
    rw [List.mapIdx_cons, List.flatten_cons, applyRules]
    have head : e.callsAt frame ((rule, index) :: rest) 0 (rule, index) =
      (e.bindings frame index rule.condition).1.map (⟨rule.action, ·⟩) := rfl
    rw [head]
    simp only
    rcases eq : (e.bindings frame index rule.condition).2.invokeAll rule.action
      (e.bindings frame index rule.condition).1 with ⟨err | fired, e'⟩
    · rw [eq] at first
      exact first.of_error _
    · rw [eq] at first
      -- Later rules are looked at by the engine that the first one has left.
      have tail : (fun i => e.callsAt frame ((rule, index) :: rest) (i + 1)) =
          e'.callsAt frame rest := by
        funext i entry
        rw [callsAt, callsAt, List.take_succ_cons, applyRules]
        simp only
        rw [eq]
      rw [tail]
      exact first.append (ih e')

/-! ### The calls of a step -/

/-- The rules that a step goes through: those of the scene that the tasks have left. -/
def rules (e : RuleEngine K τ) : List Rule := e.resumed.world.scene.rules

/-- The bindings under which the rule at a position fires in a step that comes to it. -/
def firings (e : RuleEngine K τ) (frame : InputFrame K) (i : Nat) : List (Binding K) :=
  match e.rules[i]? with
  | none => []
  | some rule => ((e.facing frame i).bindings frame i rule.condition).1

/-- The calls of a step in which none fails, rule by rule. -/
def calls (e : RuleEngine K τ) (frame : InputFrame K) : List (Call K) :=
  e.rules.zipIdx.flatMap fun (rule, i) => (e.firings frame i).map (⟨rule.action, ·⟩)

theorem calls_eq (e : RuleEngine K τ) (frame : InputFrame K) :
    e.calls frame = (e.rules.zipIdx.mapIdx (e.resumed.callsAt frame e.rules.zipIdx)).flatten := by
  refine congrArg List.flatten (List.ext_getElem (by simp) fun i lt _ => ?_)
  rw [List.length_map, List.length_zipIdx] at lt
  simp only [List.getElem_map, List.getElem_mapIdx, List.getElem_zipIdx, firings, callsAt,
    List.getElem?_eq_getElem lt, Nat.zero_add]
  rfl

/-- A step whose tasks go well makes its calls. -/
theorem made_calls (e : RuleEngine K τ) (frame : InputFrame K) :
    e.resumed.Made (e.calls frame) (e.resumed.applyRules frame e.rules.zipIdx) :=
  e.calls_eq frame ▸ e.resumed.made_applyRules frame e.rules.zipIdx

/-- The bindings of a rule carry its position. -/
theorem rule_of_mem_bindings {index : Nat} {c : Condition} {b : Binding K}
    (mem : b ∈ (e.bindings frame index c).1) : b.rule = index := by
  have once {c : Bool} {bound : Binding K} (mem : b ∈ if c then [bound] else []) : b = bound := by
    cases c with
    | true => exact List.mem_singleton.1 mem
    | false => cases mem
  cases c with
  | keyboard name phase | mouse name phase => rw [once mem]
  | logical predicate type phase =>
    simp only [bindings] at mem
    split at mem
    · cases mem
    · rw [once mem]
  | _ =>
    obtain ⟨_, _, rfl⟩ := List.mem_map.1 mem
    rfl

theorem map_fired_calls (e : RuleEngine K τ) (frame : InputFrame K) :
    (e.calls frame).map Call.fired = e.rules.zipIdx.flatMap fun (rule, i) =>
      (e.firings frame i).map fun _ => ⟨i, rule.action⟩ := by
  rw [calls, List.map_flatMap]
  refine congrArg (List.flatMap · _) (funext fun (rule, i) => ?_)
  rw [List.map_map]
  refine List.map_congr_left fun b mem => ?_
  have carries : b.rule = i := by
    unfold firings at mem
    split at mem
    · cases mem
    · exact rule_of_mem_bindings mem
  rw [Function.comp_apply, Call.fired, carries]

/-- A step resumes tasks, goes through the rules and moves attached actors. -/
theorem step_eq_resumed [Scalar K] (e : RuleEngine K τ) (frame : InputFrame K)
    (before : Table String (Motion K)) : e.step frame before =
    match (resumeTasks e.registry e.dt e.tasks e.stage).1 with
    | .error err => (.error err, e.resumed)
    | .ok completed =>
      match e.resumed.applyRules frame e.rules.zipIdx with
      | (.error err, e') => (.error err, e')
      | (.ok fired, e') =>
        (.ok ⟨fired, completed, e'.tasks.length⟩, e'.modifyWorld (·.propagate before)) := by
  unfold step rules resumed
  rcases resumeTasks e.registry e.dt e.tasks e.stage with ⟨_ | completed, tasks, stage⟩ <;> rfl

/-- In a step that goes well all its calls go well, and all are reported. -/
theorem step_ok [Scalar K] {before : Table String (Motion K)} {report : RuleReport}
    (well : e.step frame before = (.ok report, e')) :
    ∃ made s, Chain (e.registry.call e.dt) e.resumed.stage made s ∧
      made.map Prod.fst = e.calls frame ∧ report.fired = (e.calls frame).map Call.fired ∧
      e'.stage = { s with world := s.world.propagate before } := by
  have calls := e.made_calls frame
  rw [step_eq_resumed] at well
  generalize e.resumed.applyRules frame e.rules.zipIdx = applied at calls well
  split at well
  · cases well
  · cases calls with
    | well made all chain keeps tasks =>
      cases well
      exact ⟨made, _, chain, all, rfl, rfl⟩
    | stopped => cases well

end RuleEngine

end Playfield
