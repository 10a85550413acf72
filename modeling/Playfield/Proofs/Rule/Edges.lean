import Mathlib.Data.List.Chain
import Playfield.Proofs.Rule.Calls
import Playfield.Proofs.World.Motion

/-!
# Edges of logical rules

A logical rule remembers whether its predicate held when it was last asked, and fires by that and by
whether it holds now.

* `Phase.edges`: where a list of truth values has edges. `Phase.byTurns`: those where something
  begins to hold and those where it ends come by turns.
* `Look`: what a step finds when it looks at a rule, and how the rule fires. `Look.AllFire`: looks
  one after another fire by what they find.
* `RuleEngine.comesTo`: nothing fails in a step before it looks at the rule at a position. Only then
  does it change what is remembered of the rule (`memory_of_comesTo`, `memory_of_not_comesTo`). A
  step that goes well comes to all rules (`comesTo_of_ok`).
* `RuleEngine.looks`: all looks at a rule in a run of steps, between which the world may be edited.
* `looks_spec`: how a rule fires in a run, from what was remembered before it.
  `logical_rules_fire_at_edges`: how it fires from the start of a scene on.
-/

namespace Playfield

/-! ### Edges of truth values -/

namespace Phase

/-- A rule is due, from the truth of its predicate now and when it was asked before. -/
def Due : Phase → Bool → Bool → Prop
  | .on, now, _ => now = true
  | .begin, now, before => now = true ∧ before = false
  | .finish, now, before => before = true ∧ now = false

theorem edge_iff_due {phase : Phase} {now before : Bool} :
    phase.edge now before = true ↔ phase.Due now before := by
  cases phase <;> cases now <;> cases before <;> simp [edge, Due]

/-- Where successive truth values have edges, after a first one. -/
def edges (phase : Phase) : Bool → List Bool → List Bool
  | _, [] => []
  | before, now :: later => phase.edge now before :: phase.edges now later

/-- Beginnings and ends at the same evaluations, in their order. -/
def marks (begins ends : List Bool) : List Phase :=
  (begins.zip ends).flatMap fun (b, e) =>
    (if b then [.begin] else []) ++ if e then [.finish] else []

/-- What holds at the end has begun once more often than it has ended. -/
theorem count_rises (before : Bool) (truths : List Bool) :
    (begin.edges before truths).count true + before.toNat =
      (finish.edges before truths).count true + (truths.getLastD before).toNat := by
  induction truths generalizing before with
  | nil => rfl
  | cons now later ih =>
    have := ih now
    rw [List.getLastD_cons, edges, edges, List.count_cons, List.count_cons]
    cases now <;> cases before <;> simp [edge] at this ⊢ <;> omega

/-- Beginnings and ends alternate, and what holds at first has to end first. -/
theorem alternating (before : Bool) (truths : List Bool) :
    (marks (begin.edges before truths) (finish.edges before truths)).IsChain (· ≠ ·) ∧
      ∀ mark ∈ (marks (begin.edges before truths) (finish.edges before truths)).head?,
        mark = if before then finish else begin := by
  induction truths generalizing before with
  | nil => exact ⟨.nil, nofun⟩
  | cons now later ih =>
    obtain ⟨chain, head⟩ := ih now
    have next (mark : Phase) (ne : mark ≠ if now then finish else begin) :
        (mark :: marks (begin.edges now later) (finish.edges now later)).IsChain (· ≠ ·) :=
      List.isChain_cons.2 ⟨fun y mem same => ne (same.trans (head y mem)), chain⟩
    cases now <;> cases before
    · exact ⟨chain, head⟩
    · exact ⟨next finish (by decide), fun mark mem => (Option.some.inj mem).symm⟩
    · exact ⟨next begin (by decide), fun mark mem => (Option.some.inj mem).symm⟩
    · exact ⟨chain, head⟩

/-- Beginnings and ends come by turns, a beginning first, and there is one more of them if something
holds at last. -/
def ByTurns (begins ends : List Bool) (last : Bool) : Prop :=
  (marks begins ends).IsChain (· ≠ ·) ∧ (∀ mark ∈ (marks begins ends).head?, mark = begin) ∧
    begins.count true = ends.count true + if last then 1 else 0

theorem byTurns (truths : List Bool) :
    ByTurns (begin.edges false truths) (finish.edges false truths) (truths.getLastD false) := by
  obtain ⟨chain, head⟩ := alternating false truths
  refine ⟨chain, head, (count_rises false truths).trans ?_⟩
  cases truths.getLastD false <;> rfl

end Phase

variable {K τ : Type}

/-! ### Who satisfies a predicate -/

namespace World

variable {w : World K} {p : Predicate K} {type : Option String} {a : Actor K}

/-- An actor of a type, or of any, satisfies a predicate. -/
def Suits (w : World K) (p : Predicate K) (type : Option String) (a : Actor K) : Prop :=
  (∀ t, type = some t → t = a.type) ∧ p a w = true

/-- Some live actor of a type, or of any, satisfies a predicate. -/
def holds (w : World K) (p : Predicate K) (type : Option String) : Bool :=
  w.actors.any fun a => type.all (· == a.type) && p a w

/-- The first live actor that suits. -/
def First (w : World K) (p : Predicate K) (type : Option String) (a : Actor K) : Prop :=
  w.Suits p type a ∧ ∃ l l', w.actors = l ++ a :: l' ∧ ∀ b ∈ l, ¬w.Suits p type b

theorem suits_iff : (type.all (· == a.type) && p a w) = true ↔ w.Suits p type a := by
  rw [Bool.and_eq_true, Option.all_eq_true]
  simp only [beq_iff_eq]
  rfl

theorem isSome_witness? (w : World K) (p : Predicate K) (type : Option String) :
    (RuleEngine.witness? w p type).isSome = w.holds p type := by
  rw [Bool.eq_iff_iff, RuleEngine.witness?, List.find?_filter, List.find?_isSome, holds,
    List.any_eq_true]
  simp

theorem first_of_witness? (h : RuleEngine.witness? w p type = some a) : w.First p type a := by
  rw [RuleEngine.witness?, List.find?_filter, List.find?_eq_some_iff_append] at h
  simp only [← Bool.and_eq_true, suits_iff, decide_eq_true_eq, Bool.not_eq_true',
    decide_eq_false_iff_not] at h
  exact h

end World

/-- A rule is looked at: the world in which, and the bindings under which it fires. -/
structure Look (K : Type) where
  world : World K
  firings : List (Binding K)

namespace Look

variable {p : Predicate K} {type : Option String} {phase : Phase} {before : Bool}

/-- The rule at a position fires if it is due: an end for no actor, and otherwise for the first that
suits. -/
def Fires (i : Nat) (p : Predicate K) (type : Option String) (phase : Phase) (before : Bool)
    (look : Look K) : Prop :=
  (¬phase.Due (look.world.holds p type) before ∧ look.firings = []) ∨
    phase.Due (look.world.holds p type) before ∧
      ((phase = .finish ∧ look.firings = [{ rule := i }]) ∨
        phase ≠ .finish ∧ ∃ a, look.world.First p type a ∧
          look.firings = [{ rule := i, actor := some a.uid }])

/-- Each look at the rule fires by what it finds and what the one before it has found. -/
def AllFire (i : Nat) (p : Predicate K) (type : Option String) (phase : Phase) :
    Bool → List (Look K) → Prop
  | _, [] => True
  | before, look :: later =>
    look.Fires i p type phase before ∧ AllFire i p type phase (look.world.holds p type) later

/-- What looks find, one after another. -/
def truths (p : Predicate K) (type : Option String) (looks : List (Look K)) : List Bool :=
  looks.map (·.world.holds p type)

/-- Whether looks fire, one after another. -/
def fired (looks : List (Look K)) : List Bool := looks.map (!·.firings.isEmpty)

theorem fires_of_edge {i : Nat} (w : World K) : Fires i p type phase before
    ⟨w, if phase.edge (w.holds p type) before then
      [{ rule := i, actor := (RuleEngine.witness? w p type).map (·.uid) }] else []⟩ := by
  simp only [Fires, ← Phase.edge_iff_due]
  by_cases due : phase.edge (w.holds p type) before = true
  · refine .inr ⟨due, ?_⟩
    rw [if_pos due]
    -- Whether somebody was found decides both what is due and who is bound.
    rw [← World.isSome_witness?] at due
    cases hit : RuleEngine.witness? w p type with
    | none =>
      rw [hit] at due
      cases phase with
      | on | begin => exact absurd due (by simp [Phase.edge])
      | finish => exact .inl ⟨rfl, rfl⟩
    | some a =>
      rw [hit] at due
      refine .inr ⟨?_, a, World.first_of_witness? hit, rfl⟩
      rintro rfl
      simp [Phase.edge] at due
  · exact .inl ⟨due, if_neg due⟩

theorem Fires.fired_eq {i : Nat} {look : Look K} (h : look.Fires i p type phase before) :
    (!look.firings.isEmpty) = phase.edge (look.world.holds p type) before := by
  rw [Bool.eq_iff_iff, Phase.edge_iff_due]
  rcases h with ⟨quiet, none⟩ | ⟨due, ⟨-, one⟩ | ⟨-, a, -, one⟩⟩
  · simp [none, quiet]
  · simp [one, due]
  · simp [one, due]

/-- Looks fire where the truths that they find have edges. -/
theorem AllFire.fired_eq {i : Nat} {looks : List (Look K)}
    (h : AllFire i p type phase before looks) :
    fired looks = phase.edges before (truths p type looks) := by
  induction looks generalizing before with
  | nil => rfl
  | cons look later ih => exact List.cons_eq_cons.2 ⟨h.1.fired_eq, ih h.2⟩

end Look

namespace RuleEngine

variable {e e' : RuleEngine K τ} {frame : InputFrame K} {i : Nat}

/-! ### What is remembered -/

theorem invoke_memory (e : RuleEngine K τ) (action : String) (b : Binding K) :
    (e.invoke action b).2.memory = e.memory := by
  unfold invoke
  split
  · rfl
  · split <;> rfl

theorem invokeAll_memory (e : RuleEngine K τ) (action : String) (bs : List (Binding K)) :
    (e.invokeAll action bs).2.memory = e.memory := by
  induction bs generalizing e with
  | nil => rfl
  | cons b rest ih =>
    have first := e.invoke_memory action b
    unfold invokeAll
    generalize e.invoke action b = invoked at first ⊢
    rcases invoked with ⟨err | ⟨⟩, e'⟩
    · exact first
    · exact (ih e').trans first

theorem bindings_memory {index : Nat} (ne : index ≠ i) (e : RuleEngine K τ) (frame : InputFrame K)
    (c : Condition) : (e.bindings frame index c).2.memory[i]? = e.memory[i]? := by
  unfold bindings
  cases c with
  | logical predicate type phase =>
    simp only
    split
    · rfl
    · exact List.getElem?_set_ne ne
  | _ => rfl

/-- Rules at other positions leave alone what is remembered of a rule. -/
theorem applyRules_memory {rules : List (Rule × Nat)} (others : ∀ entry ∈ rules, entry.2 ≠ i)
    (e : RuleEngine K τ) (frame : InputFrame K) :
    (e.applyRules frame rules).2.memory[i]? = e.memory[i]? := by
  induction rules generalizing e with
  | nil => rfl
  | cons entry rest ih =>
    obtain ⟨rule, index⟩ := entry
    rw [List.forall_mem_cons] at others
    have looked := bindings_memory others.1 e frame rule.condition
    have called := invokeAll_memory (e.bindings frame index rule.condition).2 rule.action
      (e.bindings frame index rule.condition).1
    unfold applyRules
    simp only
    generalize invokeAll _ rule.action _ = invoked at called ⊢
    rcases invoked with ⟨err | fired, e'⟩
    · exact (congrArg (·[i]?) called).trans looked
    · exact (ih others.2 e').trans ((congrArg (·[i]?) called).trans looked)

/-- Rules after others that are applied first. -/
theorem applyRules_append (e : RuleEngine K τ) (frame : InputFrame K)
    (first rest : List (Rule × Nat)) : e.applyRules frame (first ++ rest) =
      match e.applyRules frame first with
      | (.error err, e') => (.error err, e')
      | (.ok fired, e') =>
        ((e'.applyRules frame rest).1.map (fired ++ ·), (e'.applyRules frame rest).2) := by
  induction first generalizing e with
  | nil =>
    rw [List.nil_append, applyRules]
    refine Prod.ext ?_ rfl
    show _ = (e.applyRules frame rest).1.map ([] ++ ·)
    cases (e.applyRules frame rest).1 <;> rfl
  | cons entry first ih =>
    obtain ⟨rule, index⟩ := entry
    rw [List.cons_append, applyRules, applyRules]
    simp only
    rcases invokeAll _ rule.action _ with ⟨err | fired, e'⟩
    · rfl
    · simp only [ih]
      rcases e'.applyRules frame first with ⟨err | fired', e''⟩
      · rfl
      · simp only [Except.map]
        cases (e''.applyRules frame rest).1 <;> simp only [List.append_assoc]

theorem ne_of_mem_take {rules : List Rule} {entry : Rule × Nat}
    (mem : entry ∈ rules.zipIdx.take i) : entry.2 ≠ i := by
  obtain ⟨k, lt, rfl⟩ := List.mem_take_iff_getElem.1 mem
  rw [List.getElem_zipIdx]
  simp only
  omega

theorem ne_of_mem_drop {rules : List Rule} {entry : Rule × Nat}
    (mem : entry ∈ rules.zipIdx.drop (i + 1)) : entry.2 ≠ i := by
  obtain ⟨k, lt, rfl⟩ := List.mem_drop_iff_getElem.1 mem
  rw [List.getElem_zipIdx]
  simp only
  omega

theorem zipIdx_split {rules : List Rule} {rule : Rule} (stands : rules[i]? = some rule) :
    rules.zipIdx = rules.zipIdx.take i ++ (rule, i) :: rules.zipIdx.drop (i + 1) := by
  obtain ⟨lt, rfl⟩ := List.getElem?_eq_some_iff.1 stands
  have lt : i < rules.zipIdx.length := by rwa [List.length_zipIdx]
  conv_lhs => rw [← List.take_append_drop i rules.zipIdx, List.drop_eq_getElem_cons lt]
  rw [List.getElem_zipIdx, Nat.zero_add]

/-- Of all rules only the one at a position changes what is remembered of it, if the pass comes so
far. -/
theorem applyRules_memory_at {rules : List Rule} {rule : Rule} (stands : rules[i]? = some rule)
    (e : RuleEngine K τ) (frame : InputFrame K) :
    (e.applyRules frame rules.zipIdx).2.memory[i]? =
      if (e.applyRules frame (rules.zipIdx.take i)).1.isOk then
        ((e.applyRules frame (rules.zipIdx.take i)).2.bindings frame i rule.condition).2.memory[i]?
      else e.memory[i]? := by
  have passed : (e.applyRules frame (rules.zipIdx.take i)).2.memory[i]? = e.memory[i]? :=
    applyRules_memory (fun _ => ne_of_mem_take) e frame
  conv_lhs => rw [zipIdx_split stands, applyRules_append]
  generalize e.applyRules frame (rules.zipIdx.take i) = first at passed ⊢
  rcases first with ⟨err | fired, e'⟩
  · exact passed
  · -- What the action of the rule and the rules behind it do is not remembered here.
    have called := invokeAll_memory (e'.bindings frame i rule.condition).2 rule.action
      (e'.bindings frame i rule.condition).1
    simp only [applyRules]
    generalize invokeAll _ rule.action _ = invoked at called ⊢
    rcases invoked with ⟨err | fired', e''⟩
    · exact congrArg (·[i]?) called
    · exact (applyRules_memory (fun _ => ne_of_mem_drop) e'' frame).trans (congrArg (·[i]?) called)

/-! ### When a rule is looked at -/

theorem facing_memory (e : RuleEngine K τ) (frame : InputFrame K) (i : Nat) :
    (e.facing frame i).memory[i]? = e.memory[i]? :=
  applyRules_memory (fun _ => ne_of_mem_take) e.resumed frame

/-- Nothing fails in a step before it looks at the rule at a position, and there is such a rule. -/
def comesTo (e : RuleEngine K τ) (frame : InputFrame K) (i : Nat) : Bool :=
  (resumeTasks e.registry e.dt e.tasks e.stage).1.isOk &&
    (e.resumed.applyRules frame (e.rules.zipIdx.take i)).1.isOk && decide (i < e.rules.length)

/-- What a step finds of a logical rule, if it comes to it, and whether the rule fires. -/
theorem firings_logical {predicate : String} {type : Option String} {phase : Phase}
    {p : Predicate K} {rule : Rule} {recorded : Bool} (stands : e.rules[i]? = some rule)
    (logical : rule.condition = .logical predicate type phase)
    (served : e.registry.predicates.get? predicate = some p)
    (remembers : e.memory[i]? = some recorded) :
    Look.Fires i p type phase recorded ⟨(e.facing frame i).world, e.firings frame i⟩ ∧
      ((e.facing frame i).bindings frame i rule.condition).2.memory[i]? =
        some ((e.facing frame i).world.holds p type) := by
  have served : (e.facing frame i).registry.predicates.get? predicate = some p :=
    (e.facing_keeps frame i).registry ▸ served
  rw [← facing_memory e frame i] at remembers
  obtain ⟨lt, -⟩ := List.getElem?_eq_some_iff.1 remembers
  simp only [firings, stands, logical, bindings, served, World.isSome_witness?,
    List.getD_eq_getElem?_getD, remembers, Option.getD_some, List.getElem?_set_self lt]
  exact ⟨Look.fires_of_edge _, trivial⟩

variable [Scalar K] {before : Table String (Motion K)}

/-- What a step remembers is what its rules have left, unless a task fails. -/
theorem step_memory (e : RuleEngine K τ) (frame : InputFrame K)
    (before : Table String (Motion K)) : (e.step frame before).2.memory =
      if (resumeTasks e.registry e.dt e.tasks e.stage).1.isOk then
        (e.resumed.applyRules frame e.rules.zipIdx).2.memory
      else e.memory := by
  rw [step_eq_resumed]
  rcases (resumeTasks e.registry e.dt e.tasks e.stage).1 with _ | completed
  · rfl
  · rcases e.resumed.applyRules frame e.rules.zipIdx with ⟨_ | fired, e'⟩ <;> rfl

/-- A step that comes to a rule remembers what it has found there. -/
theorem memory_of_comesTo {rule : Rule} (comes : e.comesTo frame i = true)
    (stands : e.rules[i]? = some rule) : (e.step frame before).2.memory[i]? =
      ((e.facing frame i).bindings frame i rule.condition).2.memory[i]? := by
  simp only [comesTo, Bool.and_eq_true] at comes
  obtain ⟨⟨resumed, passed⟩, -⟩ := comes
  rw [step_memory, if_pos resumed, applyRules_memory_at stands, if_pos passed]
  rfl

/-- A step that does not come to a rule leaves alone what is remembered of it. -/
theorem memory_of_not_comesTo (e : RuleEngine K τ) (frame : InputFrame K)
    (before : Table String (Motion K)) (absent : e.comesTo frame i = false) :
    (e.step frame before).2.memory[i]? = e.memory[i]? := by
  rw [step_memory]
  split
  · rename_i resumed
    rw [comesTo, resumed, Bool.true_and] at absent
    rcases lt_or_ge i e.rules.length with lt | ge
    · rw [decide_eq_true lt, Bool.and_true] at absent
      rw [applyRules_memory_at (List.getElem?_eq_getElem lt), if_neg (absent ▸ Bool.false_ne_true)]
      rfl
    · refine applyRules_memory (fun entry mem => ?_) e.resumed frame
      have := List.snd_lt_of_mem_zipIdx mem
      omega
  · rfl

/-- A step that goes well comes to all rules. -/
theorem comesTo_of_ok {report : RuleReport} (well : e.step frame before = (.ok report, e'))
    (lt : i < e.rules.length) : e.comesTo frame i = true := by
  have split := e.resumed.applyRules_append frame (e.rules.zipIdx.take i) (e.rules.zipIdx.drop i)
  rw [List.take_append_drop] at split
  rw [step_eq_resumed, split] at well
  rw [comesTo, decide_eq_true lt, Bool.and_true]
  generalize e.resumed.applyRules frame (e.rules.zipIdx.take i) = first at well ⊢
  cases resumed : (resumeTasks e.registry e.dt e.tasks e.stage).1 with
  | error err =>
    rw [resumed] at well
    cases well
  | ok completed =>
    rw [resumed] at well
    rcases first with ⟨err | fired, e''⟩
    · cases well
    · rfl

/-- In the report of a step that goes well a rule stands once for each of its bindings. -/
theorem filter_fired {report : RuleReport} {rule : Rule}
    (well : e.step frame before = (.ok report, e')) (stands : e.rules[i]? = some rule) :
    report.fired.filter (·.rule == i) = (e.firings frame i).map fun _ => ⟨i, rule.action⟩ := by
  have others {l : List (Rule × Nat)} {f : Rule × Nat → List Fired}
      (carry : ∀ entry, ∀ call ∈ f entry, call.rule = entry.2) (ne : ∀ entry ∈ l, entry.2 ≠ i) :
      (l.flatMap f).filter (·.rule == i) = [] := by
    simp only [List.filter_eq_nil_iff, List.mem_flatMap, beq_iff_eq]
    rintro call ⟨entry, mem, called⟩
    exact carry entry call called ▸ ne entry mem
  have carry (rule : Rule) (k : Nat) {call : Fired}
      (mem : call ∈ (e.firings frame k).map fun _ => ⟨k, rule.action⟩) : call.rule = k := by
    obtain ⟨_, -, rfl⟩ := List.mem_map.1 mem
    rfl
  obtain ⟨_, _, -, -, fired, -⟩ := step_ok well
  rw [fired, map_fired_calls, zipIdx_split stands, List.flatMap_append, List.flatMap_cons,
    List.filter_append, List.filter_append,
    others (fun entry _ mem => carry entry.1 entry.2 mem) fun _ => ne_of_mem_take,
    others (fun entry _ mem => carry entry.1 entry.2 mem) fun _ => ne_of_mem_drop,
    List.nil_append, List.append_nil, List.filter_eq_self]
  exact fun call mem => beq_iff_eq.2 (carry rule i mem)

theorem step_keeps (e : RuleEngine K τ) (frame : InputFrame K)
    (before : Table String (Motion K)) : e.Keeps (e.step frame before).2 := by
  have acted := e.act_keeps frame
  rw [step_eq_act]
  generalize e.act frame = result at acted ⊢
  rcases result with ⟨_ | report, e'⟩ <;> exact ⟨acted.registry, acted.dt⟩

theorem step_scene (keeps : e.registry.KeepsScene) :
    (e.step frame before).2.world.scene = e.world.scene := by
  have acted : (e.act frame).2.world.scene = e.world.scene :=
    (act_respects (R := fun w w' => w'.scene = w.scene) (fun _ => rfl)
      (fun _ _ _ h h' => h'.trans h) keeps).2
  rw [step_eq_act]
  generalize e.act frame = result at acted ⊢
  rcases result with ⟨_ | report, e'⟩
  · exact acted
  · show (e'.world.propagate before).scene = e.world.scene
    rw [World.propagate_eq]
    exact acted

/-! ### Runs -/

/-- What happens to an engine in a run: its world is edited, and then it makes a step. -/
structure Beat (K : Type) where
  edit : World K → World K := id
  frame : InputFrame K := {}
  motion : Table String (Motion K) := ∅

/-- The engine before the step of a beat. -/
def ready (e : RuleEngine K τ) (b : Beat K) : RuleEngine K τ := e.modifyWorld b.edit

/-- The engine after a beat, whether or not its step has failed. -/
def take (e : RuleEngine K τ) (b : Beat K) : RuleEngine K τ :=
  ((e.ready b).step b.frame b.motion).2

/-- The engine after a run. -/
def after (e : RuleEngine K τ) (beats : List (Beat K)) : RuleEngine K τ := beats.foldl take e

/-- The look at the rule at a position in a step, if it comes to it. -/
def look? (e : RuleEngine K τ) (frame : InputFrame K) (i : Nat) : Option (Look K) :=
  if e.comesTo frame i then some ⟨(e.facing frame i).world, e.firings frame i⟩ else none

/-- The looks at the rule at a position in a run. -/
def looks (i : Nat) : RuleEngine K τ → List (Beat K) → List (Look K)
  | _, [] => []
  | e, b :: later => ((e.ready b).look? b.frame i).toList ++ looks i (e.take b) later

/-- In a run no other rule stands at a position. -/
def Stays (i : Nat) (rule : Rule) : RuleEngine K τ → List (Beat K) → Prop
  | _, [] => True
  | e, b :: later =>
    (∀ other, (e.ready b).rules[i]? = some other → other = rule) ∧ Stays i rule (e.take b) later

section Run

variable {beats : List (Beat K)} {rule : Rule} {recorded : Bool}

theorem take_keeps (e : RuleEngine K τ) (b : Beat K) : e.Keeps (e.take b) :=
  have stepped := (e.ready b).step_keeps b.frame b.motion
  ⟨stepped.registry, stepped.dt⟩

/-- Where the scene is not replaced, each rule stays where it stands. -/
theorem stays_of_keepsScene {sc : Scene K} (keeps : e.registry.KeepsScene)
    (edits : ∀ b ∈ beats, ∀ w, w.scene = sc → (b.edit w).scene = sc) (scene : e.world.scene = sc)
    (stands : sc.rules[i]? = some rule) : e.Stays i rule beats := by
  induction beats generalizing e with
  | nil => trivial
  | cons b later ih =>
    rw [List.forall_mem_cons] at edits
    have keeps : (e.ready b).registry.KeepsScene := keeps
    have ready : (e.ready b).world.scene = sc := edits.1 e.world scene
    have taken : (e.take b).world.scene = sc := (step_scene keeps).trans ready
    refine ⟨fun other here => ?_, ih ((e.take_keeps b).registry ▸ keeps) edits.2 taken⟩
    rw [rules, resumed_scene keeps, ready, stands] at here
    exact (Option.some.inj here).symm

/-- A look at a logical rule in a step fires by what it finds and what was found before. What it
finds is remembered, and without a look all is left as it was. -/
theorem take_logical {predicate : String} {type : Option String} {phase : Phase}
    {p : Predicate K} {b : Beat K}
    (stays : ∀ other, (e.ready b).rules[i]? = some other → other = rule)
    (logical : rule.condition = .logical predicate type phase)
    (served : e.registry.predicates.get? predicate = some p)
    (remembers : e.memory[i]? = some recorded) :
    ((e.ready b).look? b.frame i = none ∧ (e.take b).memory[i]? = some recorded) ∨
      ∃ look, (e.ready b).look? b.frame i = some look ∧ look.Fires i p type phase recorded ∧
        (e.take b).memory[i]? = some (look.world.holds p type) := by
  by_cases comes : (e.ready b).comesTo b.frame i = true
  · have lt : i < (e.ready b).rules.length := by
      simp only [comesTo, Bool.and_eq_true, decide_eq_true_eq] at comes
      exact comes.2
    have stands := List.getElem?_eq_getElem lt
    rw [stays _ stands] at stands
    obtain ⟨fires, finds⟩ := firings_logical stands logical served remembers
    exact .inr ⟨_, if_pos comes, fires, (memory_of_comesTo comes stands).trans finds⟩
  · have absent := Bool.eq_false_iff.2 comes
    exact .inl ⟨if_neg comes, (memory_of_not_comesTo _ _ _ absent).trans remembers⟩

/-- In a run each look at a logical rule fires by what it finds and what the one before it has
found, and what the last one has found is remembered. -/
theorem looks_spec {predicate : String} {type : Option String} {phase : Phase} {p : Predicate K}
    (stays : e.Stays i rule beats) (logical : rule.condition = .logical predicate type phase)
    (served : e.registry.predicates.get? predicate = some p)
    (remembers : e.memory[i]? = some recorded) :
    Look.AllFire i p type phase recorded (e.looks i beats) ∧
      (e.after beats).memory[i]? =
        some ((Look.truths p type (e.looks i beats)).getLastD recorded) := by
  induction beats generalizing e recorded with
  | nil => exact ⟨trivial, remembers⟩
  | cons b later ih =>
    obtain ⟨here, there⟩ := stays
    have served' : (e.take b).registry.predicates.get? predicate = some p :=
      (e.take_keeps b).registry ▸ served
    rcases take_logical here logical served remembers with ⟨none, same⟩ | ⟨look, one, fires, finds⟩
    · rw [looks, none]
      exact ih there served' same
    · obtain ⟨fire, last⟩ := ih there served' finds
      rw [looks, one]
      refine ⟨⟨fires, fire⟩, last.trans (congrArg some ?_)⟩
      exact List.getLastD_cons.symm

/-- An engine starts with the functions that its rules need, and remembers nothing. -/
theorem serves_of_new {sc : Scene K} {roles : List (Role K)} {r : Registry K τ} {seed : UInt64}
    (new : RuleEngine.new sc roles r seed = .ok e) (stands : sc.rules[i]? = some rule) :
    e.registry = r ∧ e.memory[i]? = some false ∧ r.Serves rule := by
  obtain ⟨lt, -⟩ := List.getElem?_eq_some_iff.1 stands
  unfold RuleEngine.new at new
  cases valid : r.validate sc with
  | error err =>
    rw [valid] at new
    cases new
  | ok u =>
    rw [valid] at new
    cases placed : World.new sc roles with
    | error err =>
      rw [placed] at new
      cases new
    | ok w =>
      rw [placed] at new
      cases new
      exact ⟨rfl, List.getElem?_replicate_of_lt lt,
        Registry.validate_eq_ok_iff.1 valid rule (List.mem_of_getElem? stands)⟩

end Run

/-- In a run from the start of a scene, whatever fails in it, each look at a logical rule fires by
what it finds and what the look before it has found, the first one by false. What the last one has
found is remembered, and stays so in steps that do not come to the rule; those that go well do, and
report as it fires. Where an end finds the same as a beginning, both fire by turns, and the
beginning once more often if what holds has not ended. -/
theorem logical_rules_fire_at_edges {sc : Scene K} {roles : List (Role K)} {r : Registry K τ}
    {seed : UInt64} {start : RuleEngine K τ} (new : RuleEngine.new sc roles r seed = .ok start)
    {beats : List (Beat K)} {i : Nat} {rule : Rule} {predicate : String} {type : Option String}
    {phase : Phase} (stands : sc.rules[i]? = some rule)
    (logical : rule.condition = .logical predicate type phase) (stays : start.Stays i rule beats) :
    (∀ (e : RuleEngine K τ) (b : Beat K), (e.ready b).look? b.frame i = none →
      (e.take b).memory[i]? = e.memory[i]?) ∧
    (∀ (e e' : RuleEngine K τ) (b : Beat K) (report : RuleReport),
      (e.ready b).step b.frame b.motion = (.ok report, e') → (e.ready b).rules[i]? = some rule →
        ∃ look, (e.ready b).look? b.frame i = some look ∧
          report.fired.filter (·.rule == i) = look.firings.map fun _ => ⟨i, rule.action⟩) ∧
    ∃ p, r.predicates.get? predicate = some p ∧
      Look.AllFire i p type phase false (start.looks i beats) ∧
      (start.after beats).memory[i]? =
        some ((Look.truths p type (start.looks i beats)).getLastD false) ∧
      (phase = .begin → ∀ (j : Nat) (rule' : Rule) (predicate' : String) (type' : Option String)
        (p' : Predicate K), sc.rules[j]? = some rule' →
        rule'.condition = .logical predicate' type' .finish → start.Stays j rule' beats →
        r.predicates.get? predicate' = some p' →
        Look.truths p type (start.looks i beats) = Look.truths p' type' (start.looks j beats) →
          Phase.ByTurns (Look.fired (start.looks i beats)) (Look.fired (start.looks j beats))
            ((Look.truths p type (start.looks i beats)).getLastD false)) := by
  obtain ⟨same, blank, serves⟩ := serves_of_new new stands
  obtain ⟨p, served⟩ := serves.2 predicate type phase logical
  obtain ⟨fire, last⟩ := looks_spec stays logical (same ▸ served) blank
  refine ⟨fun e b absent => ?_, fun e e' b report well here => ?_, p, served, fire, last, ?_⟩
  · refine memory_of_not_comesTo _ _ _ (Bool.eq_false_iff.2 fun comes => ?_)
    rw [look?, if_pos comes] at absent
    cases absent
  · obtain ⟨lt, -⟩ := List.getElem?_eq_some_iff.1 here
    exact ⟨_, if_pos (comesTo_of_ok well lt), filter_fired well here⟩
  · rintro rfl j rule' predicate' type' p' stands' logical' stays' served' alike
    obtain ⟨-, blank', -⟩ := serves_of_new new stands'
    obtain ⟨fire', -⟩ := looks_spec stays' logical' (same ▸ served') blank'
    rw [fire.fired_eq, fire'.fired_eq, ← alike]
    exact Phase.byTurns _

namespace Haunt

/-- The turn is handed on when a ghost comes and when it has gone, unless a bell has jammed. -/
def scene : Scene Rat :=
  { Scene.default with
    rules := [⟨.keyboard "bell" .begin, "jam"⟩,
      ⟨.logical "seen" (some "ghost") .begin, "advance_turn"⟩,
      ⟨.logical "seen" (some "ghost") .finish, "advance_turn"⟩] }

/-- A ghost is seen while it is active. -/
def seen : Predicate Rat := fun a _ => a.active

def functions : Registry Rat Empty :=
  { actions := Table.ofList [("advance_turn", Builtin.advanceTurn),
      ("jam", fun _ s => (.error "jammed", s))]
    predicates := Table.ofList [("seen", seen)]
    resume := nofun }

/-- A room with some actors in it. -/
def room (actors : List (Actor Rat)) : World Rat :=
  { scene, actors, index := positions (actors.map Actor.uid), globals := ∅, roles := ∅
    gravityEnabled := true }

def start : RuleEngine Rat Empty :=
  { registry := functions, stage := ⟨room [], .ofSeed 7⟩, memory := [false, false, false]
    dt := 1.0 / Scalar.ofInt 30 }

def ghost : Actor Rat :=
  { uid := "g", type := "ghost", x := 0, y := 0, width := 4, height := 4, layer := 0
    active := true, blockMask := none, vx := 0, vy := 0, parent := none, sprite := none
    physics := {}, fields := ∅ }

/-- The bell jams just when the ghost has gone. -/
def beats : List (Beat Rat) :=
  [{}, { edit _ := room [ghost] },
    { edit _ := room [], frame := { keyboard := { begin := .ofNames ["bell"] } } },
    { edit _ := room [] }]

theorem keeps : functions.KeepsScene where
  action name run found := by
    simp only [functions, Table.ofList, Table.insertAll_cons, Table.insertAll_nil,
      Table.get?_insert] at found
    split at found
    · cases found
      exact fun _ _ => rfl
    · split at found <;> cases found
      exact fun _ _ => rfl
  resume t := nomatch t

theorem stays {i : Nat} {rule : Rule} (stands : scene.rules[i]? = some rule) :
    start.Stays i rule beats := by
  refine stays_of_keepsScene keeps ?_ (show start.world.scene = scene from rfl) stands
  simp [beats, room]

end Haunt

open Haunt in
/-- That a ghost has gone is noticed once the bell has been mended. -/
theorem ghost_comes_and_goes :
    RuleEngine.new scene [] functions 7 = .ok start ∧
      scene.rules[1]? = some ⟨.logical "seen" (some "ghost") .begin, "advance_turn"⟩ ∧
      start.Stays 1 ⟨.logical "seen" (some "ghost") .begin, "advance_turn"⟩ beats ∧
      Look.truths seen (some "ghost") (start.looks 1 beats) = [false, true, false] ∧
      Look.AllFire 1 seen (some "ghost") .begin false (start.looks 1 beats) ∧
      Look.fired (start.looks 1 beats) = [false, true, false] ∧
      Look.fired (start.looks 2 beats) = [false, false, true] ∧
      Phase.ByTurns (Look.fired (start.looks 1 beats)) (Look.fired (start.looks 2 beats)) false ∧
      (start.after beats).memory[1]? = some false := by
  have valid : functions.validate scene = .ok () := by decide +kernel
  have new : RuleEngine.new scene [] functions 7 = .ok start := by
    rw [RuleEngine.new, valid]
    rfl
  have truths : Look.truths seen (some "ghost") (start.looks 1 beats) = [false, true, false] := by
    decide +kernel
  have alike : Look.truths seen (some "ghost") (start.looks 1 beats) =
    Look.truths seen (some "ghost") (start.looks 2 beats) := by decide +kernel
  obtain ⟨-, -, p, served, fire, last, turns⟩ :=
    logical_rules_fire_at_edges (i := 1) new rfl rfl (stays rfl)
  obtain rfl : seen = p := Option.some.inj served
  have byTurns := turns rfl 2 _ _ _ _ rfl rfl (stays rfl) served alike
  rw [truths] at last byTurns
  exact ⟨new, rfl, stays rfl, truths, fire, by decide +kernel, by decide +kernel, byTurns, last⟩

end RuleEngine

end Playfield
