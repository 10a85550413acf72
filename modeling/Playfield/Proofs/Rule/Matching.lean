import Playfield.Proofs.Rule.Calls

/-!
# What the frame says to rules

Which bindings a rule fires under can be read off the frame, unless the rule asks a predicate about
the world.

* `OnePer`: one answer for each entry of a list that has one.
* `CollisionEvent.Turned`: a collision as it stands or from its other side, whichever two selectors
  admit, and as it stands if they admit both.
* `Condition.MatchedBy`: the bindings that a condition finds in a frame, told event by event.
  `MatchedBy.unique`: there is no choice, but for logical conditions.
* `rules_fire_as_the_frame_says`: so do all rules of a step fire, one after another.
-/

namespace Playfield

/-- One answer for each entry that has one, in the order of the entries. -/
inductive OnePer {α β : Type} (R : α → β → Prop) : List α → List β → Prop
  | nil : OnePer R [] []
  | hit {a : α} {b : β} {l : List α} {l' : List β} (answer : R a b) (later : OnePer R l l') :
    OnePer R (a :: l) (b :: l')
  | miss {a : α} {l : List α} {l' : List β} (none : ∀ b, ¬R a b) (later : OnePer R l l') :
    OnePer R (a :: l) l'

namespace OnePer

variable {α β : Type} {R : α → β → Prop} {l : List α} {l₁ l₂ : List β}

theorem filterMap {f : α → Option β} (answers : ∀ a b, f a = some b ↔ R a b) (l : List α) :
    OnePer R l (l.filterMap f) := by
  induction l with
  | nil => exact .nil
  | cons a l ih =>
    rw [List.filterMap_cons]
    cases found : f a with
    | none => exact .miss (fun b answer => by simp [(answers a b).2 answer] at found) ih
    | some b => exact .hit ((answers a b).1 found) ih

theorem map_filter {p : α → Bool} {P : α → Prop} (holds : ∀ a, p a = true ↔ P a) (g : α → β)
    (l : List α) : OnePer (fun a b => P a ∧ b = g a) l ((l.filter p).map g) := by
  induction l with
  | nil => exact .nil
  | cons a l ih =>
    by_cases h : p a = true
    · rw [List.filter_cons_of_pos h]
      exact .hit ⟨(holds a).1 h, rfl⟩ ih
    · rw [List.filter_cons_of_neg h]
      exact .miss (fun b answer => h ((holds a).2 answer.1)) ih

theorem unique (functional : ∀ a b b', R a b → R a b' → b = b') (h : OnePer R l l₁)
    (h' : OnePer R l l₂) : l₁ = l₂ := by
  induction h generalizing l₂ with
  | nil =>
    cases h'
    rfl
  | hit answer _ ih =>
    cases h' with
    | hit answer' later' => rw [functional _ _ _ answer answer', ih later']
    | miss none _ => exact absurd answer (none _)
  | miss none _ ih =>
    cases h' with
    | hit answer' _ => exact absurd answer' (none _)
    | miss _ later' => exact ih later'

end OnePer

/-- One answer if something holds, and none otherwise. -/
def OnceIf {β : Type} (p : Prop) (b : β) (l : List β) : Prop := (p ∧ l = [b]) ∨ (¬p ∧ l = [])

theorem OnceIf.unique {β : Type} {p : Prop} {b : β} {l l' : List β} (h : OnceIf p b l)
    (h' : OnceIf p b l') : l = l' := by
  rcases h with ⟨holds, rfl⟩ | ⟨fails, rfl⟩
  · exact (h'.resolve_right fun h => h.1 holds).2.symm
  · exact (h'.resolve_left fun h => fails h.1).2.symm

theorem onceIf_ite {β : Type} {p : Prop} {c : Bool} (holds : c = true ↔ p) (b : β) :
    OnceIf p b (if c then [b] else []) := by
  cases c with
  | true => exact .inl ⟨holds.1 rfl, rfl⟩
  | false => exact .inr ⟨fun h => Bool.false_ne_true (holds.2 h), rfl⟩

namespace CollisionEvent

variable {ev ev' ev'' : CollisionEvent} {a b : Selector}

/-- Two selectors admit the parties of a collision in their order. -/
def Meets (ev : CollisionEvent) (a b : Selector) : Prop :=
  a.admits ev.a.uid ev.a.type = true ∧ b.admits ev.b.uid ev.b.type = true

/-- The second collision is the first one, turned to meet two selectors if it does not meet them as
it stands. -/
def Turned (a b : Selector) (ev ev' : CollisionEvent) : Prop :=
  (ev.Meets a b ∧ ev' = ev) ∨ (¬ev.Meets a b ∧ ev.swapped.Meets a b ∧ ev' = ev.swapped)

theorem orient?_eq_some_iff : ev.orient? a b = some ev' ↔ Turned a b ev ev' := by
  have swapped : ev.swapped.Meets a b ↔
      (a.admits ev.b.uid ev.b.type && b.admits ev.a.uid ev.a.type) = true := by
    rw [Bool.and_eq_true]
    rfl
  have direct : ev.Meets a b ↔
      (a.admits ev.a.uid ev.a.type && b.admits ev.b.uid ev.b.type) = true := by
    rw [Bool.and_eq_true]
    rfl
  unfold orient? Turned
  by_cases meets : ev.Meets a b
  · rw [if_pos (direct.1 meets)]
    simp [meets, eq_comm]
  · rw [if_neg (mt direct.2 meets)]
    by_cases turned : ev.swapped.Meets a b
    · rw [if_pos (swapped.1 turned)]
      simp [meets, turned, eq_comm]
    · rw [if_neg (mt swapped.2 turned)]
      simp [meets, turned]

theorem Turned.unique (h : Turned a b ev ev') (h' : Turned a b ev ev'') : ev' = ev'' :=
  Option.some.inj ((orient?_eq_some_iff.2 h).symm.trans (orient?_eq_some_iff.2 h'))

end CollisionEvent

/-- A phase is answered by itself, and `on` by `begin` too. -/
theorem Phase.answers_iff {requested observed : Phase} : requested.answers observed = true ↔
    requested = observed ∨ requested = .on ∧ observed = .begin := by
  cases requested <;> cases observed <;> decide

theorem PhaseSet.contains_iff {s : PhaseSet} {phase : Phase} {name : String} :
    s.contains phase name = true ↔ name ∈ (s.inPhase phase).keys := by
  simp [contains, Table.contains_eq_any, Table.keys]

variable {K τ : Type}

namespace Condition

variable {frame : InputFrame K} {index : Nat} {bs bs' : List (Binding K)} {c : Condition}

/-- The bindings that a condition finds in a frame. A logical one looks at the world and finds at
most one. -/
def MatchedBy (frame : InputFrame K) (index : Nat) (bs : List (Binding K)) : Condition → Prop
  | .keyboard name phase =>
    OnceIf (name ∈ (frame.keyboard.inPhase phase).keys) { rule := index } bs
  | .mouse name phase => OnceIf (name ∈ (frame.mouse.inPhase phase).keys) { rule := index } bs
  | .collision a b kind phase =>
    OnePer (fun ev bound => (∀ k, kind = some k → k = ev.kind) ∧
      (phase = ev.phase ∨ phase = .on ∧ ev.phase = .begin) ∧
      ∃ ev', CollisionEvent.Turned a b ev ev' ∧
        bound = { rule := index, collision := some ev' }) frame.collisions bs
  | .tool name _ =>
    OnePer (fun t bound => t.name = name ∧ bound = { rule := index, tool := some t })
      frame.tools bs
  | .button name _ =>
    OnePer (fun b bound => b.name = name ∧ bound = { rule := index, button := some b })
      frame.buttons bs
  | .logical _ _ _ => bs.length ≤ 1

/-- The condition asks nothing about the world. -/
def ReadsFrame (c : Condition) : Prop := ∀ predicate type phase, c ≠ .logical predicate type phase

/-- Where the world is not asked, the frame leaves no choice. -/
theorem MatchedBy.unique (reads : c.ReadsFrame) (h : c.MatchedBy frame index bs)
    (h' : c.MatchedBy frame index bs') : bs = bs' := by
  cases c with
  | keyboard name phase => exact OnceIf.unique h h'
  | mouse name phase => exact OnceIf.unique h h'
  | collision a b kind phase =>
    refine OnePer.unique ?_ (show OnePer _ _ bs from h) h'
    rintro ev _ _ ⟨-, -, ev', turned, rfl⟩ ⟨-, -, ev'', turned', rfl⟩
    rw [turned.unique turned']
  | logical predicate type phase => exact absurd rfl (reads predicate type phase)
  | tool name phase =>
    refine OnePer.unique ?_ (show OnePer _ _ bs from h) h'
    rintro t _ _ ⟨-, rfl⟩ ⟨-, rfl⟩
    rfl
  | button name phase =>
    refine OnePer.unique ?_ (show OnePer _ _ bs from h) h'
    rintro b _ _ ⟨-, rfl⟩ ⟨-, rfl⟩
    rfl

end Condition

namespace RuleEngine

variable {e e' : RuleEngine K τ} {frame : InputFrame K}

/-- A rule fires under the bindings that its condition finds in the frame. -/
theorem matchedBy_bindings (e : RuleEngine K τ) (frame : InputFrame K) (index : Nat)
    (c : Condition) : c.MatchedBy frame index (e.bindings frame index c).1 := by
  cases c with
  | keyboard name phase => exact onceIf_ite PhaseSet.contains_iff _
  | mouse name phase => exact onceIf_ite PhaseSet.contains_iff _
  | collision a b kind phase =>
    simp only [bindings, InputFrame.collisionsOf, List.filterMap_filter, List.map_filterMap]
    refine OnePer.filterMap (fun ev bound => ?_) frame.collisions
    rw [Option.map_eq_some_iff]
    simp only [Option.ite_none_right_eq_some, CollisionEvent.orient?_eq_some_iff, Bool.and_eq_true,
      Phase.answers_iff, Option.all_eq_true, beq_iff_eq]
    constructor
    · rintro ⟨ev', ⟨⟨kind', phase'⟩, turned⟩, rfl⟩
      exact ⟨kind', phase', ev', turned, rfl⟩
    · rintro ⟨kind', phase', ev', turned, rfl⟩
      exact ⟨ev', ⟨⟨kind', phase'⟩, turned⟩, rfl⟩
  | logical predicate type phase =>
    simp only [bindings, Condition.MatchedBy]
    split
    · exact Nat.zero_le _
    · simp only
      split <;> simp
  | tool name phase => exact OnePer.map_filter (fun _ => beq_iff_eq) _ _
  | button name phase => exact OnePer.map_filter (fun _ => beq_iff_eq) _ _

theorem matchedBy_firings {i : Nat} {rule : Rule} (stands : e.rules[i]? = some rule) :
    rule.condition.MatchedBy frame i (e.firings frame i) := by
  rw [firings, stands]
  exact matchedBy_bindings _ frame i rule.condition

/-- In a step that goes well the rules fire one after another, each once for every binding that its
condition finds in the frame, and their actions are called for just these. Rules that do not ask
about the world would fire alike in any other engine with these rules. -/
theorem rules_fire_as_the_frame_says [Scalar K] {before : Table String (Motion K)}
    {report : RuleReport} (well : e.step frame before = (.ok report, e')) :
    report.fired =
      (e.rules.zipIdx.flatMap fun (rule, i) =>
        (e.firings frame i).map fun _ => ⟨i, rule.action⟩) ∧
    (∀ (i : Nat) (rule : Rule), e.rules[i]? = some rule →
      rule.condition.MatchedBy frame i (e.firings frame i)) ∧
    (∃ made s, Chain (e.registry.call e.dt) e.resumed.stage made s ∧
      made.map Prod.fst =
        (e.rules.zipIdx.flatMap fun (rule, i) =>
          (e.firings frame i).map (⟨rule.action, ·⟩)) ∧
      e'.stage = { s with world := s.world.propagate before }) ∧
    ∀ {τ' : Type} (other : RuleEngine K τ'), other.rules = e.rules → ∀ (i : Nat) (rule : Rule),
      e.rules[i]? = some rule → rule.condition.ReadsFrame →
        other.firings frame i = e.firings frame i := by
  obtain ⟨made, s, chain, all, fired, stage⟩ := step_ok well
  refine ⟨fired.trans (e.map_fired_calls frame), fun i rule stands => matchedBy_firings stands,
    ⟨made, s, chain, all, stage⟩, fun other same i rule stands reads => ?_⟩
  exact (matchedBy_firings (same ▸ stands)).unique reads (matchedBy_firings stands)

namespace Arcade

/-- A coin and a player. -/
def figure (uid type : String) : Actor Rat :=
  { uid, type, x := 0, y := 0, width := 4, height := 4, layer := 0
    active := true, blockMask := none, vx := 0, vy := 0, parent := none, sprite := none
    physics := {}, fields := ∅ }

/-- A key hands the turn on, players take coins, who is alone hands the turn on, and so does a
jump. -/
def scene : Scene Rat :=
  { Scene.default with
    rules := [⟨.keyboard "go" .begin, "advance_turn"⟩,
      ⟨.collision (.ofType "player") (.ofType "coin") (some .overlap) .on, "destroy_other"⟩,
      ⟨.logical "alone" none .begin, "advance_turn"⟩, ⟨.tool "jump" .on, "advance_turn"⟩] }

def engine : RuleEngine Rat Empty :=
  { registry := (Builtin.register { resume := nofun }).addPredicate "alone"
      fun _ w => w.actors.length == 1
    stage := ⟨{ scene, actors := [figure "c" "coin", figure "p" "player"]
                index := positions ["c", "p"], globals := ∅, roles := ∅
                gravityEnabled := false }, .ofSeed 7⟩
    memory := [false, false, false, false]
    dt := 1 }

/-- The coin meets the player, the player a wall, and there are two jumps. -/
def round : InputFrame Rat :=
  { keyboard := { begin := .ofNames ["go", "up"] }
    collisions := [⟨.overlap, .begin, ⟨"c", "coin"⟩, ⟨"p", "player"⟩, none⟩,
      ⟨.contact, .begin, ⟨"c", "coin"⟩, ⟨"p", "player"⟩, none⟩]
    tools := [⟨"jump", .null, some "a"⟩, ⟨"run", .null, none⟩, ⟨"jump", .null, some "b"⟩] }

end Arcade

open Arcade in
/-- A coin that meets a player is taken once, in any world. -/
theorem coin_is_taken_once :
    (engine.step round ∅).1 = .ok ⟨[⟨0, "advance_turn"⟩, ⟨1, "destroy_other"⟩,
      ⟨2, "advance_turn"⟩, ⟨3, "advance_turn"⟩, ⟨3, "advance_turn"⟩], 0, 0⟩ ∧
    ∀ other : RuleEngine Rat Empty, other.rules = scene.rules → other.firings round 1 =
      [{ rule := 1
         collision := some ⟨.overlap, .begin, ⟨"p", "player"⟩, ⟨"c", "coin"⟩, none⟩ }] := by
  have report : (engine.step round ∅).1 = .ok ⟨[⟨0, "advance_turn"⟩, ⟨1, "destroy_other"⟩,
      ⟨2, "advance_turn"⟩, ⟨3, "advance_turn"⟩, ⟨3, "advance_turn"⟩], 0, 0⟩ := by decide +kernel
  have well : engine.step round ∅ = (.ok _, (engine.step round ∅).2) := Prod.ext report rfl
  obtain ⟨-, -, -, alike⟩ := rules_fire_as_the_frame_says well
  exact ⟨report, fun other same => (alike other same 1 _ rfl nofun).trans rfl⟩

end RuleEngine

end Playfield
