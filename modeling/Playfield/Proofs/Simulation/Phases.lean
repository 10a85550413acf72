import Playfield.Proofs.Body.Contacts
import Playfield.Proofs.Simulation.Start
import Playfield.Proofs.Simulation.Tick

/-!
# The life of a collision

A collision is known by its key: kind and parties. A tick compares the keys that it observes with
those of the tick before, and says what begins, goes on and ends.

* `Simulation.phasesOf` are the phases of the events with a key; `phasesOf_events` counts them.
* `nodup_observe`: bodies with distinct uids are observed with distinct keys.
* `remembers`: what a simulation remembers is what the last tick observed.
* `Spells` says that phases make up whole lives of a collision and perhaps the beginning of one
  more; `Spells.tick` adds a tick.
* `phases_follow_lifetimes` puts these together for runs of ticks that come to their end. A
  simulation does not test that uids are distinct: `not_one_event_per_key`.
-/

namespace Playfield

variable {K τ : Type}

/-! ### One tick -/

namespace CollisionEvent

theorem key_inj {e e' : CollisionEvent} :
    e.key = e'.key ↔ e.kind = e'.kind ∧ e.a.uid = e'.a.uid ∧ e.b.uid = e'.b.uid := by
  have rank : e.kind.rank = e'.kind.rank ↔ e.kind = e'.kind := by
    cases e.kind <;> cases e'.kind <;> decide
  rw [key, key, List.cons.injEq, List.cons.injEq, List.cons.injEq, rank]
  simp only [and_true]

end CollisionEvent

/-- The number of a cell has no underscore. -/
theorem underscore_notMem_repr (n : Int) : '_' ∉ n.repr.toList := by
  rw [Int.repr_eq_if]
  split
  · rw [Nat.repr_eq_ofList_toDigits, String.toList_ofList]
    exact Nat.underscore_not_in_toDigits
  · rw [String.toList_append, Nat.repr_eq_ofList_toDigits, String.toList_ofList]
    simp [Nat.underscore_not_in_toDigits]

theorem TileHit.party_uid_inj {t t' : TileHit} :
    t.party.uid = t'.party.uid ↔ t.col = t'.col ∧ t.row = t'.row := by
  have letters (t : TileHit) : t.party.uid.toList =
      "tile_".toList ++ (t.col.repr.toList ++ '_' :: t.row.repr.toList) := by
    simp [party, ToString.toString]
  rw [← String.toList_inj, letters, letters, List.append_cancel_left_eq,
    List.append_cons_inj_of_notMem (underscore_notMem_repr _) (underscore_notMem_repr _),
    String.toList_inj, String.toList_inj, Int.repr_inj, Int.repr_inj]
  simp only [true_and]

namespace Simulation

/-- The phases of the events with a key. -/
def phasesOf (key : List String) (events : List CollisionEvent) : List Phase :=
  (events.filter (·.key == key)).map (·.phase)

/-- What a tick says of a collision that is observed now or was before. -/
def phases (now before : Bool) : List Phase :=
  if now then [if before then .on else .begin] else if before then [.finish] else []

theorem length_phases_le (now before : Bool) : (phases now before).length ≤ 1 := by
  cases now <;> cases before <;> decide

theorem contains_byKey (observed : List CollisionEvent) (key : List String) :
    (byKey observed).contains key = (observed.map CollisionEvent.key).contains key := by
  let : LE (List String) := List.instLE
  have made := Table.contains_insertAll ∅ (observed.map fun e => (e.key, e)) key
  refine made.trans ((Bool.false_or _).trans ?_)
  rw [List.any_map, List.contains_eq_any_beq, List.any_map]
  exact congrArg observed.any (funext fun e => BEq.comm)

/-- Entries are kept by their keys. -/
def Keyed (previous : Table (List String) CollisionEvent) : Prop :=
  ∀ e ∈ previous.entries, e.2.key = e.1

theorem keyed_byKey (observed : List CollisionEvent) : Keyed (byKey observed) := by
  let : LE (List String) := List.instLE
  intro e mem
  obtain ⟨e', -, rfl⟩ := List.mem_map.1 (Table.mem_of_mem_ofList mem)
  rfl

variable {previous : Table (List String) CollisionEvent}

theorem phasesOf_append (key : List String) (es es' : List CollisionEvent) :
    phasesOf key (es ++ es') = phasesOf key es ++ phasesOf key es' := by
  rw [phasesOf, List.filter_append, List.map_append]
  rfl

/-- Each time a key is observed there is one event with it. -/
theorem phasesOf_phased (key : List String) (observed : List CollisionEvent) :
    phasesOf key (observed.map (phased previous)) =
      List.replicate ((observed.map CollisionEvent.key).count key)
        (if previous.contains key then .on else .begin) := by
  have phase (e : CollisionEvent) (mem : e ∈ observed.filter (·.key == key)) :
      (phased previous e).phase = if previous.contains key then .on else .begin := by
    rw [phased, eq_of_beq (List.mem_filter.1 mem).2]
  rw [phasesOf, List.filter_map, List.map_map, List.count_eq_countP, List.countP_map,
    List.countP_eq_length_filter, ← List.map_const']
  exact List.map_congr_left phase

/-- A key of the last tick that is not observed has one event. -/
theorem phasesOf_ended (keyed : Keyed previous) (key : List String)
    (observed : List CollisionEvent) : phasesOf key (ended previous observed) =
      if previous.contains key && !(observed.map CollisionEvent.key).contains key then [.finish]
      else [] := by
  have gone : observed.any (·.key == key) = (observed.map CollisionEvent.key).contains key := by
    rw [List.contains_eq_any_beq, List.any_map]
    exact congrArg observed.any (funext fun e => BEq.comm)
  have own : (previous.entries.filter fun e => !observed.any (·.key == e.1)).filter
      (fun e => e.2.key == key) =
      (previous.entries.filter (·.1 == key)).filter fun _ => !observed.any (·.key == key) := by
    rw [List.filter_filter, List.filter_filter]
    refine List.filter_congr fun e mem => ?_
    rw [keyed e mem]
    by_cases h : e.1 = key
    · rw [h, Bool.and_comm]
    · rw [beq_false_of_ne h, Bool.false_and, Bool.and_false]
  have same (e : List String × CollisionEvent) :
      ({ e.2 with phase := .finish } : CollisionEvent).key = e.2.key := rfl
  simp only [phasesOf, ended, List.filter_map, Function.comp_def, same]
  rw [own, gone, Table.filter_entries, Table.contains]
  cases previous.get? key with
  | none => rfl
  | some e => cases (observed.map CollisionEvent.key).contains key <;> rfl

/-- What a tick says of a key: an event each time that it is observed, and one at the end. -/
theorem phasesOf_events (keyed : Keyed previous) (key : List String)
    (observed : List CollisionEvent) : phasesOf key (events previous observed) =
      List.replicate ((observed.map CollisionEvent.key).count key)
          (if previous.contains key then .on else .begin) ++
        if previous.contains key && !(observed.map CollisionEvent.key).contains key then [.finish]
        else [] := by
  rw [events, phasesOf_append, phasesOf_phased, phasesOf_ended keyed]

/-- Where no key is observed twice, there is at most one event with each. -/
theorem phases_of_nodup {keys : List (List String)} (nodup : keys.Nodup) (key : List String)
    (before : Bool) : (List.replicate (keys.count key) (if before then .on else .begin) ++
      if before && !keys.contains key then [.finish] else [] : List Phase) =
      phases (keys.contains key) before := by
  by_cases now : key ∈ keys
  · rw [List.count_eq_one_of_mem nodup now, List.contains_iff_mem.2 now]
    cases before <;> rfl
  · have absent : keys.contains key = false := by simpa using now
    rw [List.count_eq_zero_of_not_mem now, absent]
    cases before <;> rfl

variable [Scalar K]

omit [Scalar K] in
/-- Events are told apart by their keys if something is that the keys determine. -/
theorem nodup_keys {α β : Type} {l : List α} {f : α → β} (event : α → CollisionEvent)
    (distinct : (l.map f).Nodup) (inj : ∀ a b, (event a).key = (event b).key → f a = f b) :
    ((l.map event).map CollisionEvent.key).Nodup := by
  rw [List.map_map]
  exact List.pairwise_map.2 ((List.pairwise_map.1 distinct).imp fun ne same => ne (inj _ _ same))

omit [Scalar K] in
theorem disjoint_keys {es es' : List CollisionEvent}
    (apart : ∀ e ∈ es, ∀ e' ∈ es', e.kind ≠ e'.kind) :
    (es.map CollisionEvent.key).Disjoint (es'.map CollisionEvent.key) := by
  intro key mem mem'
  obtain ⟨e, he, rfl⟩ := List.mem_map.1 mem
  obtain ⟨e', he', same⟩ := List.mem_map.1 mem'
  exact apart e he e' he' (CollisionEvent.key_inj.1 same).1.symm

/-- Bodies with distinct uids are observed with distinct keys. -/
theorem nodup_observe {p : Physics K} (distinct : (p.bodies.map Body.uid).Nodup) :
    ((observe p).map CollisionEvent.key).Nodup := by
  have pairs (test : Body K → Body K → Bool) (kind : CollisionKind) :
      (((Physics.pairs test p.bodies).map fun e =>
        (⟨kind, .on, e.1, e.2, none⟩ : CollisionEvent)).map CollisionEvent.key).Nodup :=
    nodup_keys _ (Physics.nodup_pairs test distinct) fun e e' same =>
      have uids := (CollisionEvent.key_inj.1 same).2
      Prod.ext uids.1 uids.2
  have tiles : ((p.tileContacts.map fun e =>
      (⟨.tile, .on, e.1, e.2.party, some e.2⟩ : CollisionEvent)).map CollisionEvent.key).Nodup :=
    nodup_keys _ (Physics.nodup_tileContacts distinct) fun e e' same =>
      have uids := (CollisionEvent.key_inj.1 same).2
      have cell := TileHit.party_uid_inj.1 uids.2
      Prod.ext uids.1 (Prod.ext cell.1 cell.2)
  rw [observe, List.map_append, List.nodup_append', List.map_append, List.nodup_append']
  refine ⟨⟨pairs _ _, pairs _ _, disjoint_keys fun e mem e' mem' => ?_⟩, tiles, ?_⟩
  · obtain ⟨_, -, rfl⟩ := List.mem_map.1 mem
    obtain ⟨_, -, rfl⟩ := List.mem_map.1 mem'
    simp
  · rw [← List.map_append]
    refine disjoint_keys fun e mem e' mem' => ?_
    obtain ⟨_, -, rfl⟩ := List.mem_map.1 mem'
    rcases List.mem_append.1 mem with mem | mem <;> obtain ⟨_, -, rfl⟩ := List.mem_map.1 mem <;>
      simp

/-! ### A run -/

/-- From its begin to its end. -/
def IsLife (word : List Phase) : Prop := ∃ n, word = .begin :: (List.replicate n .on ++ [.finish])

/-- Whole lives, and the beginning of another one if that has not ended. -/
def Spells (unended : Bool) (word : List Phase) : Prop :=
  ∃ lives : List (List Phase), (∀ life ∈ lives, IsLife life) ∧
    if unended then ∃ n, word = lives.flatten ++ .begin :: List.replicate n .on
    else word = lives.flatten

omit [Scalar K] in
theorem Spells.tick {before : Bool} {word : List Phase} (spells : Spells before word)
    (now : Bool) : Spells now (word ++ phases now before) := by
  obtain ⟨lives, whole, last⟩ := spells
  cases before with
  | false =>
    simp only [Bool.false_eq_true, if_false] at last
    subst last
    cases now with
    | false => exact ⟨lives, whole, List.append_nil _⟩
    | true => exact ⟨lives, whole, 0, rfl⟩
  | true =>
    simp only [if_true] at last
    obtain ⟨n, rfl⟩ := last
    cases now with
    | true =>
      refine ⟨lives, whole, n + 1, ?_⟩
      rw [List.replicate_succ', List.append_assoc]
      rfl
    | false =>
      refine ⟨lives ++ [.begin :: (List.replicate n .on ++ [.finish])], ?_, ?_⟩
      · intro life mem
        rcases List.mem_append.1 mem with mem | mem
        · exact whole life mem
        · exact ⟨n, List.mem_singleton.1 mem⟩
      · rw [List.flatten_append, List.flatten_singleton, List.append_assoc]
        rfl

/-- What is spelled so far is the beginning of whole lives. -/
theorem Spells.starts_lives {unended : Bool} {word : List Phase} (spells : Spells unended word) :
    ∃ lives : List (List Phase), (∀ life ∈ lives, IsLife life) ∧ word <+: lives.flatten := by
  have ends : ∃ word', Spells false word' ∧ word <+: word' := by
    cases unended with
    | false => exact ⟨word, spells, List.prefix_refl word⟩
    | true => exact ⟨_, spells.tick false, List.prefix_append _ _⟩
  obtain ⟨word', ⟨lives, whole, rfl⟩, starts⟩ := ends
  exact ⟨lives, whole, starts⟩

/-- The keys that a tick observes, each as often as it is found. -/
def observed (s : Simulation K τ) : List (List String) :=
  (observe s.moved).map CollisionEvent.key

/-- The keys that the last tick observed. -/
def before (t : ℕ → Simulation K τ) : ℕ → List (List String)
  | 0 => []
  | i + 1 => (t i).observed

section Runs

variable {sc : Scene K} {roles : List (Role K)} {r : Registry K τ} {seed : UInt64} {n : ℕ}
  {t : ℕ → Simulation K τ} {inputs : ℕ → InputFrame K} {reports : ℕ → TickReport K}

/-- A simulation remembers what the last tick observed. -/
theorem remembers (start : (t 0).previous = ∅)
    (ticks : ∀ i < n, (t i).step (inputs i) = (.ok (reports i), t (i + 1))) {i : ℕ} (le : i ≤ n) :
    Keyed (t i).previous ∧ ∀ key, (t i).previous.contains key = (before t i).contains key := by
  cases i with
  | zero =>
    rw [start]
    exact ⟨fun e mem => absurd mem List.not_mem_nil, fun key => rfl⟩
  | succ i =>
    rw [(step_ok (ticks i le)).previous]
    exact ⟨keyed_byKey _, contains_byKey _⟩

/-- What each tick of a run says of a key. -/
theorem phasesOf_run (start : (t 0).previous = ∅)
    (ticks : ∀ i < n, (t i).step (inputs i) = (.ok (reports i), t (i + 1))) {i : ℕ} (lt : i < n)
    (key : List String) : phasesOf key (reports i).collisions =
      List.replicate ((t i).observed.count key)
          (if (before t i).contains key then .on else .begin) ++
        if (before t i).contains key && !(t i).observed.contains key then [.finish] else [] := by
  obtain ⟨keyed, remembered⟩ := remembers start ticks lt.le
  rw [(step_ok (ticks i lt)).collisions, phasesOf_events keyed, remembered]
  rfl

theorem nodup_observed {s : Simulation K τ} (distinct : (s.world.actors.map Actor.uid).Nodup) :
    s.observed.Nodup := by
  rw [← uids_moved distinct] at distinct
  exact nodup_observe distinct

/-- Ticks that say these phases spell lives. -/
theorem spells_run {words : ℕ → List Phase} {key : List String}
    (told : ∀ i < n, words i = phases ((t i).observed.contains key) ((before t i).contains key)) :
    Spells ((before t n).contains key) ((List.range n).flatMap words) := by
  induction n with
  | zero => exact ⟨[], fun _ mem => absurd mem List.not_mem_nil, rfl⟩
  | succ n ih =>
    rw [List.range_succ, List.flatMap_append, List.flatMap_singleton, told n n.lt_succ_self]
    exact (ih fun i lt => told i (Nat.lt_succ_of_lt lt)).tick _

/-- In a run of ticks that all come to their end, a tick has an event for each time that a key is
observed, which begins or goes on, and one for a key that is no longer observed. If uids are
distinct when a tick starts, no key is observed twice in it; and if they always are, the events with
a key spell its lives. Uids are distinct from the start of a valid scene on, as long as no action
changes one. -/
theorem phases_follow_lifetimes (start : Simulation.new sc roles r seed = .ok (t 0))
    (ticks : ∀ i < n, (t i).step (inputs i) = (.ok (reports i), t (i + 1))) :
    (∀ i < n, ∀ key, phasesOf key (reports i).collisions =
      List.replicate ((t i).observed.count key)
          (if (before t i).contains key then .on else .begin) ++
        if (before t i).contains key && !(t i).observed.contains key then [.finish] else []) ∧
    (∀ i < n, ((t i).world.actors.map Actor.uid).Nodup → ∀ key,
      phasesOf key (reports i).collisions =
        phases ((t i).observed.contains key) ((before t i).contains key)) ∧
    ((∀ i < n, ((t i).world.actors.map Actor.uid).Nodup) → ∀ key,
      ∃ lives : List (List Phase), (∀ life ∈ lives, IsLife life) ∧
        ((List.range n).flatMap fun i => phasesOf key (reports i).collisions) <+: lives.flatten) ∧
    (sc.validate = .ok () → r.Respects (World.Acted World.Act.KeepsUids) →
      ∀ i < n, ((t i).world.actors.map Actor.uid).Nodup) := by
  have told {i : ℕ} (lt : i < n) (distinct : ((t i).world.actors.map Actor.uid).Nodup)
      (key : List String) : phasesOf key (reports i).collisions =
        phases ((t i).observed.contains key) ((before t i).contains key) := by
    rw [phasesOf_run (previous_of_new start) ticks lt, phases_of_nodup (nodup_observed distinct)]
  refine ⟨fun i lt => phasesOf_run (previous_of_new start) ticks lt, fun i lt => told lt,
    fun distinct key => ?_, fun valid respects i lt => ?_⟩
  · exact (spells_run fun i lt => told lt (distinct i lt) key).starts_lives
  · have next (j : ℕ) (ltJ : j < i) : t (j + 1) = ((t j).step (inputs j)).2 := by
      rw [ticks j (ltJ.trans lt)]
    exact (indexed_run next ((new_ok start).registry ▸ respects)
      (indexed_of_start valid start)).distinct

end Runs

/-! ### A collision that ends with one of its parties -/

namespace Meeting

/-- Two actors that overlap, and a rule. -/
def scene : Scene Rat :=
  let actor : Placement Rat :=
    { uid := "a", type := "t", x := 0, y := 0, width := none, height := none, layer := none
      blockMask := none, vx := 0, vy := 0, parent := none, sprite := none, active := true
      physics := none, fields := ∅ }
  { Scene.default with
    templates := Table.ofList [("t", Template.default)]
    actors := [actor, { actor with uid := "b", x := 5 }]
    rules := [⟨.keyboard "k" .on, "leave"⟩] }

/-- The action destroys the second actor. -/
def registry : Registry Rat Empty :=
  { actions := Table.ofList [("leave", fun _ s =>
      (.ok .done, { s with world := (s.world.destroy "b").2 }))]
    resume := fun t => nomatch t }

/-- In the second tick the key of the rule is held. -/
def inputs (i : ℕ) : InputFrame Rat :=
  if i = 1 then { keyboard := { on := NameSet.ofNames ["k"] } } else {}

theorem registry_respects : registry.Respects (World.Acted World.Act.KeepsUids) :=
  Registry.respects_of_action rfl fun _ s => .single (a := .destroy "b") trivial s.world

/-- The key of the overlap of the two. -/
def key : List String := ["0", "a", "b"]

/-- The overlap begins, goes on and ends. -/
def works : Bool :=
  match Simulation.new scene [] registry 0 with
  | .error _ => false
  | .ok s => match s.step (inputs 0) with
    | (.error _, _) => false
    | (.ok first, s) => match s.step (inputs 1) with
      | (.error _, _) => false
      | (.ok second, s) => match s.step (inputs 2) with
        | (.error _, _) => false
        | (.ok third, _) => [first, second, third].map (phasesOf key ·.collisions) ==
            [[.begin], [.on], [.finish]]

end Meeting

/-- The overlap goes on in the tick in which one of the two is destroyed, and ends in the next one;
so every key spells lives. -/
theorem meeting_ends_with_party : ∃ (t : ℕ → Simulation Rat Empty) (reports : ℕ → TickReport Rat),
    Simulation.new Meeting.scene [] Meeting.registry 0 = .ok (t 0) ∧
      (∀ i < 3, (t i).step (Meeting.inputs i) = (.ok (reports i), t (i + 1))) ∧
      ((List.range 3).flatMap fun i => phasesOf Meeting.key (reports i).collisions) =
        [.begin, .on, .finish] ∧
      ∀ key, ∃ lives : List (List Phase), (∀ life ∈ lives, IsLife life) ∧
        ((List.range 3).flatMap fun i => phasesOf key (reports i).collisions) <+:
          lives.flatten := by
  have works : Meeting.works = true := by cbv
  unfold Meeting.works at works
  split at works
  · cases works
  rename_i s new
  split at works
  · cases works
  rename_i first s₁ step₀
  split at works
  · cases works
  rename_i second s₂ step₁
  split at works
  · cases works
  rename_i third s₃ step₂
  simp only [List.map_cons, List.map_nil, beq_iff_eq, List.cons.injEq, and_true] at works
  obtain ⟨begins, goesOn, ends⟩ := works
  let t (i : ℕ) : Simulation Rat Empty := [s, s₁, s₂].getD i s₃
  let reports (i : ℕ) : TickReport Rat := [first, second].getD i third
  have ticks : ∀ i < 3, (t i).step (Meeting.inputs i) = (.ok (reports i), t (i + 1)) := by
    intro i lt
    obtain rfl | rfl | rfl : i = 0 ∨ i = 1 ∨ i = 2 := by omega
    · exact step₀
    · exact step₁
    · exact step₂
  obtain ⟨-, -, live, distinct⟩ := phases_follow_lifetimes new ticks
  refine ⟨t, reports, new, ticks, ?_, live (distinct (by cbv) Meeting.registry_respects)⟩
  show phasesOf Meeting.key first.collisions ++ (phasesOf Meeting.key second.collisions ++
    (phasesOf Meeting.key third.collisions ++ [])) = _
  rw [begins, goesOn, ends]
  rfl

/-! ### Two actors of one uid -/

namespace Twins

/-- Three actors in one place, two of them with the same uid. -/
def scene : Scene Rat :=
  let actor : Placement Rat :=
    { uid := "a", type := "t", x := 0, y := 0, width := none, height := none, layer := none
      blockMask := none, vx := 0, vy := 0, parent := none, sprite := none, active := true
      physics := none, fields := ∅ }
  { Scene.default with
    templates := Table.ofList [("t", Template.default)]
    actors := [actor, { actor with uid := "b" }, { actor with uid := "b" }]
    multiplayer := { Multiplayer.default with tickRate := 1 } }

/-- No functions. -/
def registry : Registry Rat Empty := { resume := fun t => nomatch t }

/-- The key of the overlaps of `a` with the other two. -/
def key : List String := ["0", "a", "b"]

/-- In the first tick two overlaps with the same key begin. -/
def works : Bool :=
  match Simulation.new scene [] registry 0 with
  | .error _ => false
  | .ok s => match s.step {} with
    | (.error _, _) => false
    | (.ok report, _) => phasesOf key report.collisions == [.begin, .begin]

end Twins

/-- A simulation does not test uids: where a scene that is not valid repeats one, a tick can have
two events with the same key. -/
theorem not_one_event_per_key :
    ¬∀ (sc : Scene Rat) (roles : List (Role Rat)) (r : Registry Rat Empty) (seed : UInt64) (n : ℕ)
      (t : ℕ → Simulation Rat Empty) (inputs : ℕ → InputFrame Rat) (reports : ℕ → TickReport Rat),
      Simulation.new sc roles r seed = .ok (t 0) →
      (∀ i < n, (t i).step (inputs i) = (.ok (reports i), t (i + 1))) → ∀ i < n, ∀ key,
        phasesOf key (reports i).collisions =
          phases ((t i).observed.contains key) ((before t i).contains key) := by
  intro one
  have works : Twins.works = true := by cbv
  unfold Twins.works at works
  split at works
  · cases works
  rename_i s new
  split at works
  · cases works
  rename_i report s' step
  have single := one Twins.scene [] Twins.registry 0 1 (fun i => [s].getD i s') (fun _ => {})
    (fun _ => report) new (fun i lt => by
      obtain rfl : i = 0 := by omega
      exact step) 0 Nat.one_pos Twins.key
  rw [eq_of_beq works] at single
  exact absurd (single ▸ length_phases_le _ _) (by decide)

end Simulation

end Playfield
