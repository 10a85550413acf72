import Playfield.Proofs.Body.Clearance
import Playfield.Proofs.Simulation.Start
import Playfield.Proofs.Simulation.Tick

/-!
# Tile blocking

No tick ends with an actor in a tile that blocks it.

* `Outline` is what tiles see of an actor apart from its place. Operations that keep outlines may
  move actors, attach them and destroy them, but not spawn them.
* `moved_spec`, `outlines_carried`: the phases of a tick keep outlines and remember starting places.
* `unblocked_tick`: if no actor is in a tile before a tick, none is after it.
* `no_tick_ends_in_a_tile` is the same for a whole run from the start of a valid scene.
-/

namespace Playfield

variable {K τ : Type} [Scalar K]

/-- What tiles see of an actor apart from its place. -/
structure Outline (K : Type) where
  uid : String
  half : Vec K
  flags : PhysicsFlags
  active : Bool
  blockMask : Option Int

namespace Actor

/-- The outline of an actor. -/
def outline (a : Actor K) : Outline K :=
  ⟨a.uid, ⟨Scalar.half a.width, Scalar.half a.height⟩, a.physics, a.active, a.blockMask⟩

omit [Scalar K] in
/-- The actor takes part in collisions and has a mask. -/
def isExposed (a : Actor K) : Bool :=
  a.active && a.physics.enabled && a.physics.collidable && a.blockMask.isSome

/-- No tile under the actor has a greater mask. -/
def isClear (m : TileMap K) (a : Actor K) : Bool :=
  !m.footprintBlocked a.blockMask ⟨a.x - Scalar.half a.width, a.y - Scalar.half a.height⟩
    ⟨a.x + Scalar.half a.width, a.y + Scalar.half a.height⟩

end Actor

/-- The operation keeps outlines, and with them the number of actors at most. -/
def World.Act.KeepsOutline : World.Act K → Prop
  | .edit _ f => ∀ a, (f a).outline = a.outline
  | .spawn _ => False
  | _ => True

/-- No exposed actor is in a tile. -/
def World.Unblocked (m : TileMap K) (w : World K) : Prop :=
  ∀ a ∈ w.actors, a.isExposed = true → a.isClear m = true

/-! ### Outlines -/

namespace Body

omit [Scalar K] in
/-- The outline of a body. -/
def outline (b : Body K) : Outline K := ⟨b.uid, b.half, b.flags, b.active, b.blockMask⟩

omit [Scalar K] in
theorem outline_eq_of_start {b b' : Body K} (h : b'.start = b.start) : b'.outline = b.outline :=
  (congrArg outline h :)

theorem Mirrors.outline {b : Body K} {a : Actor K} (h : b.Mirrors a) : b.outline = a.outline := by
  rw [Body.outline, Actor.outline, h.uid, h.half, h.flags, h.active, h.blockMask]

/-- A body is in a tile just if an actor with its outline at its place is exposed and not clear. -/
theorem inTile_eq_false_iff {m : TileMap K} {b : Body K} {a : Actor K}
    (same : b.outline = a.outline) (place : b.pos = ⟨a.x, a.y⟩) :
    b.inTile m = false ↔ (a.isExposed = true → a.isClear m = true) := by
  simp only [Body.outline, Actor.outline, Outline.mk.injEq] at same
  obtain ⟨_, half, flags, active, mask⟩ := same
  rw [inTile, isSolid, Body.min, Body.max, place, half, flags, active, mask, Actor.isClear,
    Actor.isExposed]
  simp only [TileMap.footprintBlocked, Vec.sub, Vec.add]
  cases a.blockMask <;> cases a.active <;> cases a.physics.enabled <;>
    cases a.physics.collidable <;> simp

end Body

namespace World

variable {w w' : World K}

theorem Act.keepsUids_of_keepsOutline {a : Act K} (keeps : a.KeepsOutline) : a.KeepsUids := by
  cases a with
  | edit uid f => exact fun a => congrArg Outline.uid (keeps a)
  | _ => trivial

theorem Act.Effect.outlines {a : Act K} (h : a.Effect w w') (keeps : a.KeepsOutline) :
    (w'.actors.map Actor.outline).Sublist (w.actors.map Actor.outline) := by
  cases h with
  | none _ actors _ => rw [actors]
  | edit uid f edited => rw [edited, map_modifyActor keeps]
  | setField uid name v v' edited => rw [edited, map_modifyActor (by intro a; rfl)]
  | spawn r b free actors index => exact keeps.elim
  | destroy found actors index =>
    rw [actors]
    exact (List.eraseIdx_sublist _ _).map _

/-- What operations that keep outlines leave are some of the actors that there were. -/
theorem Acted.outlines (h : Acted Act.KeepsOutline w w') :
    (w'.actors.map Actor.outline).Sublist (w.actors.map Actor.outline) := by
  refine h.induction (motive := fun v => (v.actors.map Actor.outline).Sublist
    (w.actors.map Actor.outline)) (fun v a keeps sub => ?_) (.refl _)
  exact ((a.effect v).outlines keeps).trans sub

end World

/-! ### A tick -/

namespace Simulation

variable {s s' : Simulation K τ} {m : TileMap K} {report : TickReport K} {input : InputFrame K}

/-- A body remembers where its actor started the tick. -/
theorem moved_spec (distinct : (s.world.actors.map Actor.uid).Nodup) {b : Body K}
    (mem : b ∈ s.moved.bodies) :
    ∃ a ∈ s.world.actors, b.outline = a.outline ∧ b.prevPos = ⟨a.x, a.y⟩ := by
  have : b.start ∈ s.started.bodies.map Body.start :=
    Physics.starts_integrate (p := s.started) ▸ List.mem_map_of_mem mem
  obtain ⟨b₀, mem₀, same⟩ := List.mem_map.1 this
  rw [started, Physics.beginTick, Physics.sync, Physics.follow_eq_map distinct, List.map_map]
    at mem₀
  obtain ⟨a, memA, rfl⟩ := List.mem_map.1 mem₀
  have mirrors := Physics.continued_mirrors (s.physics.configure s.world.scene).bodies a
  refine ⟨a, memA, ?_, ?_⟩
  · rw [← Body.outline_eq_of_start same]
    exact mirrors.outline
  · rw [show b.prevPos = b.start.prevPos from rfl, ← same]
    exact mirrors.pos

/-- Until bodies are resolved, actors keep their outlines or are destroyed. -/
theorem outlines_carried
    (acted : World.Acted World.Act.KeepsOutline s.move.2.world (s.ruled input).2.world) :
    ((s.carried input).world.actors.map Actor.outline).Sublist
      (s.world.actors.map Actor.outline) := by
  rw [carried_world, World.map_propagate (by intro a m; rfl)]
  refine acted.outlines.trans ?_
  rw [move_world, Physics.map_writeBack (by intro b a; rfl)]
  exact .refl _

/-- If no actor was in a tile before the tick, no body is in one at its start. -/
theorem home_clear (distinct : (s.world.actors.map Actor.uid).Nodup)
    (distinct' : ((s.carried input).world.actors.map Actor.uid).Nodup)
    (unblocked : s.world.Unblocked m)
    (acted : World.Acted World.Act.KeepsOutline s.move.2.world (s.ruled input).2.world) :
    ∀ b ∈ (s.moved.sync (s.carried input).world).bodies, b.start.inTile m = false := by
  have sub := outlines_carried acted
  intro b mem
  rw [Physics.sync, Physics.follow_eq_map distinct'] at mem
  obtain ⟨a, memA, rfl⟩ := List.mem_map.1 mem
  obtain ⟨a₀, mem₀, same⟩ := List.mem_map.1 (sub.subset (List.mem_map_of_mem memA))
  have uid : a₀.uid = a.uid := congrArg Outline.uid same
  -- The body continues the one of the same actor, which remembers where that started.
  have known : a.uid ∈ s.moved.bodies.map Body.uid := by
    rw [uids_moved distinct, ← uid]
    exact List.mem_map_of_mem mem₀
  obtain ⟨b₁, found⟩ := Option.isSome_iff_exists.1 (Roster.contains_iff.2 known)
  obtain ⟨mem₁, uid₁⟩ := Roster.mem_of_find?_eq_some found
  obtain ⟨a₁, memA₁, outline, place⟩ := moved_spec distinct mem₁
  have : a₁ = a₀ := by
    refine List.inj_on_of_nodup_map distinct memA₁ mem₀ ?_
    rw [uid, ← uid₁]
    exact (congrArg Outline.uid outline).symm
  subst this
  have mirrors := Body.mirrors_refresh uid₁
  rw [Physics.continued_of_body found]
  refine (Body.inTile_eq_false_iff ?_ ?_).2 (unblocked a₁ mem₀)
  · exact mirrors.outline.trans same.symm
  · exact place

/-- When bodies have been resolved, an actor has a body with its outline. -/
theorem Passed.body (passed : Passed s input report s')
    (indexed : (s.carried input).world.Indexed) {uid : String} {a : Actor K}
    (found : (s.carried input).world.actor? uid = some a) :
    ∃ b, s'.physics.body? uid = some b ∧ b.outline = a.outline := by
  have starts := Pushing.starts_resolve (s.moved.sync (s.carried input).world)
  rw [← passed.physics] at starts
  have distinct := indexed.distinct
  obtain ⟨mem, uidA⟩ := indexed.mem_of_actor? found
  have known : uid ∈ s'.physics.bodies.map Body.uid := by
    rw [Body.uids_of_starts starts, Physics.uids_sync distinct, ← uidA]
    exact List.mem_map_of_mem mem
  obtain ⟨b, foundB⟩ := Option.isSome_iff_exists.1 (Roster.contains_iff.2 known)
  obtain ⟨memB, uidB⟩ := Roster.mem_of_find?_eq_some foundB
  have : b.start ∈ (s.moved.sync (s.carried input).world).bodies.map Body.start :=
    starts ▸ List.mem_map_of_mem memB
  obtain ⟨b', mem', same⟩ := List.mem_map.1 this
  rw [Physics.sync, Physics.follow_eq_map distinct] at mem'
  obtain ⟨a', memA', rfl⟩ := List.mem_map.1 mem'
  have mirrors := Physics.continued_mirrors s.moved.bodies a'
  obtain rfl : a' = a := by
    refine List.inj_on_of_nodup_map distinct memA' mem ?_
    rw [uidA, ← uidB, ← mirrors.uid]
    exact Body.uid_eq_of_start same
  exact ⟨b, foundB, (Body.outline_eq_of_start same).symm.trans mirrors.outline⟩

/-- A tick keeps the scene, lets uids find their actors, and lets no actor end in a tile. -/
theorem unblocked_tick (map : s.world.scene.map = some m) (indexed : s.world.Indexed)
    (unblocked : s.world.Unblocked m) (tick : Ticked World.Act.KeepsOutline s report s') :
    s'.world.scene = s.world.scene ∧ s'.world.Indexed ∧ s'.world.Unblocked m := by
  refine ⟨tick.scene, ?_⟩
  obtain ⟨input, ok, acted⟩ := tick
  have passed := step_ok ok
  have carried := carried_indexed input (acted.indexed
    (fun _ keeps => World.Act.keepsUids_of_keepsOutline keeps) (move_indexed indexed))
  have ended := passed.indexed carried
  refine ⟨ended, fun a mem => ?_⟩
  have clear := Physics.clear_resolve (p := s.moved.sync (s.carried input).world) map
    (Physics.uids_sync carried.distinct ▸ carried.distinct)
    (home_clear indexed.distinct carried.distinct unblocked acted)
  rw [← passed.physics] at clear
  -- The actor stands where its body is, which has the outline that the actor always had.
  have found : (s'.physics.writeBack (s.carried input).world).actor? a.uid = some a :=
    (Physics.indexed_writeBack carried).actor?_uid (passed.actors ▸ mem)
  rw [Physics.actor?_writeBack carried.filed, Option.map_eq_some_iff] at found
  obtain ⟨a', found', placed⟩ := found
  obtain ⟨b, foundB, outline⟩ := passed.body carried found'
  rw [foundB] at placed
  refine (Body.inTile_eq_false_iff ?_ ?_).1 (clear b (Roster.mem_of_find?_eq_some foundB).1)
  · rw [outline, ← placed]
    rfl
  · rw [← placed]
    rfl

/-! ### A run -/

/-- In a run of successful ticks whose rules spawn no actor and change no outline, from the start
of a valid scene with a map where no exposed actor is in a tile, no tick ends with an exposed actor
in a tile. -/
theorem no_tick_ends_in_a_tile {sc : Scene K} {roles : List (Role K)} {r : Registry K τ}
    {seed : UInt64} (valid : sc.validate = .ok ()) (map : sc.map = some m)
    (start : Simulation.new sc roles r seed = .ok s) (unblocked : s.world.Unblocked m)
    (run : Relation.ReflTransGen
      (fun s s' => ∃ report, Ticked World.Act.KeepsOutline s report s') s s') :
    ∀ a ∈ s'.world.actors, a.isExposed = true → a.isClear m = true := by
  suffices s'.world.scene = sc ∧ s'.world.Indexed ∧ s'.world.Unblocked m from this.2.2
  induction run with
  | refl => exact ⟨(new_ok start).scene, indexed_of_start valid start, unblocked⟩
  | tail _ tick ih =>
    obtain ⟨scene, indexed, unblocked⟩ := ih
    obtain ⟨report, tick⟩ := tick
    obtain ⟨scene', indexed', unblocked'⟩ := unblocked_tick (scene ▸ map) indexed unblocked tick
    exact ⟨scene'.trans scene, indexed', unblocked'⟩

/-! ### An actor that is put into a tile -/

namespace Warp

/-- Three cells in a row, of which the last holds a tile. -/
def map : TileMap Rat :=
  { width := 3, height := 1, tileSize := 10, tiles := #[#[0, 0, 1]]
    defs := Table.ofList [(1, { blockMask := some 5 })] }

/-- One actor, and a rule that puts it into the tile. -/
def scene : Scene Rat :=
  { Scene.default with
    templates := Table.ofList
      [("t", { Template.default with width := 4, height := 4, blockMask := some 1 })]
    actors := [{
      uid := "a", type := "t", x := 5, y := 5, width := none, height := none, layer := none
      blockMask := none, vx := 0, vy := 0, parent := none, sprite := none, active := true
      physics := none, fields := ∅ }]
    rules := [⟨.keyboard "k" .on, "warp"⟩]
    map := some map }

/-- The action puts the actor into the tile. -/
def registry : Registry Rat Empty :=
  { actions := Table.ofList [("warp", fun _ s =>
      (.ok .done, { s with world := s.world.modifyActor "a" fun a => { a with x := 25 } }))]
    resume := fun t => nomatch t }

/-- The key of the rule is held. -/
def frame : InputFrame Rat := { keyboard := { on := NameSet.ofNames ["k"] } }

theorem registry_respects : registry.Respects (World.Acted World.Act.KeepsOutline) :=
  have moved : World.Act.KeepsOutline (.edit "a" fun a : Actor Rat => { a with x := 25 }) :=
    fun _ => rfl
  Registry.respects_of_action rfl fun _ s => .single moved s.world

/-- The first tick starts outside of tiles and sends the actor back. -/
def works : Bool :=
  match Simulation.new scene [] registry 0 with
  | .ok s => (s.world.actors.all fun a => a.isClear map) &&
    match s.step frame with
    | (.ok report, _) => report.rolledBack == ["a"]
    | (.error _, _) => false
  | .error _ => false

end Warp

/-- The actor that a rule put into the tile is not in it when the tick ends. -/
theorem warp_ends_outside : ∃ (s s' : Simulation Rat Empty) (report : TickReport Rat),
    Simulation.new Warp.scene [] Warp.registry 0 = .ok s ∧
      s.step Warp.frame = (.ok report, s') ∧ report.rolledBack = ["a"] ∧
      ∀ a ∈ s'.world.actors, a.isExposed = true → a.isClear Warp.map = true := by
  have works : Warp.works = true := by cbv
  unfold Warp.works at works
  split at works
  · rename_i s start
    rw [Bool.and_eq_true, List.all_eq_true] at works
    obtain ⟨clear, rest⟩ := works
    split at rest
    · rename_i report s' ok
      refine ⟨s, s', report, start, ok, by simpa using rest, ?_⟩
      have respects := (new_ok start).registry ▸ Warp.registry_respects
      exact no_tick_ends_in_a_tile (by cbv) rfl start (fun a mem _ => clear a mem)
        (.single ⟨report, ticked_of_respects respects ok⟩)
    · cases rest
  · cases works

end Simulation

end Playfield
