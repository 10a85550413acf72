import Playfield.Proofs.Field
import Playfield.Proofs.World.Reuse

/-!
# Actors are typed by schemas

Fields enter a world with placed actors, with spawned ones and by assignment. All three fit them to
the schema of the type, so that in a world every actor is typed.

* `Scene.Typed`: an actor has the fields that its schema declares, each with a value of its type.
  `typed_apply` and `typed_foldl`: operations that replace neither fields nor types keep this.
* `Scene.Misfits`: the schema of a type refuses a default or a given value. Placing and spawning
  fail for that reason and for no other (`place_error_iff`, `SpawnTyped.refused`).
* `World.SpawnTyped`, `World.AssignTyped`: what a spawn and an assignment do to fields, and when
  they are refused.
* `fields_follow_schemas` joins these; `spawnable_iff_defaults_fit` says which types of a valid
  scene can always be spawned.
-/

namespace Playfield

open World

variable {K : Type}

namespace Scene

variable {sc : Scene K} {type : String} {own fields : Fields K}

theorem knowsType_of_schema {schema : Schema} (typing : sc.schema? type = some schema) :
    sc.knowsType type = true := by
  rw [knowsType, typing, Option.isSome_some, Bool.or_true]

/-- The defaults of a type. -/
def defaults (sc : Scene K) (type : String) : Fields K := (sc.template? type).elim ∅ (·.fields)

/-- The actor has the fields that the schema of its type declares, each with a value of its type. -/
def Typed (sc : Scene K) (a : Actor K) : Prop :=
  ∀ schema, sc.schema? a.type = some schema → schema.Types a.fields

variable [Scalar K]

/-- The schema of the type refuses a default or a given value. -/
def Misfits (sc : Scene K) (type : String) (own : Fields K) : Prop :=
  ∃ schema, sc.schema? type = some schema ∧ ∃ name v,
    ((sc.defaults type).get? name = some v ∨ own.get? name = some v) ∧ schema.Refuses name v

/-- The error says why the schema of the type refuses a default or a given value. -/
def Blames (sc : Scene K) (type : String) (own : Fields K) (e : SchemaError) : Prop :=
  ∃ schema, sc.schema? type = some schema ∧ ∃ name v,
    ((sc.defaults type).get? name = some v ∨ own.get? name = some v) ∧ schema.Explains name v e

/-- The schema of the type refuses no default. -/
def DefaultsFit (sc : Scene K) (type : String) : Prop :=
  ∀ schema, sc.schema? type = some schema → ∀ name v, (sc.defaults type).get? name = some v →
    ¬schema.Refuses name v

/-- Every field has its start value. -/
def Fresh (sc : Scene K) (type : String) (own fields : Fields K) : Prop :=
  ∀ name, fields.get? name = startValue? (sc.schema? type) (sc.defaults type) own name

/-- The test of an assignment to a field of an actor of the type. -/
def checked (sc : Scene K) (type name : String) (v : FieldValue K) :
    Except SchemaError (FieldValue K) :=
  match sc.schema? type with
  | some schema => checkField schema name v
  | none => .ok v

/-- What is stored when a value is assigned to a field of an actor of the type: the value, fitted to
the declared type if there is a schema. -/
def fitted? (sc : Scene K) (type name : String) (v : FieldValue K) : Option (FieldValue K) :=
  match sc.schema? type with
  | some schema => (schema.get? name).bind v.conform
  | none => some v

theorem checked_eq_ok_iff {name : String} {v v' : FieldValue K} :
    sc.checked type name v = .ok v' ↔ sc.fitted? type name v = some v' := by
  unfold checked fitted?
  cases sc.schema? type with
  | none => simp
  | some schema => exact Schema.checkField_eq_ok_iff

/-- An error of an assignment explains itself. -/
theorem explains_of_checked {name : String} {v : FieldValue K} {e : SchemaError}
    (h : sc.checked type name v = .error e) :
    ∃ schema, sc.schema? type = some schema ∧ schema.Explains name v e := by
  unfold checked at h
  split at h
  · rename_i schema typing
    exact ⟨schema, typing, Schema.explains_of_checkField h⟩
  · cases h

theorem checked_error_iff {name : String} {v : FieldValue K} :
    (∃ e, sc.checked type name v = .error e) ↔
      ∃ schema, sc.schema? type = some schema ∧ schema.Refuses name v := by
  unfold checked
  cases sc.schema? type with
  | none => simp
  | some schema => simpa using Schema.checkField_error_iff

theorem fieldsOf_error_iff : (∃ e, sc.fieldsOf type own = .error e) ↔ sc.Misfits type own :=
  buildFields_error_iff

theorem fresh_of_fieldsOf (h : sc.fieldsOf type own = .ok fields) : sc.Fresh type own fields :=
  get?_of_buildFields h

/-- New fields are those of the schema. -/
theorem types_of_fieldsOf (h : sc.fieldsOf type own = .ok fields) {schema : Schema}
    (typing : sc.schema? type = some schema) : schema.Types fields := by
  rw [fieldsOf, typing] at h
  exact types_of_buildFields h

/-- An error in new fields explains itself by a default or a given value. -/
theorem blames_of_fieldsOf {e : SchemaError} (h : sc.fieldsOf type own = .error e) :
    sc.Blames type own e := by
  rw [fieldsOf] at h
  cases typing : sc.schema? type with
  | none =>
    rw [typing] at h
    cases h
  | some schema =>
    rw [typing] at h
    exact ⟨schema, typing, explains_of_buildFields h⟩

/-- Where nothing is given, only the defaults matter. -/
theorem misfits_empty_iff : sc.Misfits type ∅ ↔ ¬sc.DefaultsFit type := by
  unfold Misfits DefaultsFit
  push Not
  simp only [show ∀ name, (∅ : Fields K).get? name = none from fun _ => rfl, reduceCtorEq, or_false]

end Scene

variable [Scalar K] {sc : Scene K}

namespace World

variable {w w' : World K} {a : Actor K} {r : SpawnRequest K}

/-! ### Placed actors -/

/-- Actors cannot be placed if and only if a schema refuses a default or a value of one of them. -/
theorem place_error_iff {l : List (Placement K)} :
    (∃ e, place sc l = .error e) ↔ ∃ p ∈ l, sc.Misfits p.type p.fields := by
  induction l with
  | nil =>
    constructor
    · rintro ⟨e, failed⟩
      cases failed
    · rintro ⟨p, mem, -⟩
      exact absurd mem List.not_mem_nil
  | cons p rest ih =>
    rw [List.exists_mem_cons_iff, ← ih, ← Scene.fieldsOf_error_iff, place]
    cases sc.fieldsOf p.type p.fields with
    | error e => simp
    | ok fields => cases place sc rest <;> simp [Except.map]

theorem new_error_iff {roles : List (Role K)} :
    (∃ e, World.new sc roles = .error e) ↔ ∃ p ∈ sc.actors, sc.Misfits p.type p.fields := by
  rw [← place_error_iff, World.new]
  cases place sc sc.actors <;> simp [Except.map]

/-- The actors of a world at its start are those of the scene, with their start values. -/
theorem fresh_of_new {roles : List (Role K)} (h : World.new sc roles = .ok w) :
    List.Forall₂ (fun p a => a.uid = p.uid ∧ a.type = p.type ∧ sc.Fresh p.type p.fields a.fields)
      sc.actors w.actors := by
  refine (forall₂_place (actors_of_new h)).imp fun p a placed => ?_
  obtain ⟨fields, fits, rfl⟩ := placed
  exact ⟨rfl, rfl, Scene.fresh_of_fieldsOf fits⟩

theorem typed_of_new {roles : List (Role K)} (h : World.new sc roles = .ok w) :
    ∀ a ∈ w.actors, sc.Typed a := by
  have placed := forall₂_place (actors_of_new h)
  clear h
  generalize sc.actors = placements at placed
  generalize w.actors = actors at placed ⊢
  induction placed with
  | nil => exact fun _ mem => absurd mem List.not_mem_nil
  | cons one _ ih =>
    intro b mem
    rcases List.mem_cons.1 mem with rfl | later
    · obtain ⟨fields, fits, rfl⟩ := one
      exact fun schema typing => Scene.types_of_fieldsOf fits typing
    · exact ih b later

/-! ### Spawned actors -/

/-- What a spawn on a world of the scene does to the fields of actors, and when it is refused. -/
structure SpawnTyped (sc : Scene K) (w : World K) (r : SpawnRequest K) : Prop where
  fresh : ∀ uid w', w.spawn r = (.ok uid, w') → ∃ a, w'.actors = w.actors ++ [a] ∧
    a.uid = uid ∧ a.type = r.type ∧ sc.Fresh r.type r.fields a.fields
  rejected : ∀ e w', w.spawn r = (.error e, w') → w'.actors = w.actors
  refused : (∃ owner e, (w.spawn r).1 = .error (.field owner e)) ↔ sc.Misfits r.type r.fields
  blamed : ∀ owner e, (w.spawn r).1 = .error (.field owner e) →
    owner = s!"spawned actor '{spawnUid r.type (w.nextSpawn r.type)}'" ∧ sc.Blames r.type r.fields e

/-- A spawn of a known type goes as its fields go. -/
theorem spawn_of_known (known : w.scene.knowsType r.type = true) :
    (w.spawn r).1 = match w.scene.fieldsOf r.type r.fields with
      | .ok _ => .ok (spawnUid r.type (w.nextSpawn r.type))
      | .error e =>
        .error (.field s!"spawned actor '{spawnUid r.type (w.nextSpawn r.type)}'" e) := by
  simp only [spawn, known, if_true]
  cases w.scene.fieldsOf r.type r.fields <;> rfl

theorem spawn_of_unknown (unknown : ¬w.scene.knowsType r.type = true) :
    (w.spawn r).1 = .error (.unknownActorType "" r.type) := by
  rw [spawn, if_neg unknown]

/-- Who is spawned comes last, with the fields of its type. -/
theorem actors_of_spawn {uid : String} (h : w.spawn r = (.ok uid, w')) :
    ∃ fields, w.scene.fieldsOf r.type r.fields = .ok fields ∧ w'.actors =
      w.actors ++ [.ofPlacement w.scene (SpawnRequest.placement r uid) fields] := by
  simp only [spawn] at h
  repeat' split at h
  all_goals cases h
  exact ⟨_, ‹_›, rfl⟩

theorem spawnTyped (scene : w.scene = sc) (r : SpawnRequest K) : SpawnTyped sc w r where
  fresh uid w' spawned := by
    obtain ⟨fields, fits, actors⟩ := actors_of_spawn spawned
    rw [scene] at fits actors
    exact ⟨_, actors, rfl, rfl, Scene.fresh_of_fieldsOf fits⟩
  rejected _ _ failed := (spawn_error failed).1
  refused := by
    rw [← Scene.fieldsOf_error_iff, ← scene]
    by_cases known : w.scene.knowsType r.type = true
    · rw [spawn_of_known known]
      cases w.scene.fieldsOf r.type r.fields <;> simp
    · -- A type that is not known has no schema.
      rw [spawn_of_unknown known]
      constructor
      · rintro ⟨owner, e, failed⟩
        cases failed
      · rintro ⟨e, failed⟩
        obtain ⟨schema, typing, -⟩ := Scene.blames_of_fieldsOf failed
        exact absurd (Scene.knowsType_of_schema typing) known
  blamed owner e failed := by
    subst scene
    by_cases known : w.scene.knowsType r.type = true
    · rw [spawn_of_known known] at failed
      cases made : w.scene.fieldsOf r.type r.fields with
      | error e' =>
        rw [made] at failed
        cases failed
        exact ⟨rfl, Scene.blames_of_fieldsOf made⟩
      | ok fields =>
        rw [made] at failed
        cases failed
    · rw [spawn_of_unknown known] at failed
      cases failed

/-! ### Assignments -/

/-- What an assignment to a field does to the fields of actors, and when it is refused. -/
structure AssignTyped (sc : Scene K) (w : World K) (uid name : String) (v : FieldValue K) :
    Prop where
  stored : ∀ w', w.setField uid name v = (.ok (), w') →
    (w.actor? uid = none ∧ w' = w) ∨ ∃ a v', w.actor? uid = some a ∧
      sc.fitted? a.type name v = some v' ∧
        w' = w.modifyActor uid fun b => { b with fields := b.fields.insert name v' }
  rejected : ∀ e w', w.setField uid name v = (.error e, w') → w' = w ∧ ∃ a schema,
    w.actor? uid = some a ∧ sc.schema? a.type = some schema ∧ schema.Explains name v e
  refused : (∃ e, (w.setField uid name v).1 = .error e) ↔ ∃ a schema,
    w.actor? uid = some a ∧ sc.schema? a.type = some schema ∧ schema.Refuses name v

theorem setField_of_absent {uid : String} (absent : w.actor? uid = none) (name : String)
    (v : FieldValue K) : w.setField uid name v = (.ok (), w) := by
  rw [setField, absent]

/-- An assignment to a live actor goes as the test of its type goes. -/
theorem setField_of_found {uid : String} (found : w.actor? uid = some a) (name : String)
    (v : FieldValue K) : w.setField uid name v =
      match w.scene.checked a.type name v with
      | .error e => (.error e, w)
      | .ok v' =>
        (.ok (), w.modifyActor uid fun b => { b with fields := b.fields.insert name v' }) := by
  rw [setField, found]
  rfl

theorem assignTyped (scene : w.scene = sc) (uid name : String) (v : FieldValue K) :
    AssignTyped sc w uid name v := by
  subst scene
  cases found : w.actor? uid with
  | none =>
    have same := setField_of_absent found name v
    refine ⟨fun w' ok => .inl ⟨found, ?_⟩, fun e w' failed => ?_, ?_⟩
    · rw [same] at ok
      cases ok
      rfl
    · rw [same] at failed
      cases failed
    · rw [same, found]
      simp
  | some a =>
    have as := setField_of_found found name v
    cases checked : w.scene.checked a.type name v with
    | error e =>
      rw [checked] at as
      refine ⟨fun w' ok => ?_, fun e w' failed => ?_, ?_⟩
      · rw [as] at ok
        cases ok
      · rw [as] at failed
        cases failed
        obtain ⟨schema, typing, explains⟩ := Scene.explains_of_checked checked
        exact ⟨rfl, a, schema, found, typing, explains⟩
      · rw [as, found]
        simpa using Scene.checked_error_iff.1 ⟨e, checked⟩
    | ok v' =>
      rw [checked] at as
      refine ⟨fun w' ok => ?_, fun e w' failed => ?_, ?_⟩
      · rw [as] at ok
        cases ok
        exact .inr ⟨a, v', found, Scene.checked_eq_ok_iff.1 checked, rfl⟩
      · rw [as] at failed
        cases failed
      · have taken : ¬∃ e, w.scene.checked a.type name v = .error e := by simp [checked]
        rw [Scene.checked_error_iff] at taken
        rw [as, found]
        simpa using taken

/-! ### Operations -/

/-- The operation replaces neither fields nor types. -/
def Op.KeepsFields : Op K → Prop
  | act (.edit _ f) => ∀ a, (f a).fields = a.fields ∧ (f a).type = a.type
  | _ => True

theorem typed_spawn (typed : ∀ a ∈ w.actors, w.scene.Typed a) :
    ∀ a ∈ (w.spawn r).2.actors, w.scene.Typed a := by
  rcases spawned : w.spawn r with ⟨e | uid, w'⟩
  · rw [(spawn_error spawned).1]
    exact typed
  · obtain ⟨fields, fits, actors⟩ := actors_of_spawn spawned
    rw [actors]
    intro a mem
    rcases List.mem_append.1 mem with old | new
    · exact typed a old
    · rw [List.mem_singleton.1 new]
      exact fun schema typing => Scene.types_of_fieldsOf fits typing

theorem typed_setField (typed : ∀ a ∈ w.actors, w.scene.Typed a) (uid name : String)
    (v : FieldValue K) : ∀ a ∈ (w.setField uid name v).2.actors, w.scene.Typed a := by
  cases found : w.actor? uid with
  | none =>
    rw [setField_of_absent found]
    exact typed
  | some b =>
    rw [setField_of_found found]
    cases checked : w.scene.checked b.type name v with
    | error e => exact typed
    | ok v' =>
      intro a mem
      rcases mem_of_mem_modifyActor mem with old | ⟨c, found', rfl⟩
      · exact typed a old
      · -- Who is changed is who was found, so that the test was that of its own schema.
        intro schema typing
        obtain rfl : b = c := Option.some.inj (found.symm.trans found')
        rw [Scene.checked, show w.scene.schema? b.type = some schema from typing] at checked
        exact (typed b (live_of_actor? found') schema typing).insert checked

/-- What every operation keeps. -/
theorem typed_apply {op : Op K} (keeps : op.KeepsFields)
    (typed : ∀ a ∈ w.actors, w.scene.Typed a) : ∀ a ∈ (op.apply w).actors, w.scene.Typed a := by
  cases op with
  | act act =>
    cases act with
    | edit uid f =>
      intro a mem
      rcases mem_of_mem_modifyActor mem with old | ⟨b, found, rfl⟩
      · exact typed a old
      · obtain ⟨fields, type⟩ := keeps b
        rw [Scene.Typed, fields, type]
        exact typed b (live_of_actor? found)
    | setField uid name v => exact typed_setField typed uid name v
    | setRoleField role name v =>
      simp only [Op.apply, Act.apply, setRoleField]
      split <;> exact typed
    | spawn r => exact typed_spawn typed
    | destroy uid =>
      simp only [Op.apply, Act.apply, destroy]
      split
      · exact typed
      · exact fun a mem => typed a (List.mem_of_mem_eraseIdx mem)
    | _ => exact typed
  | _ => exact typed

/-- What every run keeps. -/
theorem typed_foldl {ops : List (Op K)} (keeps : ∀ op ∈ ops, op.KeepsFields)
    (typed : ∀ a ∈ w.actors, w.scene.Typed a) :
    ∀ a ∈ (ops.foldl Op.apply w).actors, w.scene.Typed a := by
  induction ops generalizing w with
  | nil => exact typed
  | cons op ops ih =>
    -- The invariant speaks of the scene of the world, which stays.
    have scene : (op.apply w).scene = w.scene := w.scene_foldl [op]
    have first := typed_apply (keeps op List.mem_cons_self) typed
    rw [← scene] at first ⊢
    exact ih (fun op' mem => keeps op' (List.mem_cons_of_mem _ mem)) first

end World

/-! ### A mint -/

namespace Mint

/-- A scene whose coins are declared to be worth a number. -/
def scene (worth : FieldValue Rat) : Scene Rat :=
  { Scene.default with
    schemas := Table.ofList [("coin", Table.ofList [("worth", .float), ("face", .string)])]
    templates := Table.ofList [("coin",
      { Template.default with fields := Table.ofList [("worth", worth)] })] }

/-- Another coin. -/
def request : SpawnRequest Rat := ⟨"coin", 0, 0, 0, 0, none, ∅⟩

/-- What comes of the first coin. -/
def first (worth : FieldValue Rat) : Option (Except SceneError String) :=
  (World.new (scene worth) []).toOption.map fun w => (w.spawn request).1

/-- A coin is made and gains in worth. -/
def operations : List (Op Rat) :=
  [.act (.spawn request), .act (.setField "coin_1" "worth" (.int 5)),
    .act (.setField "coin_1" "worth" (.str "much"))]

/-- The worth of the first coin after these. -/
def worth : Option (FieldValue Rat) := do
  let w ← (World.new (scene (.int 3)) []).toOption
  let coin ← (operations.foldl Op.apply w).actor? "coin_1"
  coin.fields.get? "worth"

end Mint

/-! ### Every world of a scene -/

/-- Fields follow schemas. A world of a scene can be made unless the schema of a placed actor
refuses a default or a value of its own, and of a valid scene it can be made. Its actors have the
start values of their fields. After any operations that replace neither fields nor types, every
live actor is typed by its schema; a spawned actor has the start values of its fields, and an
assigned value is fitted to its type; and a spawn or an assignment that is refused, as happens for a
value that the schema refuses and for nothing else, leaves all actors as they were. An assignment is
to the actor that is found under a uid, which in a valid scene is the live actor of this uid as long
as no operation overwrites one. -/
theorem fields_follow_schemas (sc : Scene K) (roles : List (Role K)) :
    ((∃ e, World.new sc roles = .error e) ↔ ∃ p ∈ sc.actors, sc.Misfits p.type p.fields) ∧
      (sc.validate = .ok () → ∃ w, World.new sc roles = .ok w) ∧
      ∀ w, World.new sc roles = .ok w →
        List.Forall₂ (fun p a => a.uid = p.uid ∧ a.type = p.type ∧
          sc.Fresh p.type p.fields a.fields) sc.actors w.actors ∧
        ∀ ops : List (Op K), (∀ op ∈ ops, op.KeepsFields) →
          let v := ops.foldl Op.apply w
          (∀ a ∈ v.actors, sc.Typed a) ∧ (∀ r, SpawnTyped sc v r) ∧
            (∀ uid name value, AssignTyped sc v uid name value) ∧
            (sc.validate = .ok () → (∀ op ∈ ops, op.KeepsUids) →
              ∀ uid a, v.actor? uid = some a ↔ a ∈ v.actors ∧ a.uid = uid) := by
  refine ⟨new_error_iff, fun valid => new_of_validate valid roles, fun w new =>
    ⟨fresh_of_new new, fun ops keeps => ?_⟩⟩
  have start : w.scene = sc := (new_ok new).1
  have scene : (ops.foldl Op.apply w).scene = sc := (w.scene_foldl ops).trans start
  refine ⟨?_, fun r => spawnTyped scene r, fun uid name value => assignTyped scene uid name value,
    fun valid same uid a => ?_⟩
  · rw [← start]
    exact typed_foldl keeps (start.symm ▸ typed_of_new new)
  · have indexed := (indexed_of_new new (Scene.distinct_of_validate valid)).run same
    exact indexed.actor?_eq_some_iff

/-- The coin of the mint is worth a number also when an integer was assigned and a text refused. -/
theorem minted_coin_stays_typed :
    (∃ w, World.new (Mint.scene (.int 3)) [] = .ok w ∧
      ∀ a ∈ (Mint.operations.foldl Op.apply w).actors, (Mint.scene (.int 3)).Typed a) ∧
        Mint.worth = some (.float 5) := by
  obtain ⟨-, valid, all⟩ := fields_follow_schemas (Mint.scene (.int 3)) []
  obtain ⟨w, new⟩ := valid (by cbv)
  refine ⟨⟨w, new, ((all w new).2 Mint.operations ?_).1⟩, by cbv⟩
  simp [Mint.operations, Op.KeepsFields]

/-! ### Types that can always be spawned -/

/-- In a world of a valid scene, whatever has become of it, a known type can be spawned without
values of its own if and only if its defaults fit its schema. They do where the type has no schema
or no template, and where the scene places an actor of the type: of such types alone validation
looks at the defaults. Otherwise the spawn is refused for one of the defaults, and all actors
stay. -/
theorem spawnable_iff_defaults_fit {sc : Scene K} (valid : sc.validate = .ok ())
    (roles : List (Role K)) {r : SpawnRequest K} (known : sc.knowsType r.type = true)
    (plain : r.fields = ∅) :
    ∃ w, World.new sc roles = .ok w ∧ ∀ ops : List (Op K),
      let v := ops.foldl Op.apply w
      let uid := spawnUid r.type (v.nextSpawn r.type)
      ((v.spawn r).1 = .ok uid ↔ sc.DefaultsFit r.type) ∧
        (¬sc.DefaultsFit r.type → ∃ e, sc.Blames r.type ∅ e ∧
          (v.spawn r).1 = .error (.field s!"spawned actor '{uid}'" e) ∧
            (v.spawn r).2.actors = v.actors) ∧
        (sc.schema? r.type = none ∨ sc.template? r.type = none ∨
            (∃ p ∈ sc.actors, p.type = r.type) →
          sc.DefaultsFit r.type) := by
  obtain ⟨w, new⟩ := new_of_validate valid roles
  refine ⟨w, new, fun ops => ?_⟩
  have scene : (ops.foldl Op.apply w).scene = sc := (w.scene_foldl ops).trans (new_ok new).1
  have spawned := spawn_of_known (w := ops.foldl Op.apply w) (r := r) (scene.symm ▸ known)
  rw [scene, plain] at spawned
  refine ⟨?_, fun misfit => ?_, ?_⟩
  · rw [← not_iff_not, ← Scene.misfits_empty_iff, ← Scene.fieldsOf_error_iff, spawned]
    cases sc.fieldsOf r.type ∅ <;> simp
  · obtain ⟨e, failed⟩ := Scene.fieldsOf_error_iff.2 (Scene.misfits_empty_iff.2 misfit)
    rw [failed] at spawned
    exact ⟨e, Scene.blames_of_fieldsOf failed, spawned, (spawn_error (Prod.ext spawned rfl)).1⟩
  · rintro (untyped | bare | ⟨p, mem, same⟩)
    · intro schema typing
      rw [untyped] at typing
      cases typing
    · intro schema typing name v default
      rw [Scene.defaults, bare] at default
      cases default
    · -- The actor was placed, so its schema refuses no default.
      have placed : ¬∃ e, World.new sc roles = .error e := by simp [new]
      rw [new_error_iff] at placed
      intro schema typing name v default refuses
      exact placed ⟨p, mem, schema, same ▸ typing, name, v, .inl (same ▸ default), refuses⟩

/-- A mint whose coins are worth a number by default makes coins whenever it is asked to. -/
theorem coins_can_be_minted :
    ∃ w, World.new (Mint.scene (.int 3)) [] = .ok w ∧ ∀ ops : List (Op Rat),
      ((ops.foldl Op.apply w).spawn Mint.request).1 =
        .ok (spawnUid "coin" ((ops.foldl Op.apply w).nextSpawn "coin")) := by
  have valid : (Mint.scene (.int 3)).validate = .ok () := by cbv
  obtain ⟨w, new, all⟩ := spawnable_iff_defaults_fit valid [] (r := Mint.request) (by cbv) rfl
  refine ⟨w, new, fun ops => (all ops).1.2 ?_⟩
  have fits : ((Mint.scene (.int 3)).fieldsOf Mint.request.type ∅).isOk = true := by cbv
  refine Classical.not_not.1 fun misfit => ?_
  obtain ⟨e, failed⟩ := Scene.fieldsOf_error_iff.2 (Scene.misfits_empty_iff.2 misfit)
  rw [failed] at fits
  cases fits

/-- A mint whose coins are worth a text by default is a valid scene, but makes no coin. -/
theorem coin_is_not_minted :
    (Mint.scene (.str "much")).validate = .ok () ∧
      ((Mint.scene (.str "much")).template? "coin").isSome ∧
        ((Mint.scene (.str "much")).schema? "coin").isSome ∧ Mint.request.fields = ∅ ∧
          ∃ w, World.new (Mint.scene (.str "much")) [] = .ok w ∧
            (w.spawn Mint.request).1 =
              .error (.field "spawned actor 'coin_1'" (.typeMismatch "worth" .float .string)) := by
  refine ⟨by cbv, by cbv, by cbv, rfl, ?_⟩
  have first : Mint.first (.str "much") =
      some (.error (.field "spawned actor 'coin_1'" (.typeMismatch "worth" .float .string))) := by
    cbv
  rw [Mint.first] at first
  cases new : World.new (Mint.scene (.str "much")) [] with
  | error e =>
    rw [new] at first
    cases first
  | ok w =>
    rw [new] at first
    exact ⟨w, rfl, Option.some.inj first⟩

end Playfield
