import Playfield.Field
import Playfield.Proofs.Table

/-!
# Fields and their schemas

What the fields of a new actor are, and when a value is refused.

* `Schema.Refuses` says of one value that the schema does not take it: the field is not declared, or
  the value does not fit. `checkField_eq_ok_iff`, `checkField_error_iff` tell an assignment by it.
* `Schema.Types`: the fields are those declared, each with a value of its type. Assignments keep
  this (`Types.insert`).
* `get?_of_buildFields`: a new field has its own value, else the default, else zero, fitted to the
  declared type. `buildFields_error_iff`: no such fields are made if and only if a value is refused.
-/

namespace Playfield

variable {K : Type} [Scalar K]

namespace FieldValue

variable {v v' : FieldValue K} {t : FieldType}

/-- What is fitted to a type has that type. -/
theorem type_of_conform (h : v.conform t = some v') : v'.type = t := by
  unfold conform at h
  split at h
  · cases h
    rfl
  · split at h
    · rename_i same
      cases h
      exact same
    · cases h

theorem type_zero (t : FieldType) : (zero t : FieldValue K).type = t := by
  cases t <;> rfl

end FieldValue

namespace Schema

variable {schema : Schema} {fields fields' : Fields K} {name : String} {v v' : FieldValue K}

/-- The field is not declared, or the value does not fit its type. -/
def Refuses (schema : Schema) (name : String) (v : FieldValue K) : Prop :=
  ∀ t, schema.get? name = some t → v.conform t = none

/-- An error says why the value is refused. -/
def Explains (schema : Schema) (name : String) (v : FieldValue K) : SchemaError → Prop
  | .unknownField field => field = name ∧ schema.get? name = none
  | .typeMismatch field expected found =>
    field = name ∧ schema.get? name = some expected ∧ found = v.type ∧ v.conform expected = none

/-- The fields are those that the schema declares, each with a value of its type. -/
def Types (schema : Schema) (fields : Fields K) : Prop :=
  ∀ name, (fields.get? name).map FieldValue.type = schema.get? name

theorem Explains.refuses {e : SchemaError} (h : schema.Explains name v e) :
    schema.Refuses name v := by
  intro t declared
  cases e with
  | unknownField field => exact absurd (h.2.symm.trans declared) nofun
  | typeMismatch field expected found =>
    obtain ⟨-, known, -, misfit⟩ := h
    rw [known] at declared
    cases declared
    exact misfit

/-! ### One assignment -/

theorem checkField_eq_ok_iff :
    checkField schema name v = .ok v' ↔ (schema.get? name).bind v.conform = some v' := by
  unfold checkField
  cases schema.get? name with
  | none => simp
  | some t =>
    cases fitted : v.conform t with
    | none => simp [fitted]
    | some u => simp [fitted]

/-- An error of an assignment explains itself. -/
theorem explains_of_checkField {e : SchemaError} (h : checkField schema name v = .error e) :
    schema.Explains name v e := by
  unfold checkField at h
  split at h
  · rename_i undeclared
    cases h
    exact ⟨rfl, undeclared⟩
  · rename_i t declared
    split at h
    · cases h
    · rename_i misfit
      cases h
      exact ⟨rfl, declared, rfl, misfit⟩

theorem checkField_error_iff :
    (∃ e, checkField schema name v = .error e) ↔ schema.Refuses name v := by
  constructor
  · rintro ⟨e, failed⟩
    exact (explains_of_checkField failed).refuses
  · intro refuses
    cases checked : checkField schema name v with
    | error e => exact ⟨e, rfl⟩
    | ok u =>
      obtain ⟨t, declared, fitted⟩ := Option.bind_eq_some_iff.1 (checkField_eq_ok_iff.1 checked)
      rw [refuses t declared] at fitted
      cases fitted

/-- What an assignment stores has the declared type, so that the fields stay typed. -/
theorem Types.insert (typed : schema.Types fields) (h : checkField schema name v = .ok v') :
    schema.Types (fields.insert name v') := by
  intro other
  rw [Table.get?_insert]
  obtain ⟨t, declared, fitted⟩ := Option.bind_eq_some_iff.1 (checkField_eq_ok_iff.1 h)
  by_cases same : other = name
  · subst same
    rw [if_pos (beq_self_eq_true other), declared, Option.map_some,
      FieldValue.type_of_conform fitted]
  · rw [if_neg (by simpa using same)]
    exact typed other

/-- A schema types the zeros of its fields. -/
theorem types_zeros (schema : Schema) :
    schema.Types (schema.map fun _ t => (FieldValue.zero t : FieldValue K)) := by
  intro name
  rw [Table.get?_map, Option.map_map]
  exact (congrArg (Option.map · _) (funext FieldValue.type_zero)).trans Option.map_id'

/-! ### Assignments in order -/

variable {l : List (String × FieldValue K)}

theorem types_of_assignFields (typed : schema.Types fields)
    (h : assignFields schema fields l = .ok fields') : schema.Types fields' := by
  induction l generalizing fields with
  | nil =>
    cases h
    exact typed
  | cons e rest ih =>
    rw [assignFields] at h
    split at h
    · rename_i v checked
      exact ih (typed.insert checked) h
    · cases h

/-- A field to which something was assigned has what was assigned last, fitted to its type. -/
theorem get?_of_assignFields (h : assignFields schema fields l = .ok fields') (name : String) :
    fields'.get? name =
      match (Roster.find? Prod.fst name l).map Prod.snd with
      | some v => (schema.get? name).bind v.conform
      | none => fields.get? name := by
  induction l generalizing fields with
  | nil =>
    cases h
    rfl
  | cons e rest ih =>
    obtain ⟨other, v⟩ := e
    rw [assignFields] at h
    split at h
    · rename_i v' checked
      rw [ih h, Roster.find?]
      -- The first assignment shows only where no later one goes to the same field.
      cases Roster.find? Prod.fst name rest with
      | some later => rfl
      | none =>
        by_cases same : other = name
        · subst same
          simp [Table.get?_insert_self, checkField_eq_ok_iff.1 checked]
        · simp [Table.get?_insert_of_ne _ _ (Ne.symm same), same]
    · cases h

/-- The first value that is refused ends the assignments. -/
theorem explains_of_assignFields {e : SchemaError} (h : assignFields schema fields l = .error e) :
    ∃ entry ∈ l, schema.Explains entry.1 entry.2 e := by
  induction l generalizing fields with
  | nil => cases h
  | cons entry rest ih =>
    rw [assignFields] at h
    split at h
    · obtain ⟨entry', mem, explains⟩ := ih h
      exact ⟨entry', List.mem_cons_of_mem _ mem, explains⟩
    · rename_i e' failed
      cases h
      exact ⟨entry, List.mem_cons_self, explains_of_checkField failed⟩

theorem assignFields_error_iff :
    (∃ e, assignFields schema fields l = .error e) ↔
      ∃ entry ∈ l, schema.Refuses entry.1 entry.2 := by
  constructor
  · rintro ⟨e, failed⟩
    obtain ⟨entry, mem, explains⟩ := explains_of_assignFields failed
    exact ⟨entry, mem, explains.refuses⟩
  · intro refused
    induction l generalizing fields with
    | nil => exact absurd refused.choose_spec.1 List.not_mem_nil
    | cons entry rest ih =>
      rw [assignFields]
      cases checked : checkField schema entry.1 entry.2 with
      | error e => exact ⟨e, rfl⟩
      | ok v =>
        obtain ⟨entry', mem, refuses⟩ := refused
        rcases List.mem_cons.1 mem with rfl | later
        · obtain ⟨e, failed⟩ := checkField_error_iff.2 refuses
          rw [checked] at failed
          cases failed
        · exact ih ⟨entry', later, refuses⟩

end Schema

/-! ### The fields of a new actor -/

section Build

variable {schema? : Option Schema} {schema : Schema} {defaults own fields : Fields K}

/-- The value with which a field starts: its own one, else the default, else zero, fitted to the
declared type. Without a schema nothing is fitted, and no field is added. -/
def startValue? (schema? : Option Schema) (defaults own : Fields K) (name : String) :
    Option (FieldValue K) :=
  let given := (own.get? name).or (defaults.get? name)
  match schema? with
  | none => given
  | some schema => (schema.get? name).bind fun t =>
    match given with
    | some v => v.conform t
    | none => some (FieldValue.zero t)

/-- Every field of a new actor has its start value. -/
theorem get?_of_buildFields (h : buildFields schema? defaults own = .ok fields) (name : String) :
    fields.get? name = startValue? schema? defaults own name := by
  cases schema? with
  | none =>
    cases h
    exact Table.get?_insertAll_entries defaults own
  | some schema =>
    have last : (Roster.find? Prod.fst name (defaults.entries ++ own.entries)).map Prod.snd =
        (own.get? name).or (defaults.get? name) := by
      rw [Roster.find?_append, Option.map_or, Table.find?_entries, Table.find?_entries]
    rw [Schema.get?_of_assignFields h, last, startValue?, Table.get?_map]
    cases (own.get? name).or (defaults.get? name) with
    | some v => rfl
    | none => cases schema.get? name <;> rfl

/-- The fields of a new actor are those of its schema. -/
theorem types_of_buildFields (h : buildFields (some schema) defaults own = .ok fields) :
    schema.Types fields :=
  Schema.types_of_assignFields schema.types_zeros h

/-- An error in the fields of a new actor explains itself by a default or a value of its own. -/
theorem explains_of_buildFields {e : SchemaError}
    (h : buildFields (some schema) defaults own = .error e) :
    ∃ name v, (defaults.get? name = some v ∨ own.get? name = some v) ∧
      schema.Explains name v e := by
  obtain ⟨⟨name, v⟩, mem, explains⟩ := Schema.explains_of_assignFields h
  rw [List.mem_append, Table.mem_entries_iff, Table.mem_entries_iff] at mem
  exact ⟨name, v, mem, explains⟩

/-- The fields of a new actor cannot be made if and only if there is a schema that refuses a default
or a value of its own. -/
theorem buildFields_error_iff :
    (∃ e, buildFields schema? defaults own = .error e) ↔ ∃ schema, schema? = some schema ∧
      ∃ name v, (defaults.get? name = some v ∨ own.get? name = some v) ∧
        schema.Refuses name v := by
  cases schema? with
  | none =>
    constructor
    · rintro ⟨e, failed⟩
      cases failed
    · rintro ⟨schema, none, -⟩
      cases none
  | some schema =>
    rw [show (∃ e, buildFields (some schema) defaults own = .error e) ↔ _ from
      Schema.assignFields_error_iff]
    simp only [Prod.exists, List.mem_append, Table.mem_entries_iff, Option.some.injEq,
      exists_eq_left']

end Build

end Playfield
