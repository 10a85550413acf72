import Mathlib.Data.List.Perm.Subperm
import Playfield.Proofs.Table

/-!
# Places of names

An index is a table from names to their places in a list of distinct names.

* `Table.Locates t names`: the table is the index of the names, as `positions` makes one.
* `Table.Locates.insert`: the index of one name more.
* `Table.Locates.find?_eq`: what a roster finds by its index.
* `Table.Places t n`: the table gives different names different places below `n`, whether or not
  they stand there. It has no more than `n` entries (`Places.length_le`).
-/

namespace Playfield

/-- The table says where each name of a list stands. -/
def Table.Locates (t : Table String Nat) (names : List String) : Prop :=
  ∀ name i, t.get? name = some i ↔ names[i]? = some name

/-- The table gives different names different places below a bound. -/
structure Table.Places (t : Table String Nat) (n : Nat) : Prop where
  bound : ∀ name i, t.get? name = some i → i < n
  apart : ∀ name name' i, t.get? name = some i → t.get? name' = some i → name = name'

section Locates

variable {t : Table String Nat} {names : List String}

theorem locates_positions (distinct : names.Nodup) : (positions names).Locates names := by
  intro name i
  have same : (names.zipIdx.map Prod.fst).Nodup := by rwa [List.zipIdx_map_fst]
  have get : (Table.ofList (names.zipIdx.map fun e => (e.1, e.2))).get? name =
      (Roster.find? Prod.fst name names.zipIdx).map Prod.snd := Table.get?_ofList_map
  rw [List.map_id'] at get
  rw [positions, get, Option.map_eq_some_iff]
  constructor
  · rintro ⟨⟨name', i'⟩, found, rfl⟩
    obtain ⟨mem, rfl⟩ := (Roster.find?_eq_some_iff same).1 found
    exact List.mem_zipIdx_iff_getElem?.1 mem
  · intro stands
    exact ⟨(name, i), (Roster.find?_eq_some_iff same).2
      ⟨List.mem_zipIdx_iff_getElem?.2 stands, rfl⟩, rfl⟩

theorem contains_positions (names : List String) (name : String) :
    (positions names).contains name = true ↔ name ∈ names := by
  have none : (Table.empty : Table String Nat).contains name = false := rfl
  rw [positions, Table.ofList, Table.contains_insertAll, none, Bool.false_or, List.any_eq_true]
  conv_rhs => rw [← List.zipIdx_map_fst 0 names, List.mem_map]
  exact exists_congr fun e => and_congr_right fun _ => beq_iff_eq

/-- A name stands where its place is, also where others are the same. -/
theorem getElem?_of_get?_positions {name : String} {i : Nat}
    (h : (positions names).get? name = some i) : names[i]? = some name :=
  List.mem_zipIdx_iff_getElem?.1 (Table.mem_of_mem_ofList (Table.mem_entries_iff.2 h))

namespace Table.Locates

variable (locates : t.Locates names)
include locates

theorem distinct : names.Nodup := by
  rw [List.nodup_iff_getElem?_ne_getElem?]
  intro i j lt bound same
  have stands : names[j]? = some names[j] := List.getElem?_eq_getElem bound
  have first := (locates _ _).2 (same.trans stands)
  rw [(locates _ _).2 stands, Option.some.injEq] at first
  omega

theorem get?_eq_none_iff {name : String} : t.get? name = none ↔ name ∉ names := by
  rw [List.mem_iff_getElem?, Option.eq_none_iff_forall_ne_some, not_exists]
  exact forall_congr' fun i => not_congr (locates name i)

/-- A new name at the end needs no new table. -/
theorem insert {name : String} (free : name ∉ names) :
    (t.insert name names.length).Locates (names ++ [name]) := by
  intro other i
  rw [Table.get?_insert]
  by_cases h : other = name
  · subst h
    have absent : names[i]? ≠ some other := fun stands => free (List.mem_of_getElem? stands)
    rw [beq_self_eq_true, if_pos rfl, Option.some.injEq, List.getElem?_append]
    split
    · have : names.length ≠ i := by omega
      simp only [this, absent]
    · rw [List.getElem?_singleton]
      split <;> simp <;> omega
  · rw [if_neg (by simpa using h), locates other i, List.getElem?_append]
    split
    · rfl
    · have beyond : names[i]? ≠ some other := by
        rw [List.getElem?_eq_none (by omega)]
        simp
      rw [List.getElem?_singleton]
      split <;> simp [beyond, Ne.symm h]

omit locates in
/-- An entry is found by its place. -/
theorem find?_eq {α : Type} {key : α → String} {l : List α} (locates : t.Locates (l.map key))
    (name : String) : Roster.find? key name l = (t.get? name).bind (l[·]?) := by
  cases found : t.get? name with
  | none =>
    rw [Option.bind_none, Roster.find?_eq_none_iff]
    intro a mem same
    exact (locates.get?_eq_none_iff.1 found) (same ▸ List.mem_map_of_mem mem)
  | some i =>
    have stands := (locates name i).1 found
    rw [List.getElem?_map, Option.map_eq_some_iff] at stands
    obtain ⟨a, here, carries⟩ := stands
    rw [Option.bind_some, here]
    exact (Roster.find?_eq_some_iff locates.distinct).2 ⟨List.mem_of_getElem? here, carries⟩

end Table.Locates

end Locates

/-! ### Different places -/

section Places

variable {t : Table String Nat} {names : List String} {n : Nat}

/-- Names that stand at their places have different ones. -/
theorem Table.places_of_stands
    (stands : ∀ name i, t.get? name = some i → names[i]? = some name) :
    t.Places names.length where
  bound name i h := (List.getElem?_eq_some_iff.1 (stands name i h)).1
  apart name name' i h h' := Option.some.inj ((stands name i h).symm.trans (stands name' i h'))

theorem places_positions (names : List String) : (positions names).Places names.length :=
  Table.places_of_stands fun _ _ => getElem?_of_get?_positions

namespace Table.Places

variable (places : t.Places n)
include places

/-- The next place is free for a new name. -/
theorem insert {name : String} (free : t.get? name = none) :
    (t.insert name n).Places (n + 1) := by
  have old {other : String} {i : Nat} (h : (t.insert name n).get? other = some i) :
      other = name ∧ i = n ∨ t.get? other = some i ∧ i < n := by
    rw [Table.get?_insert] at h
    split at h
    · rename_i same
      exact .inl ⟨eq_of_beq same, (Option.some.inj h).symm⟩
    · exact .inr ⟨h, places.bound other i h⟩
  refine ⟨fun other i h => ?_, fun other other' i h h' => ?_⟩
  · rcases old h with ⟨-, rfl⟩ | ⟨-, lt⟩ <;> omega
  · rcases old h with ⟨rfl, rfl⟩ | ⟨h, lt⟩ <;> rcases old h' with ⟨rfl, new⟩ | ⟨h', lt'⟩
    · rfl
    · omega
    · omega
    · exact places.apart other other' i h h'

/-- There are no more entries than places. -/
theorem length_le : t.entries.length ≤ n := by
  have different : (t.entries.map Prod.snd).Nodup := by
    rw [List.nodup_map_iff_inj_on]
    · rintro ⟨name, i⟩ mem ⟨name', i'⟩ mem' rfl
      rw [places.apart name name' i (Table.mem_entries_iff.1 mem) (Table.mem_entries_iff.1 mem')]
    · exact t.sorted.imp fun lt same => absurd (same ▸ lt) (by simp)
  have below : t.entries.map Prod.snd ⊆ List.range n := by
    intro i mem
    obtain ⟨⟨name, i⟩, entry, rfl⟩ := List.mem_map.1 mem
    exact List.mem_range.2 (places.bound name i (Table.mem_entries_iff.1 entry))
  simpa using (different.subperm below).length_le

end Table.Places

end Places

end Playfield
