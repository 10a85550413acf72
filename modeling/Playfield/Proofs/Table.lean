import Playfield.Proofs.Roster
import Playfield.Table

/-!
# What tables find

* `get?_insert_self`, `get?_insert_of_ne`, `contains_insert`: a table after one insertion;
  `contains_insertAll` after many.
* `ofList_entries`: a table is made of its entries, and `contains_eq_any` has their keys;
  `filter_entries` are those of one key, `mem_entries_iff` says what they are.
* `get?_insertAll_eq_some_iff`, `get?_filter_eq_some_iff`, `get?_eraseAll_eq_some_iff`: what is
  found after many insertions, of which `get?_insertAll_of_new` adds entries, and after removals.
* `mem_values_iff`, `get?_ofList_eq_some_iff`: the values of a table, and a table of the values of a
  function.
* `get?_map`: the values of a table that was mapped.
* `get?_ofList_map`: a table made of a roster finds what the roster finds; `find?_entries` is the
  converse, and `get?_insertAll_entries` puts one table into another.
-/

namespace Playfield.Table

section Insertion

variable {κ α : Type} [LE κ] [LT κ] [Std.IsLinearOrder κ] [Std.LawfulOrderLT κ] [DecidableLT κ]

theorem insertAll_nil (t : Table κ α) : t.insertAll [] = t := rfl

theorem insertAll_cons (t : Table κ α) (e : κ × α) (l : List (κ × α)) :
    t.insertAll (e :: l) = (t.insert e.1 e.2).insertAll l := rfl

theorem ofList_append_singleton (l : List (κ × α)) (k : κ) (v : α) :
    ofList (l ++ [(k, v)]) = (ofList l).insert k v := List.foldl_append

omit [Std.IsLinearOrder κ] in
/-- What comes after all keys is put at the end. -/
theorem insertEntry_of_forall_lt {k : κ} {v : α} {l : List (κ × α)} (h : ∀ e ∈ l, e.1 < k) :
    insertEntry k v l = l ++ [(k, v)] := by
  induction l with
  | nil => rfl
  | cons e rest ih =>
    have lt := h e List.mem_cons_self
    rw [insertEntry, if_neg (Std.not_gt_of_lt lt), if_pos lt,
      ih fun e' mem => h e' (List.mem_cons_of_mem _ mem)]
    rfl

/-- Entries that come in order after those of a table are put at the end. -/
theorem entries_insertAll {t : Table κ α} {l : List (κ × α)}
    (sorted : (t.entries ++ l).Pairwise fun a b => a.1 < b.1) :
    (t.insertAll l).entries = t.entries ++ l := by
  induction l generalizing t with
  | nil => exact (List.append_nil _).symm
  | cons e rest ih =>
    have last : (t.insert e.1 e.2).entries = t.entries ++ [e] :=
      insertEntry_of_forall_lt fun e' mem =>
        (List.pairwise_append.1 sorted).2.2 e' mem e List.mem_cons_self
    rw [List.append_cons, ← last] at sorted
    rw [insertAll_cons, ih sorted, last, ← List.append_cons]

/-- A table is made of its entries. -/
theorem ofList_entries (t : Table κ α) : ofList t.entries = t :=
  Table.ext (entries_insertAll t.sorted)

theorem mem_insertAll {t : Table κ α} {l : List (κ × α)} {e : κ × α}
    (h : e ∈ (t.insertAll l).entries) : e ∈ l ∨ e ∈ t.entries := by
  induction l generalizing t with
  | nil => exact .inr h
  | cons e' rest ih =>
    rcases ih h with mem | mem
    · exact .inl (List.mem_cons_of_mem _ mem)
    · rcases mem_insertEntry mem with rfl | mem
      · exact .inl List.mem_cons_self
      · exact .inr mem

theorem mem_of_mem_ofList {l : List (κ × α)} {e : κ × α} (h : e ∈ (ofList l).entries) : e ∈ l :=
  (mem_insertAll h).resolve_right List.not_mem_nil

variable [BEq κ] [LawfulBEq κ]

omit [Std.IsLinearOrder κ] [DecidableLT κ] in
/-- A key has at most one entry. -/
theorem filter_entries (t : Table κ α) (k : κ) :
    t.entries.filter (·.1 == k) = ((t.get? k).map (k, ·)).toList := by
  obtain ⟨l, sorted⟩ := t
  show l.filter (·.1 == k) = ((l.lookup k).map (k, ·)).toList
  induction l with
  | nil => rfl
  | cons e rest ih =>
    obtain ⟨first, sorted⟩ := List.pairwise_cons.1 sorted
    by_cases h : e.1 = k
    · have others : rest.filter (·.1 == k) = [] := by
        refine List.filter_eq_nil_iff.2 fun e' mem same => ?_
        exact Std.lt_irrefl (h ▸ eq_of_beq same ▸ first e' mem)
      rw [List.filter_cons_of_pos (by simpa using h), others, List.lookup_cons, h,
        beq_self_eq_true, ← h]
      rfl
    · rw [List.filter_cons_of_neg (by simpa using h), ih sorted, List.lookup_cons,
        beq_false_of_ne (Ne.symm h)]

omit [Std.IsLinearOrder κ] [DecidableLT κ] in
theorem mem_entries_iff {t : Table κ α} {k : κ} {v : α} :
    (k, v) ∈ t.entries ↔ t.get? k = some v := by
  have one : (k, v) ∈ t.entries.filter (·.1 == k) ↔ t.get? k = some v := by
    rw [filter_entries, Option.mem_toList, Option.map_eq_some_iff]
    simp
  rw [← one, List.mem_filter]
  simp

omit [Std.IsLinearOrder κ] [DecidableLT κ] in
theorem mem_values_iff {t : Table κ α} {v : α} : v ∈ t.values ↔ ∃ k, t.get? k = some v := by
  rw [values, List.mem_map]
  constructor
  · rintro ⟨⟨k, _⟩, mem, rfl⟩
    exact ⟨k, mem_entries_iff.1 mem⟩
  · rintro ⟨k, found⟩
    exact ⟨(k, v), mem_entries_iff.2 found, rfl⟩

omit [Std.IsLinearOrder κ] [DecidableLT κ] in
theorem get?_filter_eq_some_iff {t : Table κ α} {p : κ → α → Bool} {k : κ} {v : α} :
    (t.filter p).get? k = some v ↔ t.get? k = some v ∧ p k v = true := by
  rw [← mem_entries_iff, ← mem_entries_iff]
  exact List.mem_filter

omit [Std.IsLinearOrder κ] [DecidableLT κ] in
theorem get?_erase_eq_some_iff {t : Table κ α} {k k' : κ} {v : α} :
    (t.erase k').get? k = some v ↔ k ≠ k' ∧ t.get? k = some v := by
  rw [erase, get?_filter_eq_some_iff, bne_iff_ne, and_comm]

omit [Std.IsLinearOrder κ] [DecidableLT κ] in
theorem contains_erase {t : Table κ α} {k k' : κ} :
    (t.erase k').contains k = true ↔ k ≠ k' ∧ t.contains k = true := by
  simp only [contains, Option.isSome_iff_exists, get?_erase_eq_some_iff, exists_and_left]

omit [Std.IsLinearOrder κ] [DecidableLT κ] in
theorem get?_eraseAll_eq_some_iff {t : Table κ α} {ks : List κ} {k : κ} {v : α} :
    (ks.foldl erase t).get? k = some v ↔ k ∉ ks ∧ t.get? k = some v := by
  induction ks generalizing t with
  | nil => simp
  | cons k' ks ih =>
    rw [List.foldl_cons, ih, get?_erase_eq_some_iff, List.mem_cons, not_or]
    tauto

/-- Where a key is given one value only, it has that value, and if it is given none, the value that
it had. -/
theorem get?_insertAll_eq_some_iff {t : Table κ α} {l : List (κ × α)} {k : κ} {v : α}
    (one : ∀ v v', (k, v) ∈ l → (k, v') ∈ l → v = v') :
    (t.insertAll l).get? k = some v ↔ (k, v) ∈ l ∨ (∀ v', (k, v') ∉ l) ∧ t.get? k = some v := by
  induction l generalizing t with
  | nil => simp [insertAll_nil]
  | cons e rest ih =>
    have later : ∀ v v', (k, v) ∈ rest → (k, v') ∈ rest → v = v' := fun v v' mem mem' =>
      one v v' (List.mem_cons_of_mem _ mem) (List.mem_cons_of_mem _ mem')
    obtain ⟨k', v'⟩ := e
    rw [insertAll_cons, ih later, get?_insert]
    by_cases same : k = k'
    · subst same
      have first (w : α) (mem : (k, w) ∈ rest) : w = v' :=
        one w v' (List.mem_cons_of_mem _ mem) List.mem_cons_self
      simp only [beq_self_eq_true, if_true, Option.some.injEq, List.mem_cons, Prod.mk.injEq,
        true_and]
      constructor
      · rintro (mem | ⟨-, rfl⟩)
        · exact .inl (.inr mem)
        · exact .inl (.inl rfl)
      · rintro ((rfl | mem) | ⟨none, -⟩)
        · by_cases again : (k, v) ∈ rest
          · exact .inl again
          · exact .inr ⟨fun w mem => again (first w mem ▸ mem), rfl⟩
        · exact .inl mem
        · exact absurd (.inl rfl) (none v')
    · rw [if_neg (by simpa using same)]
      simp [same]

/-- Entries with new keys, each given once, are added to what is found. -/
theorem get?_insertAll_of_new {t : Table κ α} {l : List (κ × α)} {k : κ} {v : α}
    (one : ∀ v v', (k, v) ∈ l → (k, v') ∈ l → v = v')
    (new : ∀ v v', (k, v) ∈ l → t.get? k ≠ some v') :
    (t.insertAll l).get? k = some v ↔ t.get? k = some v ∨ (k, v) ∈ l := by
  rw [get?_insertAll_eq_some_iff one, or_comm]
  exact or_congr_left (and_iff_right_of_imp fun known v' mem => new v' v mem known)

/-- A table of values of a function has them at the keys that it was made for. -/
theorem get?_ofList_eq_some_iff {ks : List κ} {f : κ → α} {k : κ} {v : α} :
    (ofList (ks.map fun k => (k, f k))).get? k = some v ↔ k ∈ ks ∧ v = f k := by
  have entry (w : α) : (k, w) ∈ ks.map (fun k => (k, f k)) ↔ k ∈ ks ∧ w = f k := by
    rw [List.mem_map]
    constructor
    · rintro ⟨k', mem, same⟩
      cases same
      exact ⟨mem, rfl⟩
    · rintro ⟨mem, rfl⟩
      exact ⟨k, mem, rfl⟩
  have one : ∀ w w', (k, w) ∈ ks.map (fun k => (k, f k)) →
      (k, w') ∈ ks.map (fun k => (k, f k)) → w = w' := fun w w' mem mem' =>
    ((entry w).1 mem).2.trans ((entry w').1 mem').2.symm
  rw [ofList, get?_insertAll_eq_some_iff one, entry, get?_empty]
  simp

theorem get?_insert_self (t : Table κ α) (k : κ) (v : α) : (t.insert k v).get? k = some v := by
  rw [get?_insert, beq_self_eq_true, if_pos rfl]

theorem get?_insert_of_ne (t : Table κ α) {k k' : κ} (v : α) (h : k' ≠ k) :
    (t.insert k v).get? k' = t.get? k' := by
  rw [get?_insert, if_neg (by simpa using h)]

theorem contains_insert (t : Table κ α) (k : κ) (v : α) (k' : κ) :
    (t.insert k v).contains k' = (t.contains k' || k == k') := by
  rw [contains, contains, get?_insert]
  by_cases h : k' = k
  · simp [h]
  · simp [h, Ne.symm h]

theorem contains_insertAll (t : Table κ α) (l : List (κ × α)) (k : κ) :
    (t.insertAll l).contains k = (t.contains k || l.any (·.1 == k)) := by
  induction l generalizing t with
  | nil => exact (Bool.or_false _).symm
  | cons e rest ih =>
    rw [insertAll_cons, ih, contains_insert, List.any_cons, Bool.or_assoc]

/-- A table has the keys of its entries. -/
theorem contains_eq_any (t : Table κ α) (k : κ) : t.contains k = t.entries.any (·.1 == k) := by
  have made := contains_insertAll empty t.entries k
  rwa [← ofList, ofList_entries] at made

end Insertion

section Values

variable {κ α β : Type} [LT κ] [BEq κ] [LawfulBEq κ]

theorem get?_map (t : Table κ α) (f : κ → α → β) (k : κ) :
    (t.map f).get? k = (t.get? k).map (f k) := by
  obtain ⟨l, sorted⟩ := t
  show (l.map fun e => (e.1, f e.1 e.2)).lookup k = (l.lookup k).map (f k)
  clear sorted
  induction l with
  | nil => rfl
  | cons e rest ih =>
    rw [List.map_cons, List.lookup_cons, List.lookup_cons, ih]
    cases same : k == e.1 with
    | true => rw [eq_of_beq same]; rfl
    | false => rfl

end Values

section Rosters

variable {α β : Type} {key : β → String} {g : β → α} {l : List β} {name : String}

theorem get?_insertAll_map (t : Table String α) :
    (t.insertAll (l.map fun b => (key b, g b))).get? name =
      ((Roster.find? key name l).map g).or (t.get? name) := by
  induction l generalizing t with
  | nil => rfl
  | cons b rest ih =>
    rw [List.map_cons, insertAll_cons, ih, Roster.find?]
    cases Roster.find? key name rest with
    | some b' => rfl
    | none =>
      by_cases h : key b = name
      · rw [if_pos h, h, get?_insert_self]
        rfl
      · rw [if_neg h, get?_insert_of_ne _ _ (Ne.symm h)]

/-- A table made of a roster finds what the roster finds. -/
theorem get?_ofList_map :
    (ofList (l.map fun b => (key b, g b))).get? name = (Roster.find? key name l).map g := by
  rw [ofList, get?_insertAll_map, get?_empty, Option.or_none]

/-- As a roster, the entries of a table find what the table finds. -/
theorem find?_entries (t : Table String α) :
    (Roster.find? Prod.fst name t.entries).map Prod.snd = t.get? name := by
  have made : ofList (t.entries.map fun e => (e.1, e.2)) = t := by
    rw [List.map_id'' fun _ => rfl, ofList_entries]
  exact get?_ofList_map.symm.trans (congrArg (get? · name) made)

/-- Of two tables the one that is put into the other counts. -/
theorem get?_insertAll_entries (t u : Table String α) :
    (t.insertAll u.entries).get? name = (u.get? name).or (t.get? name) := by
  rw [← find?_entries u, ← get?_insertAll_map, List.map_id'']
  exact fun _ => rfl

end Rosters

end Playfield.Table
