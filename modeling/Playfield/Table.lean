/-!
# Tables in key order

A finite map as the list of its entries in strictly increasing key order. Two tables with the same
entries are equal, and walking one visits the keys in order.

* `Table.get?`, `insert`, `erase`, `modify`, `ofList` (later entries win).
* `get?_insert`: each insertion changes one key.
* `positions` is a table that says where names stand in a list.
-/

namespace Playfield

variable {κ α β : Type}

/-- Entries in strictly increasing key order. -/
structure Table (κ : Type) [LT κ] (α : Type) where
  entries : List (κ × α)
  sorted : entries.Pairwise (fun a b => a.1 < b.1)

namespace Table

section Insertion

variable [LT κ] [DecidableLT κ]

/-- Puts an entry in its place, in the stead of one with the same key. -/
def insertEntry (k : κ) (v : α) : List (κ × α) → List (κ × α)
  | [] => [(k, v)]
  | (k', v') :: rest =>
    if k < k' then (k, v) :: (k', v') :: rest
    else if k' < k then (k', v') :: insertEntry k v rest
    else (k, v) :: rest

theorem mem_insertEntry {k : κ} {v : α} {l : List (κ × α)} {e : κ × α}
    (h : e ∈ insertEntry k v l) : e = (k, v) ∨ e ∈ l := by
  induction l with
  | nil => simpa [insertEntry] using h
  | cons e' rest ih =>
    unfold insertEntry at h
    split at h
    · simpa using h
    · split at h
      · rcases List.mem_cons.1 h with rfl | h
        · simp
        · rcases ih h with h | h <;> simp [h]
      · rcases List.mem_cons.1 h with h | h <;> simp [h]

end Insertion

variable [LE κ] [LT κ] [Std.IsLinearOrder κ] [Std.LawfulOrderLT κ] [DecidableLT κ]

theorem insertEntry_sorted (k : κ) (v : α) {l : List (κ × α)}
    (h : l.Pairwise (fun a b => a.1 < b.1)) :
    (insertEntry k v l).Pairwise (fun a b => a.1 < b.1) := by
  induction l with
  | nil => simp [insertEntry]
  | cons e rest ih =>
    obtain ⟨head, tail⟩ := List.pairwise_cons.1 h
    unfold insertEntry
    split
    · rename_i lt
      refine List.pairwise_cons.2 ⟨fun e' he' => ?_, h⟩
      rcases List.mem_cons.1 he' with rfl | he'
      · exact lt
      · exact Std.lt_trans lt (head e' he')
    · split
      · rename_i gt
        refine List.pairwise_cons.2 ⟨fun e' he' => ?_, ih tail⟩
        rcases mem_insertEntry he' with rfl | he'
        · exact gt
        · exact head e' he'
      · rename_i lt gt
        have same : k = e.1 := by
          rcases Std.lt_trichotomy k e.1 with h | h | h
          · exact absurd h lt
          · exact h
          · exact absurd h gt
        refine List.pairwise_cons.2 ⟨fun e' he' => ?_, tail⟩
        simpa [same] using head e' he'

omit [LE κ] [Std.IsLinearOrder κ] [Std.LawfulOrderLT κ] [DecidableLT κ] in
@[ext] theorem ext {s t : Table κ α} (h : s.entries = t.entries) : s = t := by
  cases s; cases t; simp_all

/-- The table without entries. -/
def empty : Table κ α := ⟨[], List.Pairwise.nil⟩

instance : EmptyCollection (Table κ α) := ⟨empty⟩
instance : Inhabited (Table κ α) := ⟨empty⟩

/-- Sets the value of a key. -/
def insert (t : Table κ α) (k : κ) (v : α) : Table κ α :=
  ⟨insertEntry k v t.entries, insertEntry_sorted k v t.sorted⟩

/-- Adds entries from left to right, so that a later one wins. -/
def insertAll (t : Table κ α) (l : List (κ × α)) : Table κ α :=
  l.foldl (fun t e => t.insert e.1 e.2) t

/-- The table of a list of entries; of two with the same key the later one counts. -/
def ofList (l : List (κ × α)) : Table κ α := insertAll empty l

/-- The keys, in order. -/
def keys (t : Table κ α) : List κ := t.entries.map (·.1)

/-- The values, in key order. -/
def values (t : Table κ α) : List α := t.entries.map (·.2)

/-- The entries that pass a test. -/
def filter (p : κ → α → Bool) (t : Table κ α) : Table κ α :=
  ⟨t.entries.filter (fun e => p e.1 e.2), t.sorted.filter _⟩

/-- Applies a function to every value. -/
def map (f : κ → α → β) (t : Table κ α) : Table κ β :=
  ⟨t.entries.map (fun e => (e.1, f e.1 e.2)), List.pairwise_map.2 t.sorted⟩

section Lookup

variable [BEq κ]

/-- The value of a key. -/
def get? (t : Table κ α) (k : κ) : Option α := t.entries.lookup k

/-- Whether the key has a value. -/
def contains (t : Table κ α) (k : κ) : Bool := (t.get? k).isSome

/-- Removes the entry of a key. -/
def erase (t : Table κ α) (k : κ) : Table κ α := t.filter (fun k' _ => k' != k)

/-- Changes the value of a key, if it has one. -/
def modify (t : Table κ α) (k : κ) (f : α → α) : Table κ α :=
  t.map (fun k' v => if k' == k then f v else v)

variable [LawfulBEq κ]

theorem lookup_insertEntry (k : κ) (v : α) {l : List (κ × α)}
    (h : l.Pairwise (fun a b => a.1 < b.1)) (k' : κ) :
    (insertEntry k v l).lookup k' = if k' == k then some v else l.lookup k' := by
  induction l with
  | nil => cases hk : k' == k <;> simp [insertEntry, List.lookup_cons, hk]
  | cons e rest ih =>
    obtain ⟨a, b⟩ := e
    obtain ⟨head, tail⟩ := List.pairwise_cons.1 h
    unfold insertEntry
    split
    · cases hk : k' == k <;> simp [List.lookup_cons, hk]
    · split
      · rename_i gt
        cases hk : k' == a
        · simp [List.lookup_cons, hk, ih tail]
        · have ne : (k' == k) = false := by
            have : k' = a := by simpa using hk
            subst this
            simp only [beq_eq_false_iff_ne, ne_eq]
            intro same
            subst same
            exact Std.lt_irrefl gt
          simp [List.lookup_cons, hk, ne]
      · rename_i lt gt
        have same : k = a := by
          rcases Std.lt_trichotomy k a with h | h | h
          · exact absurd h lt
          · exact h
          · exact absurd h gt
        subst same
        cases hk : k' == k <;> simp [List.lookup_cons, hk]

theorem get?_insert (t : Table κ α) (k : κ) (v : α) (k' : κ) :
    (t.insert k v).get? k' = if k' == k then some v else t.get? k' :=
  lookup_insertEntry k v t.sorted k'

omit [LE κ] [Std.IsLinearOrder κ] [Std.LawfulOrderLT κ] [DecidableLT κ] [LawfulBEq κ] in
@[simp] theorem get?_empty (k : κ) : (empty : Table κ α).get? k = none := rfl

end Lookup

end Table

/-- The places of names in a list. A name that stands in two places has the last. -/
def positions (names : List String) : Table String Nat := Table.ofList names.zipIdx

end Playfield
