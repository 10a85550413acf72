/-!
# Rosters

A roster is a list of things that carry a name. Usually the names are distinct; where two entries
share one, the name means the last of them.

* `Roster.find?` and `modify` look up and change the entry of a name.
-/

namespace Playfield.Roster

variable {α : Type} (key : α → String)

/-- The last entry of a name. -/
def find? (name : String) : List α → Option α
  | [] => none
  | a :: rest =>
    match find? name rest with
    | some b => some b
    | none => if key a = name then some a else none

/-- The name has an entry. -/
def contains (name : String) (l : List α) : Bool := (find? key name l).isSome

/-- Changes the last entry of a name; `none` if there is none. -/
def modify? (name : String) (f : α → α) : List α → Option (List α)
  | [] => none
  | a :: rest =>
    match modify? name f rest with
    | some rest => some (a :: rest)
    | none => if key a = name then some (f a :: rest) else none

/-- Changes the last entry of a name, if there is one. -/
def modify (name : String) (f : α → α) (l : List α) : List α := (modify? key name f l).getD l

theorem find?_isSome_iff {name : String} {l : List α} :
    (find? key name l).isSome ↔ ∃ a ∈ l, key a = name := by
  induction l with
  | nil => simp [find?]
  | cons a rest ih =>
    unfold find?
    split
    · rename_i b hb
      have := ih.1 (by simp [hb])
      simp only [Option.isSome_some, true_iff]
      obtain ⟨c, hc, hk⟩ := this
      exact ⟨c, List.mem_cons_of_mem _ hc, hk⟩
    · rename_i hn
      have none : ¬∃ b ∈ rest, key b = name := fun h => by simpa [hn] using ih.2 h
      by_cases h : key a = name
      · simp [h]
      · simpa [h] using none

end Playfield.Roster
