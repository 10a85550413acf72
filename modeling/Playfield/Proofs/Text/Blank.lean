import Playfield.Text.Blank

/-!
# Blanks at the ends of texts

* `Tight`: there is no blank at either end. `Trims text rest`: without the blanks at its ends, a
  text is the rest.
* `trimStart_eq_iff`, `trimList_eq_iff`: so removing blanks is told by what is left.
-/

namespace Playfield.Text

variable {cs t before after : List Char}

/-- All characters are blank. -/
def Blank (cs : List Char) : Prop := ∀ c ∈ cs, isBlank c = true

/-- The text does not begin with a blank. -/
def Begins (cs : List Char) : Prop := ∀ c ∈ cs.head?, isBlank c = false

/-- There is no blank at either end. -/
def Tight (cs : List Char) : Prop := Begins cs ∧ Begins cs.reverse

instance : (cs : List Char) → Decidable (Begins cs)
  | [] => .isTrue nofun
  | c :: _ => decidable_of_iff (isBlank c = false)
    ⟨fun h _ first => Option.some.inj first ▸ h, fun h => h c rfl⟩

instance (cs : List Char) : Decidable (Tight cs) :=
  inferInstanceAs (Decidable (Begins cs ∧ Begins cs.reverse))

/-- A text consists of another one, which has no blank at either end, and of blanks around it. -/
def Trims (text rest : List Char) : Prop :=
  Tight rest ∧ ∃ before after, Blank before ∧ Blank after ∧ text = before ++ rest ++ after

theorem blank_reverse : Blank cs.reverse ↔ Blank cs := by
  simp only [Blank, List.mem_reverse]

theorem begins_trimStart (cs : List Char) : Begins (trimStart cs) := by
  intro c first
  have := List.head?_dropWhile_not isBlank cs
  rw [trimStart] at first
  rw [first] at this
  simpa using this

theorem trimStart_of_begins (h : Begins cs) : trimStart cs = cs := by
  cases cs with
  | nil => rfl
  | cons c cs =>
    have first : isBlank c = false := h c rfl
    rw [trimStart, List.dropWhile_cons, first]
    rfl

theorem trimStart_append (blank : Blank before) : trimStart (before ++ cs) = trimStart cs :=
  List.dropWhile_append_of_pos blank

theorem trimStart_eq_iff :
    trimStart cs = t ↔ Begins t ∧ ∃ before, Blank before ∧ cs = before ++ t := by
  constructor
  · rintro rfl
    exact ⟨begins_trimStart cs, cs.takeWhile isBlank, List.all_eq_true.1 List.all_takeWhile,
      (List.takeWhile_append_dropWhile).symm⟩
  · rintro ⟨begins, before, blank, rfl⟩
    rw [trimStart_append blank, trimStart_of_begins begins]

/-- What is put after a text changes its first character only if the text is empty. -/
theorem begins_append (some : t ≠ []) : Begins (t ++ after) ↔ Begins t := by
  cases t with
  | nil => exact absurd rfl some
  | cons c t => rfl

/-- What is left of a text without the blanks at its ends. -/
theorem trimList_eq_iff : trimList cs = t ↔ Trims cs t := by
  have reversed : trimList cs = t ↔
      Begins t.reverse ∧ ∃ after, Blank after ∧ (trimStart cs).reverse = after ++ t.reverse := by
    rw [trimList, List.reverse_eq_iff, trimStart_eq_iff]
  rw [reversed]
  constructor
  · rintro ⟨ends, after, blank, left⟩
    replace left : trimStart cs = t ++ after.reverse := by
      rw [← List.reverse_reverse (trimStart cs), left, List.reverse_append, List.reverse_reverse]
    obtain ⟨begins, before, blank', rfl⟩ := trimStart_eq_iff.1 left
    refine ⟨⟨?_, ends⟩, before, after.reverse, blank', blank_reverse.2 blank, ?_⟩
    · cases t with
      | nil => exact nofun
      | cons c t => exact (begins_append (List.cons_ne_nil c t)).1 begins
    · rw [List.append_assoc]
  · rintro ⟨⟨begins, ends⟩, before, after, blank, blank', rfl⟩
    refine ⟨ends, ?_⟩
    by_cases empty : t = []
    · -- Of a blank text all is taken from the start.
      subst empty
      refine ⟨[], nofun, ?_⟩
      rw [List.append_assoc, trimStart_append blank, List.nil_append,
        ← List.append_nil after, trimStart_append blank']
      rfl
    · refine ⟨after.reverse, blank_reverse.2 blank', ?_⟩
      rw [List.append_assoc, trimStart_append blank,
        trimStart_of_begins ((begins_append empty).2 begins), List.reverse_append]

theorem trims_nil : Trims cs [] ↔ Blank cs := by
  constructor
  · rintro ⟨-, before, after, blank, blank', rfl⟩ c mem
    rw [List.append_nil, List.mem_append] at mem
    exact mem.elim (blank c) (blank' c)
  · intro blank
    exact ⟨⟨nofun, nofun⟩, cs, [], blank, nofun, by rw [List.append_nil, List.append_nil]⟩

end Playfield.Text
