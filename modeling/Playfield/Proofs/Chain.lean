import Mathlib.Data.Set.Finite.Basic
import Mathlib.Data.Fintype.EquivFin
import Mathlib.Logic.Relation
import Mathlib.Order.WellFounded

/-!
# Chains of links

A chain of links goes on from one thing to the next. In a finite set it ends or comes to a loop
(`ends_or_loops`), and where each thing has at most one link it does not do both
(`not_loops_of_ends`).
-/

namespace Playfield

open Relation

variable {α : Type*} {link : α → α → Prop} {a : α}

/-- Within a finite set a chain ends, or comes to something that lies above itself. -/
theorem ends_or_loops {s : Set α} (finite : s.Finite) (closed : ∀ b c, link b c → c ∈ s)
    (mem : a ∈ s) : (∃ b, ReflTransGen link a b ∧ ∀ c, ¬link b c) ∨
      ∃ b, ReflTransGen link a b ∧ TransGen link b b := by
  by_contra neither
  rw [not_or] at neither
  obtain ⟨endless, simple⟩ := neither
  let Above := {b // b ∈ s ∧ ReflTransGen link a b}
  have : Finite Above := (finite.subset fun _ h => h.1).to_subtype
  -- Without a loop what lies above is ordered, and something of it is the highest.
  let Higher (b c : Above) : Prop := TransGen link c.1 b.1
  have : IsTrans Above Higher := ⟨fun _ _ _ h h' => h'.trans h⟩
  have : Std.Irrefl Higher := ⟨fun b back => simple ⟨b.1, b.2.2, back⟩⟩
  obtain ⟨root, -, highest⟩ := (Finite.wellFounded_of_trans_of_irrefl Higher).has_min Set.univ
    ⟨⟨a, mem, .refl⟩, trivial⟩
  refine endless ⟨root.1, root.2.2, fun b linked => ?_⟩
  exact highest ⟨b, closed _ _ linked, root.2.2.tail linked⟩ trivial (.single linked)

/-- Where there is no choice, a chain that ends comes to no loop. -/
theorem not_loops_of_ends (unique : Relator.RightUnique link)
    (ends : ∃ b, ReflTransGen link a b ∧ ∀ c, ¬link b c) :
    ¬∃ b, ReflTransGen link a b ∧ TransGen link b b := by
  obtain ⟨b, chain, last⟩ := ends
  induction chain using ReflTransGen.head_induction_on with
  | refl =>
    rintro ⟨v, above, loop⟩
    rcases ReflTransGen.cases_head above with rfl | ⟨c, linked, -⟩
    · obtain ⟨c, linked, -⟩ := TransGen.head'_iff.1 loop
      exact last c linked
    · exact last c linked
  | @head a c linked _ ih =>
    rintro ⟨v, above, loop⟩
    refine ih ?_
    rcases ReflTransGen.cases_head above with rfl | ⟨d, linked', above⟩
    · obtain ⟨d, linked', back⟩ := TransGen.head'_iff.1 loop
      cases unique linked linked'
      exact ⟨a, back, loop⟩
    · cases unique linked linked'
      exact ⟨v, above, loop⟩

end Playfield
