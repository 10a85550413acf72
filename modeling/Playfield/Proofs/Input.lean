import Playfield.Proofs.Table
import Playfield.Session.Command

/-!
# Merging inputs

Two inputs make one: sets of names are united, lists come one after the other.

* `InputFrame.merge` is the input made of two, `InputFrame.mergeAll` that made of many.
* `applyTo_eq_merge`: a command is added to an input by merging in the input that holds just it.
* `mergeAll_of_append`, `contains_mergeAll`: what is in a merged input is in one of its parts, lists
  in the order of the parts.
-/

namespace Playfield

/-! ### Sets of names -/

namespace NameSet

theorem empty_union (a : NameSet) : NameSet.union ∅ a = a := Table.ofList_entries a

theorem contains_union (a b : NameSet) (name : String) :
    (a.union b).contains name = (a.contains name || b.contains name) := by
  rw [union, Table.contains_insertAll, ← Table.contains_eq_any]

end NameSet

namespace PhaseSet

theorem merge_empty (s : PhaseSet) : s.merge {} = s := rfl

theorem empty_merge (s : PhaseSet) : merge {} s = s := by
  rw [merge, NameSet.empty_union, NameSet.empty_union, NameSet.empty_union]

theorem contains_empty (phase : Phase) (name : String) :
    contains {} phase name = false := by
  cases phase <;> rfl

theorem contains_merge (s t : PhaseSet) (phase : Phase) (name : String) :
    (s.merge t).contains phase name = (s.contains phase name || t.contains phase name) := by
  cases phase <;> exact NameSet.contains_union _ _ _

end PhaseSet

/-! ### Inputs -/

variable {K : Type}

namespace InputFrame

/-- Both inputs in one. -/
def merge (f g : InputFrame K) : InputFrame K where
  keyboard := f.keyboard.merge g.keyboard
  mouse := f.mouse.merge g.mouse
  collisions := f.collisions ++ g.collisions
  tools := f.tools ++ g.tools
  buttons := f.buttons ++ g.buttons

/-- All inputs in one, in their order. -/
def mergeAll (fs : List (InputFrame K)) : InputFrame K := fs.foldl merge {}

theorem merge_empty (f : InputFrame K) : f.merge {} = f := by
  simp only [merge, PhaseSet.merge_empty, List.append_nil]

/-- Where merging appends, merging all appends all. -/
theorem mergeAll_of_append {α : Type} (part : InputFrame K → List α)
    (appends : ∀ f g, part (f.merge g) = part f ++ part g) (none : part {} = [])
    (fs : List (InputFrame K)) : part (mergeAll fs) = fs.flatMap part := by
  have from_ (f : InputFrame K) : part (fs.foldl merge f) = part f ++ fs.flatMap part := by
    induction fs generalizing f with
    | nil => exact (List.append_nil _).symm
    | cons g rest ih => rw [List.foldl_cons, ih, appends, List.append_assoc, List.flatMap_cons]
  rw [mergeAll, from_, none, List.nil_append]

/-- Where merging unites, what is in all inputs together is in one of them. -/
theorem contains_mergeAll (device : InputFrame K → PhaseSet)
    (unites : ∀ f g, device (f.merge g) = (device f).merge (device g)) (none : device {} = {})
    (fs : List (InputFrame K)) (phase : Phase) (name : String) :
    (device (mergeAll fs)).contains phase name =
      fs.any fun f => (device f).contains phase name := by
  have from_ (f : InputFrame K) : (device (fs.foldl merge f)).contains phase name =
      ((device f).contains phase name || fs.any fun f => (device f).contains phase name) := by
    induction fs generalizing f with
    | nil => exact (Bool.or_false _).symm
    | cons g rest ih =>
      rw [List.foldl_cons, ih, unites, PhaseSet.contains_merge, List.any_cons, Bool.or_assoc]
  rw [mergeAll, from_, none, PhaseSet.contains_empty, Bool.false_or]

end InputFrame

namespace Command

/-- A command is added to an input by merging in the input that holds just it. -/
theorem applyTo_eq_merge (c : Command K) (role : String) (f : InputFrame K) :
    c.applyTo role f = f.merge (c.toFrame role) := by
  cases c with
  | noop => exact f.merge_empty.symm
  | input keyboard mouse buttons =>
    simp only [toFrame, applyTo, InputFrame.merge, PhaseSet.empty_merge, List.append_nil,
      List.nil_append]
  | _ =>
    simp only [toFrame, applyTo, InputFrame.merge, PhaseSet.merge_empty, List.append_nil,
      List.nil_append]

end Command

end Playfield
