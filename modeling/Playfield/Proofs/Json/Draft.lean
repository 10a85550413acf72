import Playfield.Json.Draft
import Playfield.Proofs.Table

/-!
# Values and their drafts

A draft says more than the value that it stands for. Going from a value to its draft and back puts
the value into normal form (`toJson?_toDraft`). The value of a draft is in normal form already
(`normal_of_toJson?`), so that it comes back unchanged (`toJson?_again`).
-/

namespace Playfield

variable {K : Type}

namespace Json

theorem itemsToDraft_eq_map (l : List (Json K)) : itemsToDraft l = l.map toDraft := by
  induction l with
  | nil => rfl
  | cons j rest ih => rw [itemsToDraft, ih, List.map_cons]

theorem membersToDraft_eq_map (l : List (String × Json K)) :
    membersToDraft l = l.map fun m => (m.1, m.2.toDraft) := by
  induction l with
  | nil => rfl
  | cons m rest ih => rw [membersToDraft, ih, List.map_cons]

theorem normalItems_eq_map (l : List (Json K)) : normalItems l = l.map normal := by
  induction l with
  | nil => rfl
  | cons j rest ih => rw [normalItems, ih, List.map_cons]

theorem normalMembers_eq_map (l : List (String × Json K)) :
    normalMembers l = l.map fun m => (m.1, m.2.normal) := by
  induction l with
  | nil => rfl
  | cons m rest ih => rw [normalMembers, ih, List.map_cons]

/-- Only null is drafted as null. -/
theorem toDraft_eq_null_iff {j : Json K} : j.toDraft = .null ↔ j = .null := by
  cases j <;> simp [toDraft]

mutual
/-- The draft of a value stands for its normal form. -/
theorem toJson?_toDraft (j : Json K) : j.toDraft.toJson? = some j.normal := by
  cases j with
  | arr items =>
    rw [toDraft, Draft.toJson?, itemsToJson?_toDraft items]
    rfl
  | obj members =>
    rw [toDraft, Draft.toJson?, membersToJson?_toDraft members]
    rfl
  | _ => rfl

theorem itemsToJson?_toDraft (l : List (Json K)) :
    Draft.itemsToJson? (itemsToDraft l) = some (normalItems l) := by
  cases l with
  | nil => rfl
  | cons j rest =>
    rw [itemsToDraft, Draft.itemsToJson?, toJson?_toDraft j, itemsToJson?_toDraft rest]
    rfl

theorem membersToJson?_toDraft (l : List (String × Json K)) :
    Draft.membersToJson? (membersToDraft l) = some (normalMembers l) := by
  cases l with
  | nil => rfl
  | cons m rest =>
    obtain ⟨name, j⟩ := m
    rw [membersToDraft, Draft.membersToJson?, toJson?_toDraft j, membersToJson?_toDraft rest]
    rfl
end

/-- No part of the draft of a value is void. -/
theorem isSound_toDraft (j : Json K) : j.toDraft.isSound = true := by
  rw [Draft.isSound, toJson?_toDraft, Option.isSome_some]

end Json

namespace Draft

mutual
/-- The value of a draft is in normal form. -/
theorem normal_of_toJson? {x : Draft K} {j : Json K} (h : x.toJson? = some j) : j.normal = j := by
  cases x with
  | arr items =>
    obtain ⟨js, read, rfl⟩ := Option.map_eq_some_iff.1 h
    rw [Json.normal, Json.normalItems_eq_map, List.map_congr_left (normal_of_itemsToJson? read),
      List.map_id']
  | obj verbatim members =>
    obtain ⟨ms, read, rfl⟩ := Option.map_eq_some_iff.1 h
    have kept : ∀ m ∈ (Table.ofList ms).entries, (m.1, m.2.normal) = m := fun m mem => by
      rw [normal_of_membersToJson? read m (Table.mem_of_mem_ofList mem)]
    rw [Json.normal, Json.normalMembers_eq_map, List.map_congr_left kept, List.map_id',
      Table.ofList_entries]
  | void => cases h
  | _ =>
    cases h
    rfl

theorem normal_of_itemsToJson? {l : List (Draft K)} {js : List (Json K)}
    (h : itemsToJson? l = some js) : ∀ j ∈ js, j.normal = j := by
  cases l with
  | nil =>
    cases h
    exact nofun
  | cons x rest =>
    simp only [itemsToJson?, Option.bind_eq_bind, Option.bind_eq_some_iff] at h
    obtain ⟨j, head, js', tail, same⟩ := h
    cases same
    exact List.forall_mem_cons.2 ⟨normal_of_toJson? head, normal_of_itemsToJson? tail⟩

theorem normal_of_membersToJson? {l : List (String × Draft K)} {ms : List (String × Json K)}
    (h : membersToJson? l = some ms) : ∀ m ∈ ms, m.2.normal = m.2 := by
  cases l with
  | nil =>
    cases h
    exact nofun
  | cons m rest =>
    obtain ⟨name, x⟩ := m
    simp only [membersToJson?, Option.bind_eq_bind, Option.bind_eq_some_iff] at h
    obtain ⟨j, head, ms', tail, same⟩ := h
    cases same
    exact List.forall_mem_cons.2 ⟨normal_of_toJson? head, normal_of_membersToJson? tail⟩
end

/-- What a draft stands for comes back from its own draft. -/
theorem toJson?_again {x : Draft K} {j : Json K} (h : x.toJson? = some j) :
    j.toDraft.toJson? = some j := by
  rw [Json.toJson?_toDraft, normal_of_toJson? h]

end Draft

end Playfield
