import Mathlib.Data.List.Forall2
import Mathlib.Data.List.Nodup
import Playfield.Roster

/-!
# What rosters find

How each operation on a roster shows in what names find afterwards:

* `find?_map`, `find?_modify`, `find?_append`;
* `find?_eq_some_iff`: where names are distinct, a name finds the entry that carries it.
* `forall₂_of_find?`, `ext_find?`: two lists of the same names are compared by what names find.
* `find?_filter`, `modify_filter`, `filter_modify`: entries of other names do not matter.
* `forM_eq_ok_iff`: a test of all entries.
-/

namespace Playfield.Roster

variable {α β : Type} {key : α → String} {name other : String} {f : α → α} {l l' : List α}

theorem find?_eq_none_iff : find? key name l = none ↔ ∀ a ∈ l, key a ≠ name := by
  rw [← Option.not_isSome_iff_eq_none, find?_isSome_iff]
  simp

theorem mem_of_find?_eq_some {a : α} (h : find? key name l = some a) : a ∈ l ∧ key a = name := by
  induction l with
  | nil => cases h
  | cons b rest ih =>
    unfold find? at h
    split at h
    · rename_i c hc
      cases h
      exact ⟨List.mem_cons_of_mem _ (ih hc).1, (ih hc).2⟩
    · by_cases hb : key b = name
      · rw [if_pos hb] at h
        cases h
        exact ⟨List.mem_cons_self, hb⟩
      · rw [if_neg hb] at h
        cases h

/-- Where names are distinct, a name finds the entry that carries it. -/
theorem find?_eq_some_iff (distinct : (l.map key).Nodup) {a : α} :
    find? key name l = some a ↔ a ∈ l ∧ key a = name := by
  refine ⟨mem_of_find?_eq_some, fun ⟨mem, carries⟩ => ?_⟩
  obtain ⟨b, hb⟩ := Option.isSome_iff_exists.1 ((find?_isSome_iff key).2 ⟨a, mem, carries⟩)
  obtain ⟨mem', carries'⟩ := mem_of_find?_eq_some hb
  rw [hb, List.inj_on_of_nodup_map distinct mem' mem (carries'.trans carries.symm)]

theorem find?_key (distinct : (l.map key).Nodup) {a : α} (mem : a ∈ l) :
    find? key (key a) l = some a :=
  (find?_eq_some_iff distinct).2 ⟨mem, rfl⟩

/-- Where names are distinct, a name finds the same in any order. -/
theorem find?_perm (order : l.Perm l') (distinct : (l.map key).Nodup) :
    find? key name l = find? key name l' := by
  refine Option.ext fun a => ?_
  rw [find?_eq_some_iff distinct, find?_eq_some_iff ((order.map key).nodup_iff.1 distinct),
    order.mem_iff]

/-- Where two lists have the same distinct names, entries at the same place are what a name
finds. -/
theorem forall₂_of_find? {R : α → α → Prop} (keys : l.map key = l'.map key)
    (distinct : (l.map key).Nodup)
    (found : ∀ a ∈ l, ∃ b, find? key (key a) l' = some b ∧ R a b) : List.Forall₂ R l l' := by
  have lengths : l.length = l'.length := by simpa using congrArg List.length keys
  refine List.forall₂_iff_get.2 ⟨lengths, fun i lt lt' => ?_⟩
  simp only [List.get_eq_getElem]
  have same : key l[i] = key l'[i] := by simpa [lt, lt'] using congrArg (·[i]?) keys
  obtain ⟨b, here, related⟩ := found l[i] (List.getElem_mem lt)
  rw [same, find?_key (keys ▸ distinct) (List.getElem_mem lt')] at here
  exact Option.some.inj here ▸ related

/-- Lists of the same distinct names, which find the same, are the same. -/
theorem ext_find? (keys : l.map key = l'.map key) (distinct : (l.map key).Nodup)
    (find : ∀ name, find? key name l = find? key name l') : l = l' := by
  refine List.forall₂_eq_eq_eq ▸ forall₂_of_find? keys distinct fun a mem => ?_
  exact ⟨a, find (key a) ▸ find?_key distinct mem, rfl⟩

theorem contains_iff : contains key name l = true ↔ name ∈ l.map key := by
  rw [contains, find?_isSome_iff, List.mem_map]

theorem find?_map {key' : β → String} {g : α → β} (keeps : ∀ a, key' (g a) = key a) :
    find? key' name (l.map g) = (find? key name l).map g := by
  induction l with
  | nil => rfl
  | cons a rest ih =>
    rw [List.map_cons, find?, find?, ih]
    cases find? key name rest with
    | some b => rfl
    | none =>
      by_cases h : key a = name
      · simp [keeps, h]
      · simp [keeps, h]

/-- Of two lists the later one counts. -/
theorem find?_append : find? key name (l ++ l') = (find? key name l').or (find? key name l) := by
  induction l with
  | nil => exact Option.or_none.symm
  | cons a rest ih =>
    rw [List.cons_append, find?, find?, ih]
    cases find? key name l' with
    | some b => rfl
    | none => rfl

/-- Entries of other names may be left out. -/
theorem find?_filter (keep : String → Bool) (kept : keep name = true) :
    find? key name (l.filter (keep <| key ·)) = find? key name l := by
  induction l with
  | nil => rfl
  | cons a rest ih =>
    by_cases stays : keep (key a) = true
    · rw [List.filter_cons, if_pos stays, find?, find?, ih]
    · have ne : key a ≠ name := fun same => stays (same ▸ kept)
      rw [List.filter_cons, if_neg stays, ih, find?, if_neg ne]
      cases find? key name rest <;> rfl

theorem find?_filter_ne (h : name ≠ other) :
    find? key name (l.filter (key · != other)) = find? key name l :=
  find?_filter (· != other) (bne_iff_ne.2 h)

/-! ### Changes -/

theorem modify?_eq_none_iff : modify? key name f l = none ↔ find? key name l = none := by
  induction l with
  | nil => exact ⟨fun _ => rfl, fun _ => rfl⟩
  | cons a rest ih =>
    rw [modify?, find?]
    cases hm : modify? key name f rest <;> cases hf : find? key name rest <;>
      by_cases ha : key a = name <;> simp_all

/-- A change of one name shows where that name is looked up, and nowhere else. -/
theorem find?_modify? (keeps : ∀ a, key (f a) = key a) (h : modify? key name f l = some l') :
    find? key other l' = (find? key other l).map fun a => if key a = name then f a else a := by
  induction l generalizing l' with
  | nil => cases h
  | cons a rest ih =>
    rw [modify?] at h
    cases hm : modify? key name f rest with
    | some rest' =>
      rw [hm] at h
      cases h
      have later : find? key name rest ≠ none := fun hn => by
        rw [modify?_eq_none_iff.2 hn] at hm
        cases hm
      rw [find?, find?, ih hm]
      cases ho : find? key other rest with
      | some b => rfl
      | none =>
        by_cases hk : key a = other
        · subst hk
          have : key a ≠ name := fun same => later (by rw [← same, ho])
          simp [this]
        · simp [hk]
    | none =>
      have absent := find?_eq_none_iff.1 (modify?_eq_none_iff.1 hm)
      rw [hm] at h
      by_cases ha : key a = name
      · simp only [ha, if_true, Option.some.injEq] at h
        subst h
        rw [find?, find?]
        cases ho : find? key other rest with
        | some b => simp [absent b (mem_of_find?_eq_some ho).1]
        | none => by_cases hk : name = other <;> simp [keeps, ha, hk]
      · simp [ha] at h

theorem find?_modify (keeps : ∀ a, key (f a) = key a) :
    find? key other (modify key name f l) =
      (find? key other l).map fun a => if key a = name then f a else a := by
  rw [modify]
  cases h : modify? key name f l with
  | some l' => exact find?_modify? keeps h
  | none =>
    have absent := find?_eq_none_iff.1 (modify?_eq_none_iff.1 h)
    cases ho : find? key other l with
    | none => rw [Option.getD_none, ho, Option.map_none]
    | some b =>
      rw [Option.getD_none, ho, Option.map_some, if_neg (absent b (mem_of_find?_eq_some ho).1)]

/-- What a change does not touch stays as it is. -/
theorem map_modify? {g : α → β} (keeps : ∀ a, g (f a) = g a)
    (h : modify? key name f l = some l') : l'.map g = l.map g := by
  induction l generalizing l' with
  | nil => cases h
  | cons a rest ih =>
    rw [modify?] at h
    split at h
    · rename_i rest' hr
      cases h
      rw [List.map_cons, List.map_cons, ih hr]
    · split at h
      · cases h
        rw [List.map_cons, List.map_cons, keeps]
      · cases h

theorem map_modify {g : α → β} (keeps : ∀ a, g (f a) = g a) :
    (modify key name f l).map g = l.map g := by
  unfold modify
  cases h : modify? key name f l with
  | none => rfl
  | some l' => exact map_modify? keeps h

/-- Entries of other names may be left out before a change or after it. -/
theorem modify?_filter (keep : String → Bool) (keeps : ∀ a, key (f a) = key a)
    (kept : keep name = true) :
    modify? key name f (l.filter (keep <| key ·)) =
      (modify? key name f l).map (·.filter (keep <| key ·)) := by
  induction l with
  | nil => rfl
  | cons a rest ih =>
    by_cases stays : keep (key a) = true
    · rw [List.filter_cons, if_pos stays, modify?, modify?, ih]
      cases modify? key name f rest with
      | some rest' => simp [stays]
      | none =>
        by_cases here : key a = name
        · simp [here, keeps, kept]
        · simp [here]
    · have ne : key a ≠ name := fun same => stays (same ▸ kept)
      rw [List.filter_cons, if_neg stays, modify?, ih, if_neg ne]
      cases modify? key name f rest with
      | some rest' => simp [stays]
      | none => rfl

theorem modify_filter (keep : String → Bool) (keeps : ∀ a, key (f a) = key a)
    (kept : keep name = true) :
    modify key name f (l.filter (keep <| key ·)) =
      (modify key name f l).filter (keep <| key ·) := by
  unfold modify
  rw [modify?_filter keep keeps kept]
  cases modify? key name f l <;> rfl

/-- A change does not show among the entries of other names. -/
theorem filter_modify? (keep : String → Bool) (keeps : ∀ a, key (f a) = key a)
    (gone : keep name = false) (h : modify? key name f l = some l') :
    l'.filter (keep <| key ·) = l.filter (keep <| key ·) := by
  induction l generalizing l' with
  | nil => cases h
  | cons a rest ih =>
    rw [modify?] at h
    cases later : modify? key name f rest with
    | some rest' =>
      rw [later] at h
      cases h
      rw [List.filter_cons, List.filter_cons, ih later]
    | none =>
      rw [later] at h
      by_cases here : key a = name
      · simp only [here, if_true, Option.some.injEq] at h
        subst h
        simp [here, keeps, gone]
      · simp [here] at h

theorem filter_modify (keep : String → Bool) (keeps : ∀ a, key (f a) = key a)
    (gone : keep name = false) :
    (modify key name f l).filter (keep <| key ·) = l.filter (keep <| key ·) := by
  unfold modify
  cases h : modify? key name f l with
  | none => rfl
  | some l' => exact filter_modify? keep keeps gone h

/-- Where names are distinct, a change of a name is a change at its position. -/
theorem modify_eq (distinct : (l.map key).Nodup) {i : Nat}
    (stands : (l.map key)[i]? = some name) : modify key name f l = l.modify i f := by
  induction l generalizing i with
  | nil => cases stands
  | cons a rest ih =>
    rw [List.map_cons, List.nodup_cons] at distinct
    cases i with
    | zero =>
      obtain rfl : key a = name := Option.some.inj stands
      have absent : modify? key (key a) f rest = none :=
        modify?_eq_none_iff.2 (find?_eq_none_iff.2 fun b mem same =>
          distinct.1 (same ▸ List.mem_map_of_mem mem))
      rw [modify, modify?, absent, List.modify_zero_cons]
      simp
    | succ i =>
      have later : name ∈ rest.map key := List.mem_of_getElem? stands
      obtain ⟨b, mem, carries⟩ := List.mem_map.1 later
      cases found : modify? key name f rest with
      | none => exact absurd carries (find?_eq_none_iff.1 (modify?_eq_none_iff.1 found) b mem)
      | some rest' =>
        have same : modify key name f rest = rest' := by rw [modify, found, Option.getD_some]
        rw [modify, modify?, found, List.modify_succ_cons, ← ih distinct.2 stands, same,
          Option.getD_some]

theorem modify_of_fixed (fixed : ∀ a, f a = a) : modify key name f l = l := by
  have same : (modify key name f l).map id = l.map id := map_modify fixed
  rwa [List.map_id, List.map_id] at same

/-! ### Tests -/

/-- All entries pass a test if each of them does. -/
theorem forM_eq_ok_iff {ε : Type} {test : α → Except ε Unit} :
    l.forM test = .ok () ↔ ∀ a ∈ l, test a = .ok () := by
  induction l with
  | nil => exact ⟨fun _ => nofun, fun _ => rfl⟩
  | cons a rest ih =>
    show (test a >>= fun _ => rest.forM _) = _ ↔ _
    rw [List.forall_mem_cons, ← ih]
    cases test a with
    | error e => exact ⟨nofun, fun h => nomatch h.1⟩
    | ok u => exact (and_iff_right rfl).symm

end Playfield.Roster
