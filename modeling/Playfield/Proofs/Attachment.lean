import Mathlib.Data.List.Nodup
import Playfield.Attachment
import Playfield.Proofs.Chain

/-!
# Walks along attachments

What `Attachments.walk` visits, and with which values.

* `mem_visited_of_mem_stack`, `mem_visited_of_child`: what waits on the stack is visited, and so are
  the children of what is visited.
* `visited_origin`: what is visited waited on the stack or is the child of something visited.
* `walk_values`: what holds of the values on the stack, and is handed down to children, holds of
  all values.
* `mem_subtree_iff_of_link`: an attached uid belongs to a subtree just if its parent does, unless
  the subtree starts at the uid itself.
* `Under`: the chain of parents of a uid leads to another one. `under_of_mem_subtree`,
  `rootOf?_of_under`: members of a subtree lie under its head, and share its root if they have one.
* `rootOf?_eq_some_iff`: a chain of parents that ends does so within as many steps as there are
  links.
* `parent?_of_perm`, `rootOf?_of_perm`, `subtree_perm`: it does not matter in which order the links
  are listed.
* `only`: the links of some uids. `parent?_only`, `walk_only`, `rootOf?_only`, `treeOf_only`: those
  uids find there what they found among all, if no link leads from one of them to another uid or
  back.
-/

namespace Playfield.Attachments

variable {α : Type} {g : Attachments} {down : String → α → α} {pending : List String}
  {stack : List (String × α)} {uid child parent root : String}

/-! ### Links -/

theorem isLive_iff : g.isLive uid = true ↔ uid ∈ g.uids := by
  simp [isLive, uids]

theorem mem_children_iff : child ∈ g.children uid ↔ uid ∈ g.uids ∧ (child, some uid) ∈ g.links := by
  unfold children
  by_cases live : g.isLive uid = true
  · simp [live, isLive_iff.1 live]
  · rw [if_neg live]
    exact ⟨fun h => absurd h List.not_mem_nil, fun h => absurd (isLive_iff.2 h.1) live⟩

theorem link_unique (distinct : g.uids.Nodup) {o o' : Option String} (link : (uid, o) ∈ g.links)
    (link' : (uid, o') ∈ g.links) : o = o' :=
  congrArg Prod.snd (List.inj_on_of_nodup_map distinct link link' rfl)

theorem parent?_of_mem (distinct : g.uids.Nodup) {o : Option String} (link : (uid, o) ∈ g.links) :
    g.parent? uid = o.filter g.isLive := by
  -- The link is the only one of the uid, so the search from the end meets it first.
  obtain ⟨before, after, split⟩ := List.append_of_mem link
  have absent : ∀ l ∈ after, l.1 ≠ uid := by
    intro l hl same
    rw [uids, split, List.map_append, List.map_cons, List.nodup_append] at distinct
    exact (List.nodup_cons.1 distinct.2.1).1 (List.mem_map.2 ⟨l, hl, same⟩)
  have skip : after.reverse.findSome? (fun l => if l.1 = uid then l.2.filter g.isLive else none) =
      none := by
    rw [List.findSome?_eq_none_iff]
    intro l hl
    rw [if_neg (absent l (List.mem_reverse.1 hl))]
  have others : ∀ l ∈ before, l.1 ≠ uid := by
    intro l hl same
    rw [uids, split, List.map_append, List.map_cons, List.nodup_append] at distinct
    exact distinct.2.2 l.1 (List.mem_map_of_mem hl) uid List.mem_cons_self same
  have rest : before.reverse.findSome?
      (fun l => if l.1 = uid then l.2.filter g.isLive else none) = none := by
    rw [List.findSome?_eq_none_iff]
    intro l hl
    rw [if_neg (others l (List.mem_reverse.1 hl))]
  rw [parent?, split, List.reverse_append, List.findSome?_append, List.reverse_cons,
    List.findSome?_append, skip, rest, List.findSome?_singleton, if_pos rfl, Option.none_or,
    Option.or_none]

theorem link_of_parent? (h : g.parent? child = some parent) :
    (child, some parent) ∈ g.links ∧ parent ∈ g.uids := by
  obtain ⟨⟨c, o⟩, mem, here⟩ := List.exists_of_findSome?_eq_some h
  dsimp only at here
  by_cases same : c = child
  · rw [if_pos same, Option.filter_eq_some_iff] at here
    obtain ⟨rfl, live⟩ := here
    exact ⟨same ▸ List.mem_reverse.1 mem, isLive_iff.1 live⟩
  · rw [if_neg same] at here
    cases here

theorem mem_children_of_parent? (h : g.parent? child = some parent) : child ∈ g.children parent :=
  mem_children_iff.2 (link_of_parent? h).symm

/-! ### What is visited -/

/-- Induction along a walk. -/
@[elab_as_elim]
theorem walk_rec (g : Attachments) (down : String → α → α)
    {motive : List String → List (String × α) → Prop}
    (done : ∀ pending, motive pending [])
    (visit : ∀ pending uid a rest, uid ∈ pending →
      motive (pending.filter (· != uid)) ((g.children uid).map (·, down uid a) ++ rest) →
      motive pending ((uid, a) :: rest))
    (skip : ∀ pending uid a rest, uid ∉ pending → motive pending rest →
      motive pending ((uid, a) :: rest))
    (pending : List String) (stack : List (String × α)) : motive pending stack := by
  induction pending, stack using walk.induct g down with
  | case1 pending => exact done pending
  | case2 pending uid a rest isOpen ih => exact visit pending uid a rest isOpen (by simpa using ih)
  | case3 pending uid a rest closed ih => exact skip pending uid a rest closed ih

/-- What waits on the stack is visited. -/
theorem mem_visited_of_mem_stack {e : String × α} (waits : e ∈ stack) (isOpen : e.1 ∈ pending) :
    e.1 ∈ (g.walk down pending stack).map Prod.fst := by
  induction pending, stack using walk_rec g down with
  | done => cases waits
  | visit pending uid a rest hu ih =>
    rw [walk, if_pos hu, List.map_cons, List.mem_cons]
    by_cases same : e.1 = uid
    · exact .inl same
    · refine .inr (ih ?_ ?_)
      · rcases List.mem_cons.1 waits with rfl | waits
        · exact absurd rfl same
        · exact List.mem_append_right _ waits
      · rw [List.mem_filter]
        exact ⟨isOpen, by simpa using same⟩
  | skip pending uid a rest hu ih =>
    rw [walk, if_neg hu]
    rcases List.mem_cons.1 waits with rfl | waits
    · exact absurd isOpen hu
    · exact ih waits isOpen

/-- The children of what is visited are visited. -/
theorem mem_visited_of_child (visited : uid ∈ (g.walk down pending stack).map Prod.fst)
    (attached : child ∈ g.children uid) (isOpen : child ∈ pending) :
    child ∈ (g.walk down pending stack).map Prod.fst := by
  induction pending, stack using walk_rec g down with
  | done => rw [walk] at visited; cases visited
  | visit pending u a rest hu ih =>
    rw [walk, if_pos hu, List.map_cons, List.mem_cons] at visited ⊢
    by_cases same : child = u
    · exact .inl same
    · have still : child ∈ pending.filter (· != u) := by
        rw [List.mem_filter]
        exact ⟨isOpen, by simpa using same⟩
      rcases visited with rfl | visited
      · have waits : (child, down uid a) ∈ (g.children uid).map (·, down uid a) ++ rest :=
          List.mem_append_left _ (List.mem_map.2 ⟨child, attached, rfl⟩)
        exact .inr (mem_visited_of_mem_stack waits still)
      · exact .inr (ih visited still)
  | skip pending u a rest hu ih =>
    rw [walk, if_neg hu] at visited ⊢
    exact ih visited isOpen

/-- What is visited waited on the stack or is the child of something visited. -/
theorem visited_origin (visited : uid ∈ (g.walk down pending stack).map Prod.fst) :
    uid ∈ stack.map Prod.fst ∨
      ∃ u ∈ (g.walk down pending stack).map Prod.fst, uid ∈ g.children u := by
  induction pending, stack using walk_rec g down with
  | done => rw [walk] at visited; cases visited
  | visit pending u a rest hu ih =>
    rw [walk, if_pos hu, List.map_cons, List.mem_cons] at visited
    rw [walk, if_pos hu]
    rcases visited with rfl | visited
    · exact .inl (List.mem_map_of_mem List.mem_cons_self)
    · rcases ih visited with waits | ⟨v, hv, attached⟩
      · rw [List.map_append, List.mem_append] at waits
        rcases waits with attached | waits
        · refine .inr ⟨u, List.mem_map_of_mem List.mem_cons_self, ?_⟩
          simpa using attached
        · exact .inl (List.mem_cons_of_mem _ waits)
      · exact .inr ⟨v, List.mem_cons_of_mem _ hv, attached⟩
  | skip pending u a rest hu ih =>
    rw [walk, if_neg hu] at visited ⊢
    exact (ih visited).imp (List.mem_cons_of_mem _) id

theorem visited_subset : (g.walk down pending stack).map Prod.fst ⊆ pending := by
  induction pending, stack using walk_rec g down with
  | done =>
    rw [walk]
    exact List.nil_subset _
  | visit pending u a rest hu ih =>
    rw [walk, if_pos hu, List.map_cons]
    exact List.cons_subset.2 ⟨hu, fun v hv => (List.mem_filter.1 (ih hv)).1⟩
  | skip pending u a rest hu ih =>
    rw [walk, if_neg hu]
    exact ih

/-- Nothing is visited twice. -/
theorem visited_nodup : ((g.walk down pending stack).map Prod.fst).Nodup := by
  induction pending, stack using walk_rec g down with
  | done =>
    rw [walk]
    exact List.nodup_nil
  | visit pending u a rest hu ih =>
    rw [walk, if_pos hu, List.map_cons, List.nodup_cons]
    refine ⟨fun again => ?_, ih⟩
    have := (List.mem_filter.1 (visited_subset again)).2
    simp at this
  | skip pending u a rest hu ih =>
    rw [walk, if_neg hu]
    exact ih

/-- What holds of the values on the stack, and is handed down to children, holds of all values. -/
theorem walk_values {P : String → α → Prop} (start : ∀ e ∈ stack, P e.1 e.2)
    (hand : ∀ u a, P u a → ∀ v ∈ g.children u, P v (down u a)) :
    ∀ e ∈ g.walk down pending stack, P e.1 e.2 := by
  induction pending, stack using walk_rec g down with
  | done =>
    rw [walk]
    exact start
  | visit pending u a rest hu ih =>
    rw [walk, if_pos hu]
    have first := start (u, a) List.mem_cons_self
    intro e he
    rcases List.mem_cons.1 he with rfl | he
    · exact first
    · refine ih (fun e he => ?_) e he
      rcases List.mem_append.1 he with he | he
      · obtain ⟨v, hv, rfl⟩ := List.mem_map.1 he
        exact hand u a first v hv
      · exact start e (List.mem_cons_of_mem _ he)
  | skip pending u a rest hu ih =>
    rw [walk, if_neg hu]
    exact ih fun e he => start e (List.mem_cons_of_mem _ he)

/-! ### Subtrees -/

theorem self_mem_subtree : uid ∈ g.subtree uid :=
  mem_visited_of_mem_stack (e := (uid, ())) List.mem_cons_self List.mem_cons_self

theorem nodup_subtree : (g.subtree uid).Nodup := visited_nodup

/-- An attached uid belongs to a subtree just if its parent does, unless the subtree starts at the
uid itself. -/
theorem mem_subtree_iff_of_link (distinct : g.uids.Nodup)
    (link : (child, some parent) ∈ g.links) (live : parent ∈ g.uids) (ne : child ≠ root) :
    child ∈ g.subtree root ↔ parent ∈ g.subtree root := by
  constructor
  · intro h
    rcases visited_origin h with start | ⟨u, hu, attached⟩
    · exact absurd (by simpa using start) ne
    · have := link_unique distinct link (mem_children_iff.1 attached).2
      cases this
      exact hu
  · intro h
    refine mem_visited_of_child h (mem_children_iff.2 ⟨live, link⟩) (List.mem_cons_of_mem _ ?_)
    exact List.mem_map_of_mem link

/-- Whose parent belongs to a subtree belongs to it. -/
theorem mem_subtree_of_parent? (h : g.parent? child = some parent) (mem : parent ∈ g.subtree root) :
    child ∈ g.subtree root :=
  mem_visited_of_child mem (mem_children_of_parent? h)
    (List.mem_cons_of_mem _ (List.mem_map_of_mem (link_of_parent? h).1))

/-- The chain of parents of a uid leads to another one. -/
def Under (g : Attachments) : String → String → Prop :=
  Relation.ReflTransGen fun child parent => g.parent? child = some parent

theorem parent?_of_mem_children (distinct : g.uids.Nodup) (h : child ∈ g.children parent) :
    g.parent? child = some parent := by
  obtain ⟨live, link⟩ := mem_children_iff.1 h
  rw [parent?_of_mem distinct link, Option.filter_some, if_pos (isLive_iff.2 live)]

/-- The members of a subtree lie under its head. -/
theorem under_of_mem_subtree (distinct : g.uids.Nodup) (mem : uid ∈ g.subtree root) :
    g.Under uid root := by
  obtain ⟨e, he, rfl⟩ := List.mem_map.1 mem
  refine walk_values (P := fun u _ => g.Under u root) (fun e he => ?_) (fun u _ hu v hv => ?_) e he
  · obtain rfl := List.mem_singleton.1 he
    exact .refl
  · exact .head (parent?_of_mem_children distinct hv) hu

/-- A subtree is made of what lies under its head. -/
theorem mem_subtree_iff_under (distinct : g.uids.Nodup) :
    uid ∈ g.subtree root ↔ g.Under uid root := by
  refine ⟨under_of_mem_subtree distinct, fun under => ?_⟩
  induction under using Relation.ReflTransGen.head_induction_on with
  | refl => exact self_mem_subtree
  | head link _ ih => exact mem_subtree_of_parent? link ih

/-- Where nothing is attached, a subtree is its head. -/
theorem subtree_of_childless (distinct : g.uids.Nodup) (childless : ∀ u, g.parent? u ≠ some root) :
    g.subtree root = [root] := by
  refine List.perm_singleton.1 ((List.perm_ext_iff_of_nodup nodup_subtree
    (List.nodup_singleton root)).2 fun u => ?_)
  rw [mem_subtree_iff_under distinct, List.mem_singleton]
  constructor
  · intro under
    cases under with
    | refl => rfl
    | tail _ link => exact absurd link (childless _)
  · rintro rfl
    exact .refl

/-! ### Roots -/

/-- A chain that ends within some steps ends there within one more. -/
theorem climb_succ {n : Nat} (h : g.climb n uid = some root) : g.climb (n + 1) uid = some root := by
  induction n generalizing uid with
  | zero =>
    unfold climb at h ⊢
    cases hp : g.parent? uid with
    | none => simpa [hp] using h
    | some p => simp [hp] at h
  | succ n ih =>
    unfold climb at h ⊢
    cases hp : g.parent? uid with
    | none => simpa [hp] using h
    | some p =>
      simp only [hp] at h
      exact ih h

theorem rootOf?_of_parent? (link : g.parent? uid = some parent) (h : g.rootOf? uid = some root) :
    g.rootOf? parent = some root := by
  unfold rootOf? at h ⊢
  generalize g.links.length = n at h ⊢
  cases n with
  | zero => simp [climb, link] at h
  | succ n =>
    unfold climb at h
    rw [link] at h
    exact climb_succ h

/-- On a chain that ends all have the same end. -/
theorem rootOf?_of_under {above : String} (under : g.Under uid above)
    (h : g.rootOf? uid = some root) : g.rootOf? above = some root := by
  induction under with
  | refl => exact h
  | tail _ link ih => exact rootOf?_of_parent? link ih

theorem rootOf?_of_parent?_none (orphan : g.parent? uid = none) : g.rootOf? uid = some uid := by
  unfold rootOf? climb
  rw [orphan]

theorem parent?_of_climb {n : Nat} (h : g.climb n uid = some root) : g.parent? root = none := by
  induction n generalizing uid with
  | zero =>
    unfold climb at h
    cases hp : g.parent? uid with
    | none =>
      simp only [hp, Option.some.injEq] at h
      rw [← h, hp]
    | some p => simp [hp] at h
  | succ n ih =>
    unfold climb at h
    cases hp : g.parent? uid with
    | none =>
      simp only [hp, Option.some.injEq] at h
      rw [← h, hp]
    | some p =>
      simp only [hp] at h
      exact ih h

theorem mem_subtree_of_climb {n : Nat} (h : g.climb n uid = some root) :
    uid ∈ g.subtree root := by
  induction n generalizing uid with
  | zero =>
    unfold climb at h
    cases hp : g.parent? uid with
    | none =>
      simp only [hp, Option.some.injEq] at h
      exact h ▸ self_mem_subtree
    | some p => simp [hp] at h
  | succ n ih =>
    unfold climb at h
    cases hp : g.parent? uid with
    | none =>
      simp only [hp, Option.some.injEq] at h
      exact h ▸ self_mem_subtree
    | some p =>
      simp only [hp] at h
      exact mem_subtree_of_parent? hp (ih h)

/-- A uid belongs to the subtree of the end of its chain of parents. -/
theorem mem_subtree_of_rootOf? (h : g.rootOf? uid = some root) : uid ∈ g.subtree root :=
  mem_subtree_of_climb h

/-- The end of a chain of parents has no parent. -/
theorem parent?_of_rootOf? (h : g.rootOf? uid = some root) : g.parent? root = none :=
  parent?_of_climb h

theorem under_of_climb {n : Nat} (h : g.climb n uid = some root) : g.Under uid root := by
  induction n generalizing uid with
  | zero =>
    unfold climb at h
    cases hp : g.parent? uid with
    | none =>
      simp only [hp, Option.some.injEq] at h
      exact h ▸ .refl
    | some p => simp [hp] at h
  | succ n ih =>
    unfold climb at h
    cases hp : g.parent? uid with
    | none =>
      simp only [hp, Option.some.injEq] at h
      exact h ▸ .refl
    | some p =>
      simp only [hp] at h
      exact .head hp (ih h)

theorem parent?_unique :
    Relator.RightUnique fun child parent => g.parent? child = some parent :=
  fun _ _ _ h h' => Option.some.inj (h.symm.trans h')

/-- A chain that ends does not come back. -/
theorem not_under_of_parent? (link : g.parent? uid = some parent) (under : g.Under uid root)
    (orphan : g.parent? root = none) : ¬g.Under parent uid := fun back =>
  not_loops_of_ends parent?_unique ⟨root, under, Option.eq_none_iff_forall_ne_some.1 orphan⟩
    ⟨uid, .refl, .head' link back⟩

/-- If only some uids on a chain have parents, it is climbed within as many steps. -/
theorem climb_of_under {rest : List String} (under : g.Under uid root)
    (orphan : g.parent? root = none)
    (linked : ∀ {v p}, g.Under uid v → g.parent? v = some p → v ∈ rest) :
    g.climb rest.length uid = some root := by
  generalize size : rest.length = n
  induction n generalizing uid rest with
  | zero =>
    rcases Relation.ReflTransGen.cases_head under with rfl | ⟨p, link, _⟩
    · unfold climb
      rw [orphan]
    · rw [List.eq_nil_of_length_eq_zero size] at linked
      exact absurd (linked .refl link) List.not_mem_nil
  | succ n ih =>
    rcases Relation.ReflTransGen.cases_head under with rfl | ⟨p, link, above⟩
    · unfold climb
      rw [orphan]
    · unfold climb
      rw [link]
      have fewer : (rest.erase uid).length = n := by
        rw [List.length_erase_of_mem (linked .refl link), size, Nat.add_sub_cancel]
      refine ih above (fun {v _} later next => ?_) fewer
      have ne : v ≠ uid := fun same => not_under_of_parent? link under orphan (same ▸ later)
      exact (List.mem_erase_of_ne ne).2 (linked (.head link later) next)

/-- A chain of parents that ends does so within as many steps as there are links. -/
theorem rootOf?_eq_some_iff :
    g.rootOf? uid = some root ↔ g.Under uid root ∧ g.parent? root = none := by
  refine ⟨fun h => ⟨under_of_climb h, parent?_of_rootOf? h⟩, fun ⟨under, orphan⟩ => ?_⟩
  have climbed : g.climb g.uids.length uid = some root :=
    climb_of_under under orphan fun _ link => List.mem_map_of_mem (link_of_parent? link).1
  rwa [uids, List.length_map] at climbed

/-! ### Links in another order -/

section Reordered

variable {g' : Attachments} (order : g.links.Perm g'.links) (distinct : g.uids.Nodup)

include order

theorem uids_perm : g.uids.Perm g'.uids := order.map _

theorem isLive_of_perm : g'.isLive uid = g.isLive uid := by
  rw [Bool.eq_iff_iff, isLive_iff, isLive_iff, (uids_perm order).mem_iff]

include distinct

theorem parent?_of_perm (uid : String) : g'.parent? uid = g.parent? uid := by
  have distinct' : g'.uids.Nodup := (uids_perm order).nodup_iff.1 distinct
  by_cases linked : ∃ o, (uid, o) ∈ g.links
  · obtain ⟨o, link⟩ := linked
    rw [parent?_of_mem distinct link, parent?_of_mem distinct' (order.mem_iff.1 link)]
    exact congrArg (Option.filter · o) (funext fun _ => isLive_of_perm order)
  · have absent : g.parent? uid = none := Option.eq_none_iff_forall_ne_some.2 fun p h =>
      linked ⟨_, (link_of_parent? h).1⟩
    have absent' : g'.parent? uid = none := Option.eq_none_iff_forall_ne_some.2 fun p h =>
      linked ⟨_, order.mem_iff.2 (link_of_parent? h).1⟩
    rw [absent, absent']

theorem rootOf?_of_perm (uid : String) : g'.rootOf? uid = g.rootOf? uid := by
  unfold rootOf?
  rw [← order.length_eq]
  generalize g.links.length = n
  induction n generalizing uid with
  | zero =>
    unfold climb
    rw [parent?_of_perm order distinct]
    cases g.parent? uid <;> rfl
  | succ n ih =>
    unfold climb
    rw [parent?_of_perm order distinct]
    cases g.parent? uid with
    | none => rfl
    | some p => exact ih p

theorem directlyAttached_of_perm (a b : String) :
    g'.directlyAttached a b = g.directlyAttached a b := by
  unfold directlyAttached
  rw [parent?_of_perm order distinct, parent?_of_perm order distinct]

theorem subtree_perm (root : String) : (g'.subtree root).Perm (g.subtree root) := by
  have distinct' : g'.uids.Nodup := (uids_perm order).nodup_iff.1 distinct
  refine (List.perm_ext_iff_of_nodup nodup_subtree nodup_subtree).2 fun uid => ?_
  rw [mem_subtree_iff_under distinct, mem_subtree_iff_under distinct']
  unfold Under
  simp only [parent?_of_perm order distinct]

theorem treeOf_perm (uid : String) : (g'.treeOf uid).Perm (g.treeOf uid) := by
  unfold treeOf
  rw [rootOf?_of_perm order distinct]
  cases g.rootOf? uid with
  | none => exact .refl _
  | some root => exact subtree_perm order distinct root

end Reordered

/-! ### The links of some uids -/

/-- The links of some uids. -/
def only (g : Attachments) (keep : String → Bool) : Attachments := ⟨g.links.filter (keep ·.1)⟩

section Only

variable {keep : String → Bool} (distinct : g.uids.Nodup)
  (apart : ∀ {child parent}, g.parent? child = some parent → keep child = keep parent)

theorem uids_only (keep : String → Bool) : (g.only keep).uids = g.uids.filter keep :=
  (List.filter_map ..).symm

theorem isLive_only (kept : keep uid = true) : (g.only keep).isLive uid = g.isLive uid := by
  rw [Bool.eq_iff_iff, isLive_iff, isLive_iff, uids_only, List.mem_filter]
  exact and_iff_left kept

include distinct apart

theorem parent?_only (kept : keep uid = true) : (g.only keep).parent? uid = g.parent? uid := by
  have distinct' : (g.only keep).uids.Nodup := uids_only keep ▸ distinct.filter keep
  by_cases linked : ∃ o, (uid, o) ∈ g.links
  · obtain ⟨o, link⟩ := linked
    have found := parent?_of_mem distinct link
    rw [found, parent?_of_mem distinct' (List.mem_filter.2 ⟨link, kept⟩)]
    cases o with
    | none => rfl
    | some p =>
      rw [Option.filter_some, Option.filter_some]
      by_cases live : g.isLive p = true
      · -- The parent is one of those whose links there are.
        rw [Option.filter_some, if_pos live] at found
        rw [isLive_only ((apart found).symm.trans kept)]
      · have gone : ¬(g.only keep).isLive p = true := fun live' => live <| by
          rw [isLive_iff, uids_only] at live'
          exact isLive_iff.2 (List.mem_of_mem_filter live')
        rw [if_neg live, if_neg gone]
  · have absent : g.parent? uid = none := Option.eq_none_iff_forall_ne_some.2 fun p h =>
      linked ⟨_, (link_of_parent? h).1⟩
    have absent' : (g.only keep).parent? uid = none :=
      Option.eq_none_iff_forall_ne_some.2 fun p h =>
        linked ⟨_, List.mem_of_mem_filter (link_of_parent? h).1⟩
    rw [absent, absent']

theorem children_only (kept : keep uid = true) : (g.only keep).children uid = g.children uid := by
  unfold children
  rw [isLive_only kept]
  split
  · rename_i live
    refine congrArg _ ?_
    rw [only, List.filter_filter]
    refine List.filter_congr fun l mem => ?_
    by_cases attached : (l.2 == some uid) = true
    · have child : l.1 ∈ g.children uid :=
        mem_children_iff.2 ⟨isLive_iff.1 live, eq_of_beq attached ▸ mem⟩
      rw [apart (parent?_of_mem_children distinct child), kept, Bool.and_true]
    · rw [Bool.not_eq_true] at attached
      rw [attached, Bool.false_and]
  · rfl

omit distinct in
theorem keep_of_under (under : g.Under uid root) : keep uid = keep root := by
  induction under with
  | refl => rfl
  | tail _ link ih => exact ih.trans (apart link)

theorem keep_of_mem_subtree (kept : keep root = true) (mem : uid ∈ g.subtree root) :
    keep uid = true :=
  (keep_of_under apart (under_of_mem_subtree distinct mem)).trans kept

/-- A walk that starts among some uids visits no others, so their links are enough for it. -/
theorem walk_only {pending' : List String}
    (agree : ∀ u, keep u = true → (u ∈ pending' ↔ u ∈ pending))
    (starts : ∀ e ∈ stack, keep e.1 = true) :
    (g.only keep).walk down pending' stack = g.walk down pending stack := by
  induction pending, stack using walk_rec g down generalizing pending' with
  | done => rw [walk, walk]
  | visit pending u a rest mem ih =>
    rw [List.forall_mem_cons] at starts
    rw [walk, walk, if_pos mem, if_pos ((agree u starts.1).2 mem),
      children_only distinct apart starts.1, ih]
    · intro v kept
      rw [List.mem_filter, List.mem_filter, agree v kept]
    · intro e waits
      rcases List.mem_append.1 waits with waits | waits
      · obtain ⟨v, attached, rfl⟩ := List.mem_map.1 waits
        exact (apart (parent?_of_mem_children distinct attached)).trans starts.1
      · exact starts.2 e waits
  | skip pending u a rest closed ih =>
    rw [List.forall_mem_cons] at starts
    rw [walk, walk, if_neg closed, if_neg fun mem => closed ((agree u starts.1).1 mem),
      ih agree starts.2]

theorem subtree_only (kept : keep root = true) : (g.only keep).subtree root = g.subtree root := by
  refine congrArg (List.map _) (walk_only distinct apart (fun u kept => ?_)
    (List.forall_mem_singleton.2 kept))
  rw [List.mem_cons, List.mem_cons, uids_only, List.mem_filter, and_iff_left kept]

theorem under_only (kept : keep uid = true) : (g.only keep).Under uid root ↔ g.Under uid root := by
  constructor
  · intro under
    suffices g.Under uid root ∧ keep root = true from this.1
    induction under with
    | refl => exact ⟨.refl, kept⟩
    | tail _ link ih =>
      rw [parent?_only distinct apart ih.2] at link
      exact ⟨ih.1.tail link, (apart link).symm.trans ih.2⟩
  · intro under
    induction under with
    | refl => exact .refl
    | tail below link ih =>
      have kept' := (keep_of_under apart below).symm.trans kept
      exact ih.tail ((parent?_only distinct apart kept').trans link)

theorem rootOf?_only (kept : keep uid = true) : (g.only keep).rootOf? uid = g.rootOf? uid := by
  refine Option.ext fun root => ?_
  rw [rootOf?_eq_some_iff, rootOf?_eq_some_iff, under_only distinct apart kept]
  refine and_congr_right fun under => ?_
  rw [parent?_only distinct apart ((keep_of_under apart under).symm.trans kept)]

omit distinct in
theorem keep_of_rootOf? (kept : keep uid = true) (h : g.rootOf? uid = some root) :
    keep root = true :=
  (keep_of_under apart (rootOf?_eq_some_iff.1 h).1).symm.trans kept

theorem treeOf_only (kept : keep uid = true) : (g.only keep).treeOf uid = g.treeOf uid := by
  unfold treeOf
  rw [rootOf?_only distinct apart kept]
  cases h : g.rootOf? uid with
  | none => rfl
  | some root => exact subtree_only distinct apart (keep_of_rootOf? apart kept h)

theorem directlyAttached_only {a b : String} (keptA : keep a = true) (keptB : keep b = true) :
    (g.only keep).directlyAttached a b = g.directlyAttached a b := by
  unfold directlyAttached
  rw [parent?_only distinct apart keptA, parent?_only distinct apart keptB]

end Only

end Playfield.Attachments
