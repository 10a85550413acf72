import Playfield.Proofs.Attachment

/-!
# Trees of attachments

What the traversals of `Attachments` give on any links, those with loops and missing parents
included, as long as no uid is listed twice.

* `parent?_eq_some_iff`, `children_eq`: parents and children in terms of the links.
* `Looping`: the chain of parents of a uid comes to a loop. `rootOf?_eq_none_iff`: just those uids
  have no root.
* `Preorder`: the trees under some uids, written out depth first. They are written in one way only
  (`Preorder.unique`).
* `Front`: what waits in a walk and is still to be visited, when the walk has come so far.
  `Front.visit` is one step of the walk, `preorder_walk` the whole of it; so a subtree is written in
  preorder (`preorder_subtree`).
* `treeOf_eq`: the members of a tree have the same tree.
-/

namespace Playfield.Attachments

open Relation

variable {α : Type} {g : Attachments} {pending waiting heads : List String}
  {stack : List (String × α)} {uid child parent root top : String} (distinct : g.uids.Nodup)

/-! ### Chains of parents -/

include distinct in
/-- The parent of a uid is the one that its link names, if that is listed. -/
theorem parent?_eq_some_iff :
    g.parent? child = some parent ↔ (child, some parent) ∈ g.links ∧ parent ∈ g.uids := by
  refine ⟨link_of_parent?, fun ⟨link, live⟩ => ?_⟩
  rw [parent?_of_mem distinct link, Option.filter_some, if_pos (isLive_iff.2 live)]

theorem mem_uids_of_parent? (link : g.parent? child = some parent) : child ∈ g.uids :=
  List.mem_map_of_mem (link_of_parent? link).1

/-- The chain of parents of a uid comes to one that lies above itself. -/
def Looping (g : Attachments) (uid : String) : Prop :=
  ∃ v, g.Under uid v ∧ TransGen (fun child parent => g.parent? child = some parent) v v

/-- Only on a chain that comes to a loop there is no root. -/
theorem rootOf?_eq_none_iff : g.rootOf? uid = none ↔ g.Looping uid := by
  constructor
  · intro rootless
    have linked : uid ∈ g.uids := by
      by_contra unlisted
      have orphan : g.parent? uid = none := Option.eq_none_iff_forall_ne_some.2 fun p link =>
        unlisted (mem_uids_of_parent? link)
      rw [rootOf?_of_parent?_none orphan] at rootless
      cases rootless
    refine (ends_or_loops (List.finite_toSet g.uids) (fun _ _ link => (link_of_parent? link).2)
      linked).resolve_left ?_
    rintro ⟨root, under, last⟩
    rw [rootOf?_eq_some_iff.2 ⟨under, Option.eq_none_iff_forall_ne_some.2 last⟩] at rootless
    cases rootless
  · intro loops
    refine Option.eq_none_iff_forall_ne_some.2 fun root found => ?_
    obtain ⟨under, orphan⟩ := rootOf?_eq_some_iff.1 found
    exact not_loops_of_ends parent?_unique
      ⟨root, under, Option.eq_none_iff_forall_ne_some.1 orphan⟩ loops

/-- Whatever lies above a listed uid is listed. -/
theorem mem_uids_of_under (under : g.Under uid root) (live : uid ∈ g.uids) : root ∈ g.uids := by
  cases under with
  | refl => exact live
  | tail _ link => exact (link_of_parent? link).2

/-! ### Preorder -/

/-- The uids attached to a uid in the order of the list, `top` left out. -/
def offspring (g : Attachments) (top uid : String) : List String :=
  g.uids.filter fun child => child ≠ top ∧ g.parent? child = some uid

/-- The trees under some uids, written out one after the other: first a uid, then the trees under
its offspring, then those under the other uids. The way down from `top` does not come back to it. -/
inductive Preorder (g : Attachments) (top : String) : List String → List String → Prop
  | nil : Preorder g top [] []
  | cons {uid : String} {heads inner outer : List String}
    (deeper : Preorder g top (g.offspring top uid) inner) (later : Preorder g top heads outer) :
    Preorder g top (uid :: heads) (uid :: (inner ++ outer))

/-- Trees are written out in one way only. -/
theorem Preorder.unique {l l' : List String} (h : g.Preorder top heads l)
    (h' : g.Preorder top heads l') : l = l' := by
  induction h generalizing l' with
  | nil =>
    cases h'
    rfl
  | cons _ _ ihDeeper ihLater =>
    cases h' with
    | cons deeper' later' => rw [ihDeeper deeper', ihLater later']

theorem Preorder.append_inv {heads' l : List String} (h : g.Preorder top (heads ++ heads') l) :
    ∃ inner outer, l = inner ++ outer ∧ g.Preorder top heads inner ∧
      g.Preorder top heads' outer := by
  induction heads generalizing l with
  | nil => exact ⟨[], l, rfl, .nil, h⟩
  | cons uid heads ih =>
    cases h with
    | cons deeper later =>
      obtain ⟨inner, outer, rfl, first, second⟩ := ih later
      exact ⟨_, outer, by simp, .cons deeper first, second⟩

theorem mem_offspring :
    child ∈ g.offspring top uid ↔ child ≠ top ∧ g.parent? child = some uid := by
  rw [offspring, List.mem_filter, decide_eq_true_iff]
  exact and_iff_right_of_imp fun h => mem_uids_of_parent? h.2

include distinct in
/-- The children of a uid are the listed uids of which it is the parent. -/
theorem children_eq (uid : String) :
    g.children uid = g.uids.filter fun child => g.parent? child = some uid := by
  unfold children
  split
  · rename_i live
    rw [uids, List.filter_map]
    refine congrArg _ (List.filter_congr fun l mem => ?_)
    rw [Bool.eq_iff_iff, beq_iff_eq, Function.comp_apply, decide_eq_true_iff,
      parent?_of_mem distinct (o := l.2) mem, Option.filter_eq_some_iff]
    exact (and_iff_left live).symm
  · rename_i gone
    refine (List.filter_eq_nil_iff.2 fun child _ => ?_).symm
    rw [decide_eq_true_iff]
    exact fun link => gone (isLive_iff.2 (link_of_parent? link).2)

include distinct in
theorem offspring_eq (top uid : String) :
    g.offspring top uid = (g.children uid).filter (· ≠ top) := by
  rw [children_eq distinct, List.filter_filter, offspring]
  exact List.filter_congr fun child _ => Bool.decide_and _ _

/-! ### Below the top -/

/-- The chain of parents of a uid leads to another one, and does not pass `top` on the way. -/
def Below (g : Attachments) (top : String) : String → String → Prop :=
  ReflTransGen fun child parent => child ≠ top ∧ g.parent? child = some parent

theorem step_unique : Relator.RightUnique fun child parent =>
    child ≠ top ∧ g.parent? child = some parent :=
  fun _ _ _ h h' => parent?_unique h.2 h'.2

/-- From below `top` a chain does not come back. -/
theorem not_below_back (below : g.Below top child top) (ne : child ≠ top)
    (link : g.parent? child = some parent) : ¬g.Below top parent child :=
  fun back => not_loops_of_ends step_unique ⟨top, below, fun _ h => h.1 rfl⟩
    ⟨child, .refl, .head' ⟨ne, link⟩ back⟩

/-- What waits in a walk from `top`, when `pending` is still to be visited: uids below `top`, none
of them below another, and all that is below them is pending. -/
structure Front (g : Attachments) (top : String) (pending waiting : List String) : Prop where
  below : ∀ uid ∈ waiting, g.Below top uid top
  apart : waiting.Pairwise fun a b => ¬g.Below top a b ∧ ¬g.Below top b a
  isOpen : ∀ uid ∈ waiting, ∀ v, g.Below top v uid → v ∈ pending
  passed : top ∉ pending

/-- The offspring of a uid below `top` are below it, and none of them is below another. -/
theorem front_offspring (distinct : g.uids.Nodup) (below : g.Below top uid top)
    (isOpen : ∀ child ∈ g.offspring top uid, ∀ v, g.Below top v child → v ∈ pending)
    (passed : top ∉ pending) : g.Front top pending (g.offspring top uid) := by
  have step {child : String} (mem : child ∈ g.offspring top uid) : g.Below top child uid :=
    .single (mem_offspring.1 mem)
  have apart {a b : String} (memA : a ∈ g.offspring top uid) (memB : b ∈ g.offspring top uid)
      (ne : a ≠ b) : ¬g.Below top a b := by
    intro path
    rcases ReflTransGen.cases_head path with same | ⟨v, first, rest⟩
    · exact ne same
    · -- The chain would go on from the parent of both to one of them.
      cases step_unique first (mem_offspring.1 memA)
      obtain ⟨ne, link⟩ := mem_offspring.1 memB
      exact not_below_back ((step memB).trans below) ne link rest
  have once : (g.offspring top uid).Nodup := distinct.filter _
  exact ⟨fun child mem => (step mem).trans below,
    once.pairwise_of_forall_ne fun a memA b memB ne =>
      ⟨apart memA memB ne, apart memB memA ne.symm⟩, isOpen, passed⟩

/-- The uid that is next is visited, and its offspring waits in its place. -/
theorem Front.visit (front : g.Front top pending (uid :: waiting)) (distinct : g.uids.Nodup) :
    g.Front top (pending.filter (· != uid)) (g.offspring top uid ++ waiting) := by
  obtain ⟨below, apart, isOpen, passed⟩ := front
  rw [List.forall_mem_cons] at below isOpen
  rw [List.pairwise_cons] at apart
  have passed' : top ∉ pending.filter (· != uid) := fun mem => passed (List.mem_of_mem_filter mem)
  have still {v : String} (mem : v ∈ pending) (ne : v ≠ uid) : v ∈ pending.filter (· != uid) :=
    List.mem_filter.2 ⟨mem, bne_iff_ne.2 ne⟩
  have step {child : String} (mem : child ∈ g.offspring top uid) : g.Below top child uid :=
    .single (mem_offspring.1 mem)
  have inner : g.Front top (pending.filter (· != uid)) (g.offspring top uid) := by
    refine front_offspring distinct below.1 (fun child mem v path => ?_) passed'
    refine still (isOpen.1 v (path.trans (step mem))) ?_
    rintro rfl
    obtain ⟨ne, link⟩ := mem_offspring.1 mem
    exact not_below_back ((step mem).trans below.1) ne link path
  refine ⟨List.forall_mem_append.2 ⟨inner.below, below.2⟩,
    List.pairwise_append.2 ⟨inner.apart, apart.2, fun child mem v later => ?_⟩,
    List.forall_mem_append.2 ⟨inner.isOpen, fun v later u path => ?_⟩, passed'⟩
  · refine ⟨fun path => ?_, fun path => (apart.1 v later).2 (path.trans (step mem))⟩
    rcases ReflTransGen.cases_head path with rfl | ⟨w, first, rest⟩
    · exact (apart.1 child later).2 (step mem)
    · -- The chain goes on from the parent, which would be below what waits.
      cases step_unique first (mem_offspring.1 mem)
      exact (apart.1 v later).1 rest
  · refine still (isOpen.2 v later u path) ?_
    rintro rfl
    exact (apart.1 v later).1 path

/-- A walk writes out the trees under what waits in it. -/
theorem preorder_walk (down : String → α → α) (distinct : g.uids.Nodup)
    (front : g.Front top pending ((stack.map Prod.fst).filter (· ≠ top))) :
    g.Preorder top ((stack.map Prod.fst).filter (· ≠ top))
      ((g.walk down pending stack).map Prod.fst) := by
  induction pending, stack using walk_rec g down with
  | done =>
    rw [walk]
    exact .nil
  | visit pending uid a rest mem ih =>
    have ne : uid ≠ top := fun same => front.passed (same ▸ mem)
    have waits : (((uid, a) :: rest).map Prod.fst).filter (· ≠ top) =
        uid :: (rest.map Prod.fst).filter (· ≠ top) := by
      rw [List.map_cons, List.filter_cons_of_pos (by simpa using ne)]
    have next : (((g.children uid).map (·, down uid a) ++ rest).map Prod.fst).filter (· ≠ top) =
        g.offspring top uid ++ (rest.map Prod.fst).filter (· ≠ top) := by
      rw [List.map_append, List.filter_append, List.map_map, offspring_eq distinct]
      simp [Function.comp_def]
    rw [waits] at front ⊢
    rw [next] at ih
    obtain ⟨inner, outer, all, deeper, later⟩ := (ih (front.visit distinct)).append_inv
    rw [walk, if_pos mem, List.map_cons, all]
    exact .cons deeper later
  | skip pending uid a rest closed ih =>
    -- Only `top` itself waits without being pending.
    have same : uid = top := by
      by_contra ne
      refine closed (front.isOpen uid ?_ uid .refl)
      rw [List.map_cons, List.filter_cons_of_pos (by simpa using ne)]
      exact List.mem_cons_self
    have waits : (((uid, a) :: rest).map Prod.fst).filter (· ≠ top) =
        (rest.map Prod.fst).filter (· ≠ top) := by
      rw [List.map_cons, List.filter_cons_of_neg (by simpa using same)]
    rw [waits] at front ⊢
    rw [walk, if_neg closed]
    exact ih front

include distinct in
/-- A subtree is written out in preorder. -/
theorem preorder_subtree (uid : String) : g.Preorder uid [uid] (g.subtree uid) := by
  have waits : ((((g.children uid).map fun child => (child, ())) ++ []).map Prod.fst).filter
      (· ≠ uid) = g.offspring uid uid := by
    rw [List.append_nil, List.map_map, offspring_eq distinct]
    simp [Function.comp_def]
  have front : g.Front uid ((uid :: g.uids).filter (· != uid)) (g.offspring uid uid) := by
    refine front_offspring distinct .refl (fun child mem v path => ?_) (by simp)
    obtain ⟨ne, link⟩ := mem_offspring.1 mem
    have linked : v ≠ uid ∧ ∃ p, g.parent? v = some p := by
      rcases ReflTransGen.cases_head path with rfl | ⟨w, first, -⟩
      · exact ⟨ne, uid, link⟩
      · exact ⟨first.1, w, first.2⟩
    obtain ⟨ne', p, link'⟩ := linked
    exact List.mem_filter.2
      ⟨List.mem_cons_of_mem _ (mem_uids_of_parent? link'), bne_iff_ne.2 ne'⟩
  have walked := preorder_walk (fun _ _ => ()) distinct (waits.symm ▸ front)
  rw [waits] at walked
  rw [subtree, walk, if_pos List.mem_cons_self, List.map_cons]
  rw [← List.append_nil ((g.walk _ _ _).map Prod.fst)]
  exact .cons walked .nil

/-! ### Trees -/

include distinct in
/-- The members of a tree have the same tree. -/
theorem treeOf_eq (mem : child ∈ g.treeOf uid) : g.treeOf child = g.treeOf uid := by
  unfold treeOf at mem ⊢
  cases found : g.rootOf? uid with
  | none =>
    rw [found] at mem
    rw [List.mem_singleton.1 mem, found]
  | some root =>
    rw [found] at mem
    have under := (mem_subtree_iff_under distinct).1 mem
    rw [rootOf?_eq_some_iff.2 ⟨under, parent?_of_rootOf? found⟩]

theorem self_mem_treeOf (uid : String) : uid ∈ g.treeOf uid := by
  unfold treeOf
  cases found : g.rootOf? uid with
  | none => exact List.mem_singleton_self uid
  | some root => exact mem_subtree_of_rootOf? found

/-- The subtree of a listed uid has listed members only. -/
theorem mem_uids_of_mem_subtree (live : root ∈ g.uids) (mem : uid ∈ g.subtree root) :
    uid ∈ g.uids := by
  rcases List.mem_cons.1 (visited_subset mem) with rfl | listed
  · exact live
  · exact listed

theorem mem_uids_of_mem_treeOf (live : uid ∈ g.uids) (mem : child ∈ g.treeOf uid) :
    child ∈ g.uids := by
  unfold treeOf at mem
  cases found : g.rootOf? uid with
  | none =>
    rw [found] at mem
    exact List.mem_singleton.1 mem ▸ live
  | some root =>
    rw [found] at mem
    exact mem_uids_of_mem_subtree (mem_uids_of_under (rootOf?_eq_some_iff.1 found).1 live) mem

theorem mem_roots_iff : root ∈ g.roots ↔ root ∈ g.uids ∧ g.parent? root = none := by
  rw [roots, List.mem_filter, Option.isNone_iff_eq_none]

include distinct in
/-- Who lies in the subtree of a root has that root. -/
theorem rootOf?_of_mem_subtree (isRoot : root ∈ g.roots) (mem : uid ∈ g.subtree root) :
    g.rootOf? uid = some root :=
  rootOf?_eq_some_iff.2 ⟨(mem_subtree_iff_under distinct).1 mem, (mem_roots_iff.1 isRoot).2⟩

include distinct in
/-- The subtrees of the roots have no uid in common. -/
theorem disjoint_subtrees :
    g.roots.Pairwise fun r r' => List.Disjoint (g.subtree r) (g.subtree r') := by
  have once : g.roots.Nodup := distinct.filter _
  refine once.pairwise_of_forall_ne fun r isRoot r' isRoot' ne uid mem mem' => ne ?_
  have found := rootOf?_of_mem_subtree distinct isRoot mem
  rw [rootOf?_of_mem_subtree distinct isRoot' mem'] at found
  exact (Option.some.inj found).symm

include distinct in
/-- The subtrees of the roots cover the listed uids that have a root. -/
theorem covered_iff : (∃ root ∈ g.roots, uid ∈ g.subtree root) ↔
    uid ∈ g.uids ∧ g.rootOf? uid ≠ none := by
  constructor
  · rintro ⟨root, isRoot, mem⟩
    refine ⟨mem_uids_of_mem_subtree (mem_roots_iff.1 isRoot).1 mem, ?_⟩
    rw [rootOf?_of_mem_subtree distinct isRoot mem]
    exact Option.some_ne_none root
  · rintro ⟨live, rooted⟩
    obtain ⟨root, found⟩ := Option.ne_none_iff_exists'.1 rooted
    obtain ⟨under, orphan⟩ := rootOf?_eq_some_iff.1 found
    exact ⟨root, mem_roots_iff.2 ⟨mem_uids_of_under under live, orphan⟩,
      mem_subtree_of_rootOf? found⟩

/-- On links of distinct uids the root of a listed uid is where its chain of parents ends, and there
is none just if the chain comes to a loop. Its subtree begins with it, repeats nothing, has as
members the listed uids whose chain passes through it, and is written depth first, siblings in the
order of the list. The trees part the listed uids; the subtrees of the roots have no uid in common
and cover those with a root. -/
theorem traversals_are_exact (g : Attachments) (distinct : g.uids.Nodup) :
    (∀ child parent, g.parent? child = some parent ↔
      (child, some parent) ∈ g.links ∧ parent ∈ g.uids) ∧
    (∀ uid ∈ g.uids,
      (∀ root, g.rootOf? uid = some root ↔ g.Under uid root ∧ g.parent? root = none) ∧
      (g.rootOf? uid = none ↔ g.Looping uid) ∧
      (g.subtree uid).head? = some uid ∧ (g.subtree uid).Nodup ∧
      (∀ v, v ∈ g.subtree uid ↔ v ∈ g.uids ∧ g.Under v uid) ∧
      (∀ l, g.Preorder uid [uid] l ↔ l = g.subtree uid) ∧
      uid ∈ g.treeOf uid ∧ ∀ v ∈ g.treeOf uid, v ∈ g.uids ∧ g.treeOf v = g.treeOf uid) ∧
    g.roots.Pairwise (fun r r' => List.Disjoint (g.subtree r) (g.subtree r')) ∧
    ∀ uid, (∃ root ∈ g.roots, uid ∈ g.subtree root) ↔
      uid ∈ g.uids ∧ g.rootOf? uid ≠ none := by
  refine ⟨fun _ _ => parent?_eq_some_iff distinct, fun uid live => ?_, disjoint_subtrees distinct,
    fun _ => covered_iff distinct⟩
  have written := preorder_subtree distinct uid
  have begins : (g.subtree uid).head? = some uid := by
    generalize g.subtree uid = l at written
    cases written
    rfl
  refine ⟨fun _ => rootOf?_eq_some_iff, rootOf?_eq_none_iff, begins, nodup_subtree, fun v => ?_,
    fun l => ⟨fun other => other.unique written, fun same => same ▸ written⟩, self_mem_treeOf uid,
    fun v mem => ⟨mem_uids_of_mem_treeOf live mem, treeOf_eq distinct mem⟩⟩
  rw [← mem_subtree_iff_under distinct]
  exact (and_iff_right_of_imp (mem_uids_of_mem_subtree live)).symm

/-- A hat with a feather and a scarf on a player, a ring and a band that hang on each other, a charm
on the ring, and a lost glove. -/
def wardrobe : Attachments :=
  ⟨[("feather", some "hat"), ("hat", some "player"), ("band", some "ring"), ("player", none),
    ("ring", some "band"), ("charm", some "ring"), ("scarf", some "player"),
    ("glove", some "ghost")]⟩

/-- The ring has a subtree, but its charm no root. -/
theorem charm_has_no_root :
    wardrobe.uids.Nodup ∧ wardrobe.Looping "charm" ∧ wardrobe.treeOf "charm" = ["charm"] ∧
      wardrobe.Preorder "ring" ["ring"] ["ring", "band", "charm"] ∧
      wardrobe.Preorder "player" ["player"] ["player", "hat", "feather", "scarf"] ∧
      wardrobe.treeOf "feather" = wardrobe.treeOf "scarf" := by
  have distinct : wardrobe.uids.Nodup := by decide
  obtain ⟨-, listed, -⟩ := traversals_are_exact wardrobe distinct
  obtain ⟨-, rootless, -⟩ := listed "charm" (by decide)
  obtain ⟨-, -, -, -, -, ring, -⟩ := listed "ring" (by decide)
  obtain ⟨-, -, -, -, -, player, -, -⟩ := listed "player" (by decide)
  obtain ⟨-, -, -, -, -, -, -, scarf⟩ := listed "scarf" (by decide)
  have below : wardrobe.subtree "player" = ["player", "hat", "feather", "scarf"] := by
    simp [wardrobe, subtree, walk, children, isLive, uids]
  have around : wardrobe.subtree "ring" = ["ring", "band", "charm"] := by
    simp [wardrobe, subtree, walk, children, isLive, uids]
  have root : wardrobe.rootOf? "scarf" = some "player" := by decide
  have mem : "feather" ∈ wardrobe.treeOf "scarf" := by
    rw [treeOf, root]
    dsimp only
    rw [below]
    decide
  exact ⟨distinct, rootless.1 (by decide), by decide, (ring _).2 around.symm,
    (player _).2 below.symm, (scarf "feather" mem).2⟩

end Playfield.Attachments
