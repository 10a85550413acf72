/-!
# Attachments

An actor may be attached to a parent. `Attachments` is the list of links from uids to parents, in
actor order; a parent that is no uid of the list does not count.

* `parent?`, `children`, `roots`, `directlyAttached`.
* `rootOf?` climbs to the end of the chain of parents, if the chain ends.
* `walk` visits uids depth first and hands a value down from each to its children; `subtree` and
  `treeOf?` are made of it. Nothing is visited twice, so walks end on cycles too.
-/

namespace Playfield

/-- Links from uids to parents. -/
structure Attachments where
  links : List (String × Option String)
  deriving DecidableEq, Repr

namespace Attachments

variable (g : Attachments)

/-- The uids, in order. -/
def uids : List String := g.links.map (·.1)

/-- The uid belongs to the list. -/
def isLive (uid : String) : Bool := g.links.any (·.1 == uid)

/-- The parent of a uid. -/
def parent? (uid : String) : Option String :=
  g.links.reverse.findSome? fun l => if l.1 = uid then l.2.filter g.isLive else none

/-- The uids attached to a uid, in order. -/
def children (uid : String) : List String :=
  if g.isLive uid then (g.links.filter (·.2 == some uid)).map (·.1) else []

/-- One of the two is the parent of the other. -/
def directlyAttached (a b : String) : Bool := g.parent? a == some b || g.parent? b == some a

/-- The uids without a parent, in order. -/
def roots : List String := g.uids.filter fun uid => (g.parent? uid).isNone

/-- Follows at most the given number of parents to an end of the chain. -/
def climb : Nat → String → Option String
  | n, uid =>
    match g.parent? uid, n with
    | none, _ => some uid
    | some _, 0 => none
    | some p, n + 1 => climb n p

/-- The end of the chain of parents; none if the chain loops. A chain that ends has fewer steps
than there are links. -/
def rootOf? (uid : String) : Option String := g.climb g.links.length uid

/-- Visits the uids of a stack depth first, each with a value that `down` hands to its children.
Only pending uids are visited, each once. -/
def walk {α : Type} (down : String → α → α) (pending : List String) :
    List (String × α) → List (String × α)
  | [] => []
  | (uid, a) :: rest =>
    if uid ∈ pending then
      (uid, a) :: walk down (pending.filter (· != uid))
        ((g.children uid).map (·, down uid a) ++ rest)
    else walk down pending rest
termination_by stack => (pending.length, stack.length)
decreasing_by
  · refine Prod.Lex.left _ _ ?_
    simpa using ‹uid ∈ pending›
  · exact Prod.Lex.right _ (by simp)

/-- A uid and all that is attached to it, depth first. -/
def subtree (uid : String) : List String :=
  (g.walk (fun _ _ => ()) (uid :: g.uids) [(uid, ())]).map (·.1)

/-- The members of the tree of a uid; a uid on a chain that loops stands alone. -/
def treeOf (uid : String) : List String :=
  match g.rootOf? uid with
  | some root => g.subtree root
  | none => [uid]

end Attachments

end Playfield
