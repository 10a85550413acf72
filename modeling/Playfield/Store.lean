import Playfield.Input
import Playfield.Word

/-!
# The store

The durable record of all sessions: which seeds are reserved, and for each session its events in
order, numbered from one. It is kept in two tables, whose rows have a key each: the seed of a
reservation, the session and the number of an event.

* `reserve` gives a seed away once; `isReserved` asks for it.
* `append` looks for the greatest number of a session, writes a row with the next one and gives this
  number; `eventsOf` reads the rows of a session in the order of their numbers.
* `EventRow.Numbered`: each session counts its rows from one. `numbered_concat`: so it does with a
  row more.

A store may be out of order in one of the ways of `StoreFault`; the operations concerned then fail
and change nothing.
-/

namespace Playfield

/-- Why the store refuses. -/
inductive StoreError where
  | duplicateSeed (seed : String)
  | unavailable (cause : String)
  deriving DecidableEq, Repr

/-- The wording of a store error. -/
def StoreError.message : StoreError → String
  | duplicateSeed seed => s!"Seed '{seed}' is already reserved"
  | unavailable cause => s!"Store error: {cause}"

/-- How a store may be out of order. -/
inductive StoreFault where
  /-- Every seed counts as reserved. -/
  | allReserved
  /-- Another process is always faster. -/
  | lostRace
  | noLookup
  | noReserve
  /-- Events of a type, or all, are not taken. -/
  | noAppend (type : Option String)
  deriving DecidableEq, Repr

/-- A seed that is given away. -/
structure Reservation (K : Type) where
  seed : String
  session : String
  metadata : Json K

/-- An event of a session. -/
structure StoredEvent (K : Type) where
  session : String
  /-- The number within the session, from one on. -/
  seq : Nat
  type : String
  payload : Json K
  tick : Option Nat

/-- A row of the table of events. Its integers are signed words. -/
structure EventRow (K : Type) where
  session : String
  seq : Int
  type : String
  payload : Json K
  tick : Option Int

namespace EventRow

variable {K : Type}

/-- The event of a row. -/
def event (r : EventRow K) : StoredEvent K :=
  ⟨r.session, Word.unsigned r.seq, r.type, r.payload, r.tick.map Word.unsigned⟩

/-- The rows of a session. -/
def ofSession (rows : List (EventRow K)) (session : String) : List (EventRow K) :=
  rows.filter (·.session == session)

/-- The greatest number of the rows of a session, or zero. -/
def lastSeq (rows : List (EventRow K)) (session : String) : Int :=
  (((ofSession rows session).map (·.seq)).max?).getD 0

/-- Puts a row in front of those with greater numbers. -/
def insert (r : EventRow K) : List (EventRow K) → List (EventRow K)
  | [] => [r]
  | x :: rest => if r.seq ≤ x.seq then r :: x :: rest else x :: insert r rest

/-- The rows in the order of their numbers. -/
def bySeq (rows : List (EventRow K)) : List (EventRow K) := rows.foldr insert []

/-- Each session counts its rows from one, in the order in which they were written. -/
def Numbered (rows : List (EventRow K)) : Prop :=
  ∀ session, (ofSession rows session).map (·.seq) =
    (List.range (ofSession rows session).length).map fun (n : Nat) => (n : Int) + 1

theorem numbered_nil : Numbered ([] : List (EventRow K)) := fun _ => rfl

theorem max?_range (n : Nat) :
    (((List.range n).map fun (i : Nat) => (i : Int) + 1).max?).getD 0 = n := by
  cases n with
  | zero => rfl
  | succ n =>
    have greatest : ((List.range (n + 1)).map fun (i : Nat) => (i : Int) + 1).max? =
        some ((n : Int) + 1) := by
      rw [List.max?_eq_some_iff]
      refine ⟨List.mem_map.2 ⟨n, List.mem_range.2 (Nat.lt_succ_self n), rfl⟩, fun i mem => ?_⟩
      obtain ⟨j, below, rfl⟩ := List.mem_map.1 mem
      have := List.mem_range.1 below
      omega
    rw [greatest]
    rfl

variable {rows : List (EventRow K)} {r : EventRow K} {session : String}

/-- The last number of a session is the number of its rows. -/
theorem lastSeq_eq (numbered : Numbered rows) (session : String) :
    lastSeq rows session = (ofSession rows session).length := by
  rw [lastSeq, numbered session, max?_range]

theorem ofSession_concat : ofSession (rows ++ [r]) r.session = ofSession rows r.session ++ [r] := by
  simp [ofSession]

theorem ofSession_concat_of_ne (ne : session ≠ r.session) :
    ofSession (rows ++ [r]) session = ofSession rows session := by
  simp [ofSession, ne.symm]

/-- With the next row of a session, all sessions still count their rows from one. -/
theorem numbered_concat (numbered : Numbered rows) (next : r.seq = lastSeq rows r.session + 1) :
    Numbered (rows ++ [r]) := by
  intro session
  by_cases own : session = r.session
  · subst own
    rw [lastSeq_eq numbered] at next
    rw [ofSession_concat, List.length_append, List.length_singleton, List.range_succ,
      List.map_append, List.map_append, numbered r.session, List.map_singleton, List.map_singleton,
      next]
  · rw [ofSession_concat_of_ne own]
    exact numbered session

end EventRow

/-- The durable record of all sessions. -/
structure Store (K : Type) where
  reservations : List (Reservation K) := []
  events : List (EventRow K) := []
  fault : Option StoreFault := none
  numbered : EventRow.Numbered events := by exact EventRow.numbered_nil

namespace Store

variable {K : Type}

/-- What a store says when it is out of order. -/
def outage : StoreError := .unavailable "store down: disk gone"

/-- The seed is given away. -/
def holds (s : Store K) (seed : String) : Bool := s.reservations.any (·.seed == seed)

/-- Asks whether a seed is given away. -/
def isReserved (s : Store K) (seed : String) : Except StoreError Bool :=
  match s.fault with
  | some .allReserved => .ok true
  | some .noLookup => .error outage
  | _ => .ok (s.holds seed)

/-- Gives a seed away. -/
def reserve (s : Store K) (session seed : String) (metadata : Json K) :
    Except StoreError (Store K) :=
  match s.fault with
  | some .lostRace => .error (.duplicateSeed "raced")
  | some .noReserve => .error outage
  | _ =>
    if s.holds seed then .error (.duplicateSeed seed)
    else .ok { s with reservations := s.reservations ++ [⟨seed, session, metadata⟩] }

/-- The events of a session, in order. -/
def eventsOf (s : Store K) (session : String) : List (StoredEvent K) :=
  (EventRow.bySeq (EventRow.ofSession s.events session)).map (·.event)

/-- Events of a type are not taken. -/
def refuses (s : Store K) (type : String) : Bool :=
  match s.fault with
  | some (.noAppend refused) => refused.all (· == type)
  | _ => false

/-- The number of the next event of a session. -/
def nextSeq (s : Store K) (session : String) : Int := EventRow.lastSeq s.events session + 1

/-- What a store says to a row whose key is there already. -/
def keyTaken : StoreError :=
  .unavailable "Failed to append event: UNIQUE constraint failed: events.session_id, events.seq"

/-- The row with the next number of its session is written. -/
def write (s : Store K) (session type : String) (payload : Json K) (tick : Option Nat) : Store K :=
  { s with
    events := s.events ++ [⟨session, s.nextSeq session, type, payload, tick.map Word.signed⟩]
    numbered := EventRow.numbered_concat s.numbered rfl }

/-- Adds an event and gives its number. -/
def append (s : Store K) (session type : String) (payload : Json K) (tick : Option Nat) :
    Except StoreError (Nat × Store K) :=
  if s.refuses type then .error outage
  else
    let seq := s.nextSeq session
    if s.events.any fun r => r.session == session && r.seq == seq then .error keyTaken
    else .ok (Word.unsigned seq, s.write session type payload tick)

end Store

namespace StoredEvent

variable {K : Type}

def toJson (e : StoredEvent K) : Json K :=
  .obj [("session_id", .str e.session), ("seq", .nat e.seq), ("event_type", .str e.type),
    ("payload", e.payload), ("tick", .option .nat e.tick)]

end StoredEvent

end Playfield
