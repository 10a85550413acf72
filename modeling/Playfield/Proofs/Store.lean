import Mathlib
import Playfield.Store

/-!
# The contract of the store

What a store replies to a call is told by the calls that came before, whoever made them.

* `eventsOf_write`, `append_eq`: a new event gets the number after the last one of its session, the
  key of which is free, and comes last in the session.
* `StoreCall` has the calls as data. A store carries them out one at a time (`Store.answer`,
  `Store.serve`).
* `Tells`: what a store holds is what the calls so far ask for. `Tells.answer`: the next call gets
  the reply that is due to it, and the store holds what they all ask for.
* `contract` is the result: numbers without gaps, events as they were given, seeds given away once.
-/

namespace Playfield

variable {K : Type}

namespace EventRow

variable {rows : List (EventRow K)} {session : String}

/-- Rows that are in order stay as they are. -/
theorem bySeq_eq_self (sorted : rows.Pairwise fun r r' => r.seq < r'.seq) : bySeq rows = rows := by
  induction rows with
  | nil => rfl
  | cons r rest ih =>
    obtain ⟨before, sorted⟩ := List.pairwise_cons.1 sorted
    rw [bySeq, List.foldr_cons, ← bySeq, ih sorted]
    cases rest with
    | nil => rfl
    | cons x rest => exact if_pos (Int.le_of_lt (before x List.mem_cons_self))

/-- The rows of a session were written in the order of their numbers. -/
theorem pairwise_ofSession (numbered : Numbered rows) (session : String) :
    (ofSession rows session).Pairwise fun r r' => r.seq < r'.seq := by
  have sorted : ((ofSession rows session).map (·.seq)).Pairwise (· < ·) := by
    rw [numbered session, List.pairwise_map]
    refine List.pairwise_lt_range.imp fun lt => ?_
    omega
  exact List.pairwise_map.1 sorted

end EventRow

namespace Store

variable {s : Store K} {session other seed type : String} {payload metadata : Json K}
  {tick : Option Nat}

theorem eventsOf_eq (s : Store K) (session : String) :
    s.eventsOf session = (EventRow.ofSession s.events session).map (·.event) := by
  rw [eventsOf, EventRow.bySeq_eq_self (EventRow.pairwise_ofSession s.numbered session)]

theorem nextSeq_eq (s : Store K) (session : String) :
    s.nextSeq session = (s.eventsOf session).length + 1 := by
  rw [nextSeq, EventRow.lastSeq_eq s.numbered, eventsOf_eq, List.length_map]

/-- A written event is the last one of its session. -/
theorem eventsOf_write : (s.write session type payload tick).eventsOf session =
    s.eventsOf session ++ [⟨session, (s.eventsOf session).length + 1, type, payload, tick⟩] := by
  rw [eventsOf_eq, write, EventRow.ofSession_concat, List.map_append, ← eventsOf_eq,
    List.map_singleton, EventRow.event, nextSeq_eq, ← Int.natCast_succ, Word.unsigned_natCast]
  cases tick with
  | none => rfl
  | some t => rw [Option.map_some, Option.map_some, Word.unsigned_signed]

theorem eventsOf_write_of_ne (ne : other ≠ session) :
    (s.write session type payload tick).eventsOf other = s.eventsOf other := by
  rw [eventsOf_eq, eventsOf_eq, write, EventRow.ofSession_concat_of_ne ne]

/-- The number of a new event is greater than those that there are. -/
theorem key_free (s : Store K) (session : String) :
    (s.events.any fun r => r.session == session && r.seq == s.nextSeq session) = false := by
  rw [List.any_eq_false]
  intro r mem taken
  rw [Bool.and_eq_true, beq_iff_eq] at taken
  obtain ⟨rfl, same⟩ := taken
  have seqs : r.seq ∈ (EventRow.ofSession s.events r.session).map (·.seq) :=
    List.mem_map_of_mem (List.mem_filter.2 ⟨mem, beq_self_eq_true _⟩)
  rw [s.numbered r.session] at seqs
  obtain ⟨n, below, eq⟩ := List.mem_map.1 seqs
  have := List.mem_range.1 below
  rw [beq_iff_eq, nextSeq, EventRow.lastSeq_eq s.numbered] at same
  omega

/-- A store that takes events of a type writes them, and counts them from one. -/
theorem append_eq (s : Store K) (session type : String) (payload : Json K) (tick : Option Nat) :
    s.append session type payload tick =
      if s.refuses type then .error outage
      else .ok ((s.eventsOf session).length + 1, s.write session type payload tick) := by
  rw [append]
  simp only [key_free, Bool.false_eq_true, if_false]
  rw [nextSeq_eq, ← Int.natCast_succ, Word.unsigned_natCast]

end Store

/-! ### Histories -/

/-- A call to a store. -/
inductive StoreCall (K : Type) where
  | reserve (session seed : String) (metadata : Json K)
  | has (seed : String)
  | append (session type : String) (payload : Json K) (tick : Option Nat)
  | events (session : String)

/-- The reply to a call. -/
inductive StoreReply (K : Type) where
  | reserved (result : Except StoreError Unit)
  | found (result : Except StoreError Bool)
  | appended (result : Except StoreError Nat)
  | listed (events : List (StoredEvent K))

namespace StoreCall

/-- The event that a call adds to a session, up to its number. -/
def event? (session : String) : StoreCall K → Option (Nat → StoredEvent K)
  | append own type payload tick =>
    if own = session then some fun seq => ⟨own, seq, type, payload, tick⟩ else none
  | _ => none

/-- The reservation of a seed that a call asks for. -/
def claim? (seed : String) : StoreCall K → Option (Reservation K)
  | reserve session own metadata => if own = seed then some ⟨own, session, metadata⟩ else none
  | _ => none

/-- The events that calls add to a session, numbered from one. -/
def journal (session : String) (calls : List (StoreCall K)) : List (StoredEvent K) :=
  (calls.filterMap (event? session)).mapIdx fun i event => event (i + 1)

/-- The reservations of a seed that calls ask for. -/
def claims (seed : String) (calls : List (StoreCall K)) : List (Reservation K) :=
  calls.filterMap (claim? seed)

/-- How the attempts to reserve a seed end: the first one succeeds, and no other. -/
def outcomes (seed : String) : List (Reservation K) → List (Except StoreError Unit)
  | [] => []
  | _ :: later => .ok () :: List.replicate later.length (.error (.duplicateSeed seed))

variable {session seed : String} {calls : List (StoreCall K)} {c : StoreCall K}

theorem journal_concat : journal session (calls ++ [c]) =
    journal session calls ++
      ((c.event? session).map fun event => event ((journal session calls).length + 1)).toList := by
  rw [journal, List.filterMap_append]
  cases h : c.event? session with
  | none => simp [h, journal]
  | some event => simp [h, journal, List.mapIdx_append]

theorem claims_concat :
    claims seed (calls ++ [c]) = claims seed calls ++ (c.claim? seed).toList := by
  rw [claims, List.filterMap_append]
  cases h : c.claim? seed <;> simp [h, claims]

theorem journal_idle (noEvent : c.event? session = none) :
    journal session (calls ++ [c]) = journal session calls := by
  rw [journal_concat, noEvent]
  exact List.append_nil _

theorem claims_idle (noClaim : c.claim? seed = none) :
    claims seed (calls ++ [c]) = claims seed calls := by
  rw [claims_concat, noClaim]
  exact List.append_nil _

end StoreCall

namespace StoreReply

/-- The number that a new event of a session got. -/
def number? (session : String) : StoreCall K × StoreReply K → Option (Except StoreError Nat)
  | (.append own .., appended result) => if own = session then some result else none
  | _ => none

/-- How an attempt to reserve a seed ended. -/
def attempt? (seed : String) : StoreCall K × StoreReply K → Option (Except StoreError Unit)
  | (.reserve _ own _, reserved result) => if own = seed then some result else none
  | _ => none

end StoreReply

namespace Store

open StoreCall StoreReply

/-- Carries out a call. -/
def answer (s : Store K) : StoreCall K → StoreReply K × Store K
  | .reserve session seed metadata =>
    match s.reserve session seed metadata with
    | .ok s' => (.reserved (.ok ()), s')
    | .error e => (.reserved (.error e), s)
  | .has seed => (.found (s.isReserved seed), s)
  | .append session type payload tick =>
    match s.append session type payload tick with
    | .ok (seq, s') => (.appended (.ok seq), s')
    | .error e => (.appended (.error e), s)
  | .events session => (.listed (s.eventsOf session), s)

/-- Carries out calls one after the other, each with its reply. -/
def serve (s : Store K) : List (StoreCall K) → List (StoreCall K × StoreReply K) × Store K
  | [] => ([], s)
  | c :: rest =>
    let reply := s.answer c
    let later := reply.2.serve rest
    ((c, reply.1) :: later.1, later.2)

theorem serve_concat (s : Store K) (calls : List (StoreCall K)) (c : StoreCall K) :
    s.serve (calls ++ [c]) =
      ((s.serve calls).1 ++ [(c, ((s.serve calls).2.answer c).1)],
        ((s.serve calls).2.answer c).2) := by
  induction calls generalizing s with
  | nil => rfl
  | cons c' rest ih => simp only [List.cons_append, serve, ih]

/-- What a store holds is told by the calls that it has carried out. -/
structure Tells (past : List (StoreCall K)) (s : Store K) : Prop where
  sound : s.fault = none
  events : ∀ session, s.eventsOf session = journal session past
  reservations : ∀ seed, s.reservations.filter (·.seed == seed) = (claims seed past).take 1

/-- The reply that is due to a call after others. -/
def due (past : List (StoreCall K)) : StoreCall K → StoreReply K
  | .reserve _ seed _ =>
    .reserved (if (claims seed past).isEmpty then .ok () else .error (.duplicateSeed seed))
  | .has seed => .found (.ok !(claims seed past).isEmpty)
  | .append session .. => .appended (.ok ((journal session past).length + 1))
  | .events session => .listed (journal session past)

variable {past calls : List (StoreCall K)} {c : StoreCall K}

theorem Tells.holds (tells : Tells past s) (seed : String) :
    s.holds seed = !(claims seed past).isEmpty := by
  have any : s.holds seed = !(s.reservations.filter (·.seed == seed)).isEmpty := by
    rw [Store.holds, Bool.eq_iff_iff]
    simp
  rw [any, tells.reservations]
  cases claims seed past <;> rfl

theorem Tells.reserve (tells : Tells past s) (session seed : String) (metadata : Json K) :
    s.reserve session seed metadata = if (claims seed past).isEmpty
      then .ok { s with reservations := s.reservations ++ [⟨seed, session, metadata⟩] }
      else .error (.duplicateSeed seed) := by
  rw [Store.reserve, tells.sound, tells.holds]
  cases (claims seed past).isEmpty <;> rfl

/-- A call that asks for nothing to be kept leaves a store as it is told. -/
theorem Tells.concat_idle (tells : Tells past s) (noEvent : ∀ session, c.event? session = none)
    (noClaim : ∀ seed, c.claim? seed = none) : Tells (past ++ [c]) s where
  sound := tells.sound
  events session := (tells.events session).trans (journal_idle (noEvent session)).symm
  reservations seed := by rw [claims_idle (noClaim seed), tells.reservations]

/-- A store that is told by calls replies to one more as is due, and is told by it as well. -/
theorem Tells.answer (tells : Tells past s) (c : StoreCall K) :
    (s.answer c).1 = due past c ∧ Tells (past ++ [c]) (s.answer c).2 := by
  cases c with
  | reserve session seed metadata =>
    rw [Store.answer, tells.reserve, due]
    have events (own : String) :
        s.eventsOf own = journal own (past ++ [.reserve session seed metadata]) :=
      (tells.events own).trans (journal_idle rfl).symm
    cases given : claims seed past with
    | nil =>
      refine ⟨rfl, tells.sound, events, fun other => ?_⟩
      show List.filter _ (s.reservations ++ _) = _
      rw [List.filter_append, tells.reservations, claims_concat]
      by_cases same : seed = other
      · subst same
        simp [given, claim?]
      · simp [same, claim?]
    | cons first later =>
      refine ⟨rfl, tells.sound, events, fun other => ?_⟩
      show s.reservations.filter _ = _
      rw [tells.reservations, claims_concat]
      by_cases same : seed = other
      · -- The first attempt stays the first.
        subst same
        simp [given]
      · simp [same, claim?]
  | has seed =>
    refine ⟨?_, tells.concat_idle (fun _ => rfl) fun _ => rfl⟩
    rw [Store.answer, isReserved, tells.sound, due]
    exact congrArg (fun b => StoreReply.found (.ok b)) (tells.holds seed)
  | append session type payload tick =>
    have takes : s.refuses type = false := by rw [refuses, tells.sound]
    rw [Store.answer, append_eq, takes, due]
    refine ⟨by rw [← tells.events]; rfl, tells.sound, fun own => ?_, fun seed => ?_⟩
    · show (s.write session type payload tick).eventsOf own = _
      rw [journal_concat]
      by_cases same : session = own
      · subst same
        rw [eventsOf_write, tells.events]
        simp [event?]
      · rw [eventsOf_write_of_ne (Ne.symm same), tells.events]
        simp [event?, same]
    · rw [claims_idle rfl]
      exact tells.reservations seed
  | events session =>
    refine ⟨?_, tells.concat_idle (fun _ => rfl) fun _ => rfl⟩
    rw [Store.answer, tells.events, due]

theorem tells_serve (calls : List (StoreCall K)) : Tells calls (({} : Store K).serve calls).2 := by
  induction calls using List.reverseRecOn with
  | nil => exact ⟨rfl, fun _ => rfl, fun _ => rfl⟩
  | append_singleton past c ih =>
    rw [serve_concat]
    exact (ih.answer c).2

/-- What a store replied at last. -/
theorem serve_concat_due (past : List (StoreCall K)) (c : StoreCall K) :
    (({} : Store K).serve (past ++ [c])).1 =
      (({} : Store K).serve past).1 ++ [(c, due past c)] := by
  rw [serve_concat, ((tells_serve past).answer c).1]

/-- The events of a session get the numbers one, two, three and so on. -/
theorem numbers_serve (calls : List (StoreCall K)) (session : String) :
    (({} : Store K).serve calls).1.filterMap (number? session) =
      (List.range' 1 (journal session calls).length).map .ok := by
  induction calls using List.reverseRecOn with
  | nil => rfl
  | append_singleton past c ih =>
    rw [serve_concat_due, List.filterMap_append, ih, journal_concat]
    cases c with
    | append own type payload tick =>
      by_cases same : own = session
      · subst same
        rw [List.length_append, event?, if_pos rfl, Option.map_some, Option.toList_some,
          List.length_singleton, List.range'_concat, List.map_append]
        simp [number?, due, Nat.add_comm]
      · simp [number?, due, event?, same]
    | _ => simp [number?, event?]

theorem attempts_serve (calls : List (StoreCall K)) (seed : String) :
    (({} : Store K).serve calls).1.filterMap (attempt? seed) =
      outcomes seed (claims seed calls) := by
  induction calls using List.reverseRecOn with
  | nil => rfl
  | append_singleton past c ih =>
    rw [serve_concat_due, List.filterMap_append, ih, claims_concat]
    cases c with
    | reserve session own metadata =>
      by_cases same : own = seed
      · subst same
        cases given : claims own past with
        | nil => simp [attempt?, due, claim?, given, outcomes]
        | cons first later =>
          simp [attempt?, due, claim?, given, outcomes, List.replicate_succ']
      · simp [attempt?, due, claim?, same]
    | _ => simp [attempt?, claim?]

/-- A new store, after any calls. The events of a session have got the numbers one, two, three and
so on, and are listed as they were given, in this order. Of the attempts to reserve a seed the first
one has succeeded and no other; its reservation is the only one of the seed, and the seed counts as
reserved just if there was one. -/
theorem contract (calls : List (StoreCall K)) :
    let replies := (({} : Store K).serve calls).1
    let s := (({} : Store K).serve calls).2
    (∀ session,
      replies.filterMap (number? session) =
        (List.range' 1 (journal session calls).length).map .ok ∧
      s.answer (.events session) = (.listed (journal session calls), s)) ∧
    ∀ seed,
      replies.filterMap (attempt? seed) = outcomes seed (claims seed calls) ∧
      s.reservations.filter (·.seed == seed) = (claims seed calls).take 1 ∧
      ∃ given, s.answer (.has seed) = (.found (.ok given), s) ∧
        (given = true ↔ .ok () ∈ replies.filterMap (attempt? seed)) := by
  intro replies s
  have tells := tells_serve calls
  refine ⟨fun session => ⟨numbers_serve calls session, ?_⟩, fun seed =>
    ⟨attempts_serve calls seed, tells.reservations seed, _,
      Prod.ext (tells.answer (.has seed)).1 rfl, ?_⟩⟩
  · exact Prod.ext (tells.answer (.events session)).1 rfl
  · rw [attempts_serve]
    cases claims seed calls <;> simp [outcomes]

example : (({} : Store Rat).serve [.append "a" "created" .null none,
    .append "b" "created" .null none, .append "a" "tick" .null (some 1)]).1.filterMap
      (number? "a") = [.ok 1, .ok 2] := by cbv

end Store

end Playfield
