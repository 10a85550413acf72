import Playfield.Json.Reader
import Playfield.Lobby.Limits

/-!
# Reading new limits

`Limits.Update.read` takes a JSON text for new limits: an object with some of them, or an array with
all three. It goes through the text token by token and stops where the value ends, so that nothing
is said about what follows.

* The first fault counts. A text is `malformed` if it is no JSON up to there, and `unfit` if it
  could be but says something else than limits.
* Members of other names are passed over by `Json.Machine`. A limit may be null, but not repeated.
-/

namespace Playfield.Limits.Update

/-- Why a text cannot be taken for new limits. -/
inductive ReadError where
  | malformed | unfit
  deriving DecidableEq, Repr

/-- What a reader of new limits has before it. -/
inductive Place where
  | start
  /-- A member, or the end if there are none so far. -/
  | member (first : Bool)
  | colon (name : String)
  | value (name : String)
  /-- Inside a value that is passed over. -/
  | inside (m : Json.Machine)
  | afterMember
  /-- An item, or the end if there are none so far. -/
  | item (first : Bool)
  | afterItem
  | done

/-- A reader of new limits. -/
structure Reader where
  place : Place := .start
  /-- The limits that were found. -/
  found : List (String × Option Nat) := []

open Json (Token)

/-- A limit. -/
def limit : Token → Except ReadError (Option Nat)
  | .null => .ok none
  | .number (.int n) =>
    if 0 ≤ n ∧ n ≤ Word.greatestUnsigned then .ok (some n.toNat) else .error .unfit
  | .number .void | .text none _ => .error .malformed
  | .number _ | .text (some _) _ | .bool _ | .openArr | .openObj => .error .unfit
  | .closeArr | .closeObj | .comma | .colon => .error .malformed

namespace Reader

/-- Takes the token that begins the text. -/
def begin : Token → Except ReadError Place
  | .openObj => .ok (.member true)
  | .openArr => .ok (.item true)
  | .number .void | .text none _ => .error .malformed
  | .number _ | .text (some _) _ | .bool _ | .null => .error .unfit
  | .closeArr | .closeObj | .comma | .colon => .error .malformed

/-- Goes on inside a value that is passed over. -/
def pass (m : Json.Machine) (t : Token) : Except ReadError Place :=
  match m.step t with
  | none => .error .malformed
  | some m => .ok (if m.result?.isSome then .afterMember else .inside m)

/-- Takes a limit and goes on elsewhere. -/
def take (r : Reader) (name : String) (t : Token) (next : Place) : Except ReadError Reader := do
  return ⟨next, r.found ++ [(name, ← limit t)]⟩

/-- Takes one token. -/
def step (r : Reader) (t : Token) : Except ReadError Reader :=
  let go (place : Place) : Except ReadError Reader := .ok { r with place }
  match r.place, t with
  | .start, t => begin t >>= go
  | .member _, .text (some name) _ =>
    if names.contains name ∧ (r.found.lookup name).isSome then .error .unfit else go (.colon name)
  | .member true, .closeObj => go .done
  | .colon name, .colon => go (.value name)
  | .value name, t =>
    if names.contains name then r.take name t .afterMember else pass {} t >>= go
  | .inside m, t => pass m t >>= go
  | .afterMember, .comma => go (.member false)
  | .afterMember, .closeObj => go .done
  | .item true, .closeArr => .error .unfit
  | .item _, t => r.take (names.getD r.found.length "") t .afterItem
  | .afterItem, .closeArr =>
    if r.found.length = names.length then go .done else .error .unfit
  | .afterItem, .comma =>
    if r.found.length = names.length then .error .malformed else go (.item false)
  | .done, _ => .ok r
  | _, _ => .error .malformed

/-- The new limits, when the value has ended. -/
def result (r : Reader) : Except ReadError Update :=
  let newLimit (name : String) := (r.found.lookup name).join
  match r.place with
  | .done =>
    .ok {
      maxSessions := newLimit "max_sessions"
      maxCommands := newLimit "max_commands_per_request"
      maxQueue := newLimit "max_queue_per_role" }
  | _ => .error .malformed

end Reader

/-- Reads new limits. -/
def read (text : String) : Except ReadError Update :=
  (Json.scan text.toList #[]).1.foldlM Reader.step {} >>= Reader.result

end Playfield.Limits.Update
