import Playfield.Json.Numeral
import Playfield.Text.Hex

/-!
# Reading JSON

`Json.read? text` is the draft of a JSON text, or `none` where the text has not the form of one.

* `scan` cuts the text into tokens, leaving out blanks.
* `Machine.step` takes one token at a time, with a stack of the arrays and objects that are open;
  the text is well-formed when the machine ends `done`.

The form is strict: no blanks inside tokens, no leading zeros, no trailing commas, nothing after the
value. At most `maxDepth` arrays and objects are nested; a deeper one is void, as are numbers past
the greatest float and strings with a lone surrogate.
-/

namespace Playfield.Json

/-- A token of a JSON text. -/
inductive Token where
  | openArr | closeArr | openObj | closeObj | comma | colon
  | null
  | bool (b : Bool)
  | number (d : Draft Float)
  /-- A string literal: its text unless it is void, and whether it was written without escapes. -/
  | text (s : Option String) (verbatim : Bool)
  deriving Inhabited

/-- The value of four hexadecimal digits. -/
def hexValue4? (a b c d : Char) : Option Nat := do
  let high := (← Text.hexValue? a) * 16 + (← Text.hexValue? b)
  let low := (← Text.hexValue? c) * 16 + (← Text.hexValue? d)
  return high * 256 + low

/-- The character of a one-letter escape. -/
def unescape? : Char → Option Char
  | '"' => some '"'
  | '\\' => some '\\'
  | '/' => some '/'
  | 'b' => some '\x08'
  | 'f' => some '\x0c'
  | 'n' => some '\n'
  | 'r' => some '\r'
  | 't' => some '\t'
  | _ => none

/-- A string literal as far as it is read. -/
structure Literal where
  /-- The characters so far, last first. -/
  read : List Char := []
  /-- A high surrogate that waits for its low one. -/
  high : Option Nat := none
  void : Bool := false
  verbatim : Bool := true

namespace Literal

/-- Adds a character. -/
def push (l : Literal) (c : Char) : Literal :=
  { l with read := c :: l.read, high := none, void := l.void || l.high.isSome }

/-- Adds a character that was written as a one-letter escape. -/
def pushEscaped (l : Literal) (c : Char) : Literal := { l.push c with verbatim := false }

/-- Adds a UTF-16 unit that was written as an escape. -/
def pushUnit (l : Literal) (u : Nat) : Literal :=
  let l := { l with verbatim := false }
  match l.high with
  | some h =>
    if 0xDC00 ≤ u ∧ u < 0xE000 then
      { l with
        read := Char.ofNat (0x10000 + (h - 0xD800) * 0x400 + (u - 0xDC00)) :: l.read, high := none }
    else { l with void := true, high := none }
  | none =>
    if 0xD800 ≤ u ∧ u < 0xDC00 then { l with high := some u }
    else if 0xDC00 ≤ u ∧ u < 0xE000 then { l with void := true }
    else l.push (Char.ofNat u)

/-- The token of a finished literal. -/
def token (l : Literal) : Token :=
  .text (if l.void || l.high.isSome then none else some (String.ofList l.read.reverse)) l.verbatim

end Literal

/-- Reads the rest of a string literal, after the opening quote. -/
def scanText (l : Literal) : List Char → Option (Token × List Char)
  | '"' :: rest => some (l.token, rest)
  | '\\' :: 'u' :: a :: b :: c :: d :: rest =>
    match hexValue4? a b c d with
    | some u => scanText (l.pushUnit u) rest
    | none => none
  | '\\' :: e :: rest =>
    match unescape? e with
    | some c => scanText (l.pushEscaped c) rest
    | none => none
  | c :: rest => if c.toNat < 32 ∨ c = '\\' then none else scanText (l.push c) rest
  | [] => none

theorem length_of_scanText {l : Literal} {cs rest : List Char} {t : Token}
    (h : scanText l cs = some (t, rest)) : rest.length < cs.length := by
  fun_induction scanText l cs with
  | case1 => simp_all
  | case2 l a b c d r u _ ih =>
    have := ih h
    simp only [List.length_cons]
    omega
  | case3 => simp at h
  | case4 l e r _ c _ ih =>
    have := ih h
    simp only [List.length_cons]
    omega
  | case5 => simp at h
  | case6 => simp at h
  | case7 l c r _ _ _ _ ih => exact Nat.lt_succ_of_lt (ih h)
  | case8 => simp at h

/-- Reads a number, after its sign. -/
def scanNumber (negative : Bool) (cs : List Char) : Option (Token × List Char) :=
  (Numeral.scan? cs).map fun (n, rest) => (.number (n.draft negative), rest)

/-- Reads one token; `none` for a blank. -/
def scanToken : List Char → Option (Option Token × List Char)
  | [] => none
  | ' ' :: rest | '\n' :: rest | '\r' :: rest | '\t' :: rest => some (none, rest)
  | '[' :: rest => some (some .openArr, rest)
  | ']' :: rest => some (some .closeArr, rest)
  | '\x7b' :: rest => some (some .openObj, rest)
  | '\x7d' :: rest => some (some .closeObj, rest)
  | ',' :: rest => some (some .comma, rest)
  | ':' :: rest => some (some .colon, rest)
  | 'n' :: 'u' :: 'l' :: 'l' :: rest => some (some .null, rest)
  | 't' :: 'r' :: 'u' :: 'e' :: rest => some (some (.bool true), rest)
  | 'f' :: 'a' :: 'l' :: 's' :: 'e' :: rest => some (some (.bool false), rest)
  | '"' :: rest => (scanText {} rest).map fun (t, rest) => (some t, rest)
  | '-' :: rest => (scanNumber true rest).map fun (t, rest) => (some t, rest)
  | rest => (scanNumber false rest).map fun (t, rest) => (some t, rest)

theorem length_of_scanNumber {negative : Bool} {cs rest : List Char} {t : Token}
    (h : scanNumber negative cs = some (t, rest)) : rest.length < cs.length := by
  obtain ⟨⟨n, r⟩, hn, hr⟩ := Option.map_eq_some_iff.1 h
  obtain ⟨-, rfl⟩ := Prod.mk.inj hr
  exact Numeral.length_of_scan hn

/-- Every token takes at least one character. -/
theorem length_of_scanToken {cs rest : List Char} {t : Option Token}
    (h : scanToken cs = some (t, rest)) : rest.length < cs.length := by
  unfold scanToken at h
  split at h
  case h_1 => simp at h
  case h_15 =>
    obtain ⟨⟨u, r⟩, hu, hr⟩ := Option.map_eq_some_iff.1 h
    obtain ⟨-, rfl⟩ := Prod.mk.inj hr
    exact Nat.lt_succ_of_lt (length_of_scanText hu)
  case h_16 =>
    obtain ⟨⟨u, r⟩, hu, hr⟩ := Option.map_eq_some_iff.1 h
    obtain ⟨-, rfl⟩ := Prod.mk.inj hr
    exact Nat.lt_succ_of_lt (length_of_scanNumber hu)
  case h_17 =>
    obtain ⟨⟨u, r⟩, hu, hr⟩ := Option.map_eq_some_iff.1 h
    obtain ⟨-, rfl⟩ := Prod.mk.inj hr
    exact length_of_scanNumber hu
  all_goals
    obtain ⟨-, rfl⟩ := Prod.mk.inj (Option.some.inj h)
    simp only [List.length_cons]
    omega

/-- Adds the tokens of a text to those found before. Also says whether it consists of tokens to its
end. -/
def scan (cs : List Char) (found : Array Token) : Array Token × Bool :=
  if cs.isEmpty then (found, true)
  else
    match _h : scanToken cs with
    | none => (found, false)
    | some (t, rest) => scan rest (t.elim found found.push)
termination_by cs.length
decreasing_by exact length_of_scanToken _h

/-- The greatest number of nested arrays and objects. -/
def maxDepth : Nat := 127

/-- An array or object that is still open, the latest part first. -/
inductive Frame where
  | arr (items : List (Draft Float))
  | obj (members : List (String × Draft Float)) (verbatim void : Bool)
  /-- An object with the name of the member whose value is due. -/
  | member (members : List (String × Draft Float)) (verbatim void : Bool) (name : String)

/-- What may come next. -/
inductive Due where
  | value
  /-- A value, or the end of an empty array. -/
  | valueOrEnd
  | name
  /-- A name, or the end of an empty object. -/
  | nameOrEnd
  | colon
  /-- A comma or the end of the innermost array or object. -/
  | commaOrEnd
  /-- Nothing: the value is complete. -/
  | done (value : Draft Float)

/-- The arrays and objects that are open, innermost first, and what is due. -/
structure Machine where
  stack : List Frame := []
  due : Due := .value

namespace Machine

/-- Takes a complete value. -/
def supply (m : Machine) (d : Draft Float) : Option Machine :=
  match m.stack with
  | [] => some ⟨[], .done d⟩
  | .arr items :: rest => some ⟨.arr (d :: items) :: rest, .commaOrEnd⟩
  | .member members verbatim void name :: rest =>
    some ⟨.obj ((name, d) :: members) verbatim void :: rest, .commaOrEnd⟩
  | .obj .. :: _ => none

/-- Closes the innermost array or object. It is void if it lies too deep, or if one of its names
is. -/
def close (m : Machine) : Option Machine :=
  let tooDeep := m.stack.length > maxDepth
  match m.stack with
  | .arr items :: rest =>
    { m with stack := rest }.supply (if tooDeep then .void else .arr items.reverse)
  | .obj members verbatim void :: rest =>
    { m with stack := rest }.supply
      (if tooDeep || void then .void else .obj verbatim members.reverse)
  | _ => none

/-- The innermost open frame is an array. -/
def inArray (m : Machine) : Bool :=
  match m.stack with
  | .arr _ :: _ => true
  | _ => false

/-- Begins a value with the given token. -/
def begin (m : Machine) : Token → Option Machine
  | .openArr => some ⟨.arr [] :: m.stack, .valueOrEnd⟩
  | .openObj => some ⟨.obj [] true false :: m.stack, .nameOrEnd⟩
  | .null => m.supply .null
  | .bool b => m.supply (.bool b)
  | .number d => m.supply d
  | .text s _ => m.supply (s.elim .void .str)
  | _ => none

/-- Takes the name of a member. -/
def named (m : Machine) (s : Option String) (plain : Bool) : Option Machine :=
  match m.stack with
  | .obj members verbatim void :: rest =>
    some ⟨.member members (verbatim && plain) (void || s.isNone) (s.getD "") :: rest, .colon⟩
  | _ => none

/-- Takes one token. -/
def step (m : Machine) (t : Token) : Option Machine :=
  match m.due, t with
  | .value, t => m.begin t
  | .valueOrEnd, .closeArr => m.close
  | .valueOrEnd, t => m.begin t
  | .name, .text s plain => m.named s plain
  | .nameOrEnd, .text s plain => m.named s plain
  | .nameOrEnd, .closeObj => m.close
  | .colon, .colon => some { m with due := .value }
  | .commaOrEnd, .comma => some { m with due := if m.inArray then .value else .name }
  | .commaOrEnd, .closeArr => if m.inArray then m.close else none
  | .commaOrEnd, .closeObj => if m.inArray then none else m.close
  | _, _ => none

/-- The value, when nothing more is due. -/
def result? (m : Machine) : Option (Draft Float) :=
  match m.due with
  | .done d => some d
  | _ => none

end Machine

/-- The draft of a JSON text. -/
def read? (text : String) : Option (Draft Float) :=
  let (tokens, whole) := scan text.toList #[]
  if whole then tokens.foldlM Machine.step {} >>= Machine.result? else none

/-- The value of a JSON text, in normal form. -/
def parse? (text : String) : Option (Json Float) := read? text >>= Draft.toJson?

end Playfield.Json
