import Playfield.Text.Hex

/-!
# Quoted text in TOML

Text stands between double quotes, where a backslash begins an escape, or between apostrophes, where
every character is itself. Three marks instead of one begin a text of several lines.

* `Quoted.step` takes one character; `run` takes them until the text is closed.
* `Quoted.scan?` reads a text of either length, `scanLine?` one of a single line.
* One or two marks may stand inside a text of several lines, also just before its end.
-/

namespace Playfield.Toml

/-- A reader of the start of a text. It gives what it read and the characters that follow. -/
abbrev Scan (α : Type) := List Char → Option (α × List Char)

/-- Blanks within a line. -/
def isBlank (c : Char) : Bool := c = ' ' || c = '\t'

/-- Characters that may stand in texts and comments. -/
def isPlain (c : Char) : Bool := c = '\t' || (' ' ≤ c && c ≠ '\x7f')

/-- How a text is quoted. -/
structure Quoted where
  mark : Char
  /-- A backslash begins an escape. -/
  escapes : Bool
  severalLines : Bool
  deriving DecidableEq, Repr

namespace Quoted

/-- Where in a text the reader is. -/
inductive Mode where
  | plain
  /-- After some marks. -/
  | marks (n : Nat)
  /-- After a backslash. -/
  | escape
  /-- In an escape by code point, with some digits to come. -/
  | code (left value : Nat)
  /-- After a backslash and blanks that belong to the end of the line. -/
  | lineEnd
  /-- At the start of a line whose blanks are left out. -/
  | margin
  deriving DecidableEq, Repr

/-- The character of an escape by letter. -/
def escaped? : Char → Option Char
  | 'b' => some '\x08'
  | 't' => some '\t'
  | 'n' => some '\n'
  | 'f' => some '\x0c'
  | 'r' => some '\r'
  | '"' => some '"'
  | '\\' => some '\\'
  | _ => none

/-- The character of a code point. -/
def charOf? (n : Nat) : Option Char := if n.isValidChar then some (Char.ofNat n) else none

/-- Takes a character that is no mark. The text so far is kept in reverse. -/
def take (q : Quoted) (acc : List Char) (c : Char) : Option (Mode × List Char) :=
  if q.escapes && c = '\\' then some (.escape, acc)
  else if q.severalLines && c = '\n' || isPlain c then some (.plain, c :: acc)
  else none

/-- Takes a character. -/
def step (q : Quoted) (mode : Mode) (acc : List Char) (c : Char) : Option (Mode × List Char) :=
  match mode with
  | .plain => if c = q.mark then some (.marks 1, acc) else q.take acc c
  | .marks n =>
    if c = q.mark then some (.marks (n + 1), acc) else q.take (List.replicate n q.mark ++ acc) c
  | .escape =>
    match c with
    | 'u' => some (.code 4 0, acc)
    | 'U' => some (.code 8 0, acc)
    | '\n' => if q.severalLines then some (.margin, acc) else none
    | c =>
      if q.severalLines && isBlank c then some (.lineEnd, acc)
      else (escaped? c).map (.plain, · :: acc)
  | .code left value => do
    let value := value * 16 + (← Text.hexValue? c)
    if left ≤ 1 then (charOf? value).map (.plain, · :: acc) else some (.code (left - 1) value, acc)
  | .lineEnd =>
    if isBlank c then some (.lineEnd, acc) else if c = '\n' then some (.margin, acc) else none
  | .margin =>
    if isBlank c || c = '\n' then some (.margin, acc)
    else if c = q.mark then some (.marks 1, acc)
    else q.take acc c

/-- The text that is closed before the next character, if it is. -/
def closed? (q : Quoted) (mode : Mode) (acc : List Char) (next : Option Char) :
    Option (Option String) :=
  match mode with
  | .marks n =>
    if !q.severalLines then some (some (String.ofList acc.reverse))
    else if n ≥ 3 ∧ next ≠ some q.mark then
      some (if n ≤ 5 then some (String.ofList (List.replicate (n - 3) q.mark ++ acc).reverse)
        else none)
    else none
  | _ => none

/-- Takes characters until the text is closed. -/
def run (q : Quoted) (mode : Mode) (acc : List Char) : Scan String
  | [] => (q.closed? mode acc none).join.map (·, [])
  | c :: rest =>
    match q.closed? mode acc (some c) with
    | some content => content.map (·, c :: rest)
    | none => do
      let (mode, acc) ← q.step mode acc c
      run q mode acc rest

/-- The quoting in a single line that a mark begins. -/
def ofMark? : Char → Option Quoted
  | '"' => some ⟨'"', true, false⟩
  | '\'' => some ⟨'\'', false, false⟩
  | _ => none

/-- Reads a text within a line. -/
def scanLine? : Scan String
  | [] => none
  | c :: rest => do
    let q ← ofMark? c
    q.run .plain [] rest

/-- Reads a text. A line break right after three marks is left out. -/
def scan? : Scan String
  | a :: b :: c :: rest =>
    if a = b ∧ b = c then do
      let q ← ofMark? a
      { q with severalLines := true }.run .plain [] (match rest with
        | '\n' :: rest => rest
        | rest => rest)
    else scanLine? (a :: b :: c :: rest)
  | cs => scanLine? cs

end Quoted

end Playfield.Toml
