import Playfield.Toml.Word

/-!
# Reading TOML

`Toml.read?` is the table that a document describes, or `none` where the text is no document.

* `scanKey?`, `scanValue?` and `scanStatement?` read the parts of a line; `Statement.apply` says
  what a line does to the document and to the table that is open.
* Line breaks are made uniform first.
* Keys have fewer than eighty parts, and arrays and inline tables are nested less than eighty deep.
-/

namespace Playfield.Toml

/-! ### Blanks and comments -/

/-- Leaves out blanks within the line. -/
def skipBlanks (cs : List Char) : List Char := cs.dropWhile isBlank

/-- Leaves out blanks, line breaks and comments. -/
def skipLines (comment : Bool) : List Char → Option (List Char)
  | [] => some []
  | c :: rest =>
    if comment then
      if c = '\n' then skipLines false rest else if isPlain c then skipLines true rest else none
    else if isBlank c ∨ c = '\n' then skipLines false rest
    else if c = '#' then skipLines true rest
    else some (c :: rest)

/-- Leaves out the rest of a comment. -/
def skipComment (cs : List Char) : List Char := cs.dropWhile isPlain

/-- Goes to the end of a line on which only a comment may follow. -/
def endLine? (cs : List Char) : Option (List Char) :=
  let rest := match skipBlanks cs with
    | '#' :: rest => skipComment rest
    | rest => rest
  match rest with
  | [] => some []
  | '\n' :: rest => some rest
  | _ => none

/-- Reads one character. -/
def expect? (mark : Char) : List Char → Option (List Char)
  | [] => none
  | c :: rest => if c = mark then some rest else none

/-! ### Keys -/

/-- Characters of keys without quotes. -/
def isKeyChar (c : Char) : Bool := c.isAlphanum || c = '_' || c = '-'

/-- Reads a part of a key, with the blanks around it. -/
def scanKeyPart? : Scan String := fun cs => do
  let cs := skipBlanks cs
  let (part, rest) ← match Quoted.scanLine? cs with
    | some found => some found
    | none =>
      let part := cs.takeWhile isKeyChar
      if part.isEmpty then none else some (String.ofList part, cs.dropWhile isKeyChar)
  return (part, skipBlanks rest)

/-- Reads the parts of a key, between which points stand. -/
def scanKeyParts? : Scan (List String) := fun cs =>
  match scanKeyPart? cs with
  | none => none
  | some (part, '.' :: rest) =>
    if rest.length < cs.length then (scanKeyParts? rest).map fun (parts, r) => (part :: parts, r)
    else none
  | some (part, rest) => some ([part], rest)
termination_by cs => cs.length

/-- The greatest number of parts of a key. -/
def maxKeyParts : Nat := 79

/-- The greatest depth of arrays and inline tables. -/
def maxDepth : Nat := 79

/-- Reads a key: the path to a table, and a key in it. -/
def scanKey? : Scan (List String × String) := fun cs => do
  let (parts, rest) ← scanKeyParts? cs
  if parts.length > maxKeyParts then none
  else return ((parts.dropLast, ← parts.getLast?), rest)

/-! ### Values -/

/-- Reads the items of an array up to its closing bracket. A comma may follow the last one. -/
def scanItems? (item : Scan Toml) (cs : List Char) : Option (List Toml × List Char) :=
  match skipLines false cs with
  | none => none
  | some (']' :: rest) => some ([], rest)
  | some start =>
    match item start with
    | none => none
    | some (v, after) =>
      match skipLines false after with
      | some (']' :: rest) => some ([v], rest)
      | some (',' :: rest) =>
        if rest.length < cs.length then (scanItems? item rest).map fun (vs, r) => (v :: vs, r)
        else none
      | _ => none
termination_by cs.length

/-- Reads a key with its value. -/
def scanPair? (item : Scan Toml) : Scan ((List String × String) × Toml) := fun cs => do
  let (key, rest) ← scanKey? cs
  let (v, rest) ← item (skipBlanks (← expect? '=' rest))
  return ((key, v), skipBlanks rest)

/-- Reads the entries of an inline table up to its closing brace, and adds them to a table. -/
def scanPairs? (item : Scan Toml) (e : Entries) (cs : List Char) :
    Option (Entries × List Char) :=
  match scanPair? item cs with
  | none => none
  | some (((path, key), v), after) =>
    match e.addValue path key v .inline with
    | none => none
    | some e =>
      match after with
      | '\x7d' :: rest => some (e, rest)
      | ',' :: rest => if rest.length < cs.length then scanPairs? item e rest else none
      | _ => none
termination_by cs.length

/-- Reads an inline table after its opening brace. -/
def scanInline? (item : Scan Toml) : Scan Toml := fun cs =>
  match skipBlanks cs with
  | '\x7d' :: rest => some (.table .inline [], rest)
  | cs => (scanPairs? item [] cs).map fun (e, rest) => (.table .inline e, rest)

/-- Reads a value without parts. -/
def scanSimple? : Scan Toml := fun cs =>
  match cs with
  | '"' :: _ | '\'' :: _ => (Quoted.scan? cs).map fun (s, rest) => (.text s, rest)
  | _ => scanWord? cs

/-- Reads a value in which arrays and inline tables are nested up to a depth. -/
def scanValue? : Nat → Scan Toml
  | 0 => scanSimple?
  | depth + 1 => fun cs =>
    match cs with
    | '[' :: rest => (scanItems? (scanValue? depth) rest).map fun (vs, rest) => (.array vs, rest)
    | '\x7b' :: rest => scanInline? (scanValue? depth) rest
    | _ => scanSimple? cs

/-! ### Documents -/

/-- What a line says. -/
inductive Statement where
  | entry (path : List String) (key : String) (v : Toml)
  | table (path : List String) (key : String)
  | element (path : List String) (key : String)

/-- Reads a header between its brackets. -/
def scanHeader? (closing : List Char) : Scan (List String × String) := fun cs => do
  let (key, rest) ← scanKey? cs
  let rest ← closing.foldlM (fun cs mark => expect? mark cs) rest
  return (key, rest)

/-- Reads a line. -/
def scanStatement? : Scan Statement := fun cs => do
  let (statement, rest) ← match cs with
    | '[' :: '[' :: rest => (scanHeader? [']', ']'] rest).map fun (key, rest) =>
      (Statement.element key.1 key.2, rest)
    | '[' :: rest => (scanHeader? [']'] rest).map fun (key, rest) =>
      (Statement.table key.1 key.2, rest)
    | _ => (scanPair? (scanValue? maxDepth) cs).map fun (entry, rest) =>
      (Statement.entry entry.1.1 entry.1.2 entry.2, rest)
  return (statement, ← endLine? rest)

/-- A document, and the path of the table that is open. -/
structure Draft where
  entries : Entries := []
  current : List String := []

/-- What a line does to a document. -/
def Statement.apply (d : Draft) : Statement → Option Draft
  | entry path key v => do return { d with entries := ← d.entries.addEntry d.current path key v }
  | table path key => do return ⟨← d.entries.addTable path key, path ++ [key]⟩
  | element path key => do return ⟨← d.entries.addElement path key, path ++ [key]⟩

/-- Reads lines to the end of the document. -/
def readLines? (d : Draft) (cs : List Char) : Option Draft :=
  match skipLines false cs with
  | none => none
  | some [] => some d
  | some start =>
    match scanStatement? start with
    | none => none
    | some (statement, rest) =>
      match statement.apply d with
      | none => none
      | some d => if rest.length < cs.length then readLines? d rest else none
termination_by cs.length

/-- The characters of a document: without a mark of byte order, with uniform line breaks. -/
def normalLines : List Char → List Char
  | [] => []
  | '\r' :: '\n' :: rest => '\n' :: normalLines rest
  | c :: rest => c :: normalLines rest

/-- The entries of a document. -/
def read? (text : String) : Option Entries :=
  let cs := match text.toList with
    | '\uFEFF' :: rest => rest
    | cs => cs
  (readLines? {} (normalLines cs)).map (·.entries)

end Playfield.Toml
