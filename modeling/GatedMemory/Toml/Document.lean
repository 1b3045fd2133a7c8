import GatedMemory.Toml.Item

/-!
Documents: lines that are empty, give a key a value, or open a table for the lines below.
-/

set_option autoImplicit false

namespace GatedMemory.Toml

/-- What a line says. -/
inductive Line where
  | empty
  | header (key : List String)
  | elementHeader (key : List String)
  | assignment (key : List String) (value : Value)

/-- The first line of a text that begins with something other than a blank. -/
def line : Reader Line
  | '[' :: '[' :: text => do
    match ← key text with
    | (key, ']' :: ']' :: text) => return (.elementHeader key, ← endLine? text)
    | _ => none
  | '[' :: text => do
    match ← key text with
    | (key, ']' :: text) => return (.header key, ← endLine? text)
    | _ => none
  | '#' :: text => do return (.empty, ← endLine? ('#' :: text))
  | text =>
    match skipNewline? text with
    | some text => some (.empty, text)
    | none => do
      let ((key, value), text) ← pair (item deepest) text
      return (.assignment key value, ← endLine? text)

/-- All lines of a text; `fuel` bounds their number. -/
def lines : Nat → List Char → Option (List Line)
  | 0, _ => none
  | fuel + 1, text =>
    match skipBlanks text with
    | [] => some []
    | text => do
      let (first, text) ← line text
      return first :: (← lines fuel text)

/-- Adds what a line says to the entries read so far, below the header in force. -/
def addLine (state : List String × Entries) : Line → Option (List String × Entries)
  | .empty => some state
  | .header key => do return (key, ← declareTable key .declared state.2)
  | .elementHeader key => do return (key, ← declareElement key .declared state.2)
  | .assignment key value => do
    return (state.1, ← assignBelow state.1 key value .declared state.2)

/-- Drops the mark that may stand at the beginning of a text. -/
def skipByteOrderMark : List Char → List Char
  | '\ufeff' :: rest => rest
  | text => text

/-- Reads a document. -/
def document? (text : String) : Option Value := do
  let chars := skipByteOrderMark text.toList
  let lines ← lines (chars.length + 1) chars
  let (_, entries) ← lines.foldlM addLine ([], [])
  return .table .declared entries

end GatedMemory.Toml
