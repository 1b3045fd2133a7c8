/-!
Blanks, line ends and comments. A reader takes what it recognises off the front of a text and
returns the rest; it answers `none` if it does not recognise anything.
-/

set_option autoImplicit false

namespace GatedMemory.Toml

/-- Takes a value off the front of a text. -/
abbrev Reader (α : Type) := List Char → Option (α × List Char)

def isBlank (c : Char) : Bool :=
  c == ' ' || c == '\t'

/-- Printable characters, the tab, and everything beyond ASCII. -/
def isVisible (c : Char) : Bool :=
  c == '\t' || (' ' ≤ c && c ≤ '~') || '\x80' ≤ c

def skipBlanks (text : List Char) : List Char :=
  text.dropWhile isBlank

/-- A line feed, alone or after a carriage return. -/
def skipNewline? : List Char → Option (List Char)
  | '\n' :: rest => some rest
  | '\r' :: '\n' :: rest => some rest
  | _ => none

/-- Drops a comment, up to what cannot stand in it. -/
def skipComment : List Char → List Char
  | '#' :: rest => rest.dropWhile isVisible
  | text => text

/-- Drops blanks and line ends. -/
def skipBlankLines : List Char → List Char
  | [] => []
  | '\r' :: '\n' :: rest => skipBlankLines rest
  | c :: rest => if isBlank c || c == '\n' then skipBlankLines rest else c :: rest

/-- Drops blanks, line ends and comments. `inComment` says that the text begins inside a comment. -/
def skipFiller (inComment : Bool) : List Char → List Char
  | [] => []
  | '\r' :: '\n' :: rest => skipFiller false rest
  | c :: rest =>
    if c == '#' || (inComment && isVisible c) then skipFiller true rest
    else if isBlank c || c == '\n' then skipFiller false rest
    else c :: rest

/-- Drops what may stand between the parts of an array. -/
def skipBetween (text : List Char) : List Char :=
  skipFiller false text

/-- The rest of a line: blanks and a comment, up to the next line or the end of the text. -/
def endLine? (text : List Char) : Option (List Char) :=
  match skipComment (skipBlanks text) with
  | [] => some []
  | text => skipNewline? text

end GatedMemory.Toml
