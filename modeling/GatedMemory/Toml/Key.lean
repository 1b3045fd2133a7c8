import GatedMemory.Toml.Text

/-!
Keys: one name, or several joined by points.
-/

set_option autoImplicit false

namespace GatedMemory.Toml

/-- What a name without quotes is made of. -/
def isBare (c : Char) : Bool :=
  c.isAlphanum || c == '_' || c == '-'

/-- One name, quoted or bare. -/
def name : Reader String
  | '"' :: rest => (quotedLine ('"' :: rest)).map fun (content, rest) => (.ofList content, rest)
  | '\'' :: rest => (quotedLine ('\'' :: rest)).map fun (content, rest) => (.ofList content, rest)
  | text =>
    match text.takeWhile isBare with
    | [] => none
    | bare => some (.ofList bare, text.dropWhile isBare)

/-- A key of at most this many names is read. -/
def longestKey : Nat := 79

/-- At most `fuel` names, joined by points with blanks around them. -/
def names : Nat → Reader (List String)
  | 0, _ => none
  | fuel + 1, text => do
    let (first, text) ← name (skipBlanks text)
    match skipBlanks text with
    | '.' :: text =>
      let (rest, text) ← names fuel text
      return (first :: rest, text)
    | text => return ([first], text)

/-- A key, with the blanks around it. -/
def key : Reader (List String) :=
  names longestKey

end GatedMemory.Toml
