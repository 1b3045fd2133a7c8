import GatedMemory.Toml.Date
import GatedMemory.Toml.Key
import GatedMemory.Toml.Number
import GatedMemory.Toml.Table

/-!
Values, and the arrays and inline tables that nest them.
-/

set_option autoImplicit false

namespace GatedMemory.Toml

/-- A value with nothing inside. -/
def scalar : Reader Value
  | '"' :: rest => (quoted ('"' :: rest)).map fun (content, rest) => (.text (.ofList content), rest)
  | '\'' :: rest =>
    (quoted ('\'' :: rest)).map fun (content, rest) => (.text (.ofList content), rest)
  | 't' :: 'r' :: 'u' :: 'e' :: rest => some (.boolean true, rest)
  | 'f' :: 'a' :: 'l' :: 's' :: 'e' :: rest => some (.boolean false, rest)
  | text =>
    match skipDateTime? text with
    | some rest => some (.dateTime, rest)
    | none => number text

/-- The items of an array up to its end, each read by `item`; a comma may follow the last. -/
def arrayItems (item : Reader Value) : Nat → Reader (List Value)
  | 0, _ => none
  | fuel + 1, text =>
    match skipBetween text with
    | ']' :: rest => some ([], rest)
    | text => do
      let (first, text) ← item text
      match skipBetween text with
      | ',' :: text =>
        let (rest, text) ← arrayItems item fuel text
        return (first :: rest, text)
      | ']' :: text => return ([first], text)
      | _ => none

/-- A key and its value, which is read by `item`. -/
def pair (item : Reader Value) : Reader (List String × Value) := fun text => do
  let (key, text) ← key text
  match text with
  | '=' :: text =>
    let (value, text) ← item (skipBlanks text)
    return ((key, value), text)
  | _ => none

/-- The pairs of an inline table up to its end, all on one line; none may be missing. -/
def tablePairs (item : Reader Value) : Nat → Entries → Reader Entries
  | 0, _, _ => none
  | fuel + 1, entries, text => do
    let ((key, value), text) ← pair item text
    let entries ← assign key value .inline entries
    match skipBlanks text with
    | ',' :: text => tablePairs item fuel entries text
    | '\x7d' :: text => return (entries, text)
    | _ => none

/-- An inline table behind its opening brace. -/
def inlineTable (item : Reader Value) : Reader Value := fun text =>
  match skipBlanks text with
  | '\x7d' :: rest => some (.table .inline [], rest)
  | text => (tablePairs item (text.length + 1) [] text).map fun (entries, rest) =>
    (.table .inline entries, rest)

/-- A value with at most `depth` arrays and inline tables around its innermost parts. -/
def item : Nat → Reader Value
  | 0, text => scalar text
  | depth + 1, text =>
    match text with
    | '[' :: rest => (arrayItems (item depth) (rest.length + 1) rest).map fun (items, rest) =>
      (.array items, rest)
    | '\x7b' :: rest => inlineTable (item depth) rest
    | text => scalar text

/-- Arrays and inline tables nest at most this deep. -/
def deepest : Nat := 79

end GatedMemory.Toml
