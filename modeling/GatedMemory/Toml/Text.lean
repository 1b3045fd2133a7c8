import GatedMemory.Toml.Blank

/-!
Quoted text, in four forms: between double quotes with escapes, between single quotes as it stands,
and either of them in tripled quotes over several lines.
-/

set_option autoImplicit false

namespace GatedMemory.Toml

/-- The value of a hexadecimal digit. -/
def hexValue? (c : Char) : Option Nat :=
  if '0' ≤ c && c ≤ '9' then some (c.toNat - '0'.toNat)
  else if 'a' ≤ c && c ≤ 'f' then some (c.toNat - 'a'.toNat + 10)
  else if 'A' ≤ c && c ≤ 'F' then some (c.toNat - 'A'.toNat + 10)
  else none

/-- Exactly `count` hexadecimal digits, added to the digits read before. -/
def hexDigits : Nat → Nat → Reader Nat
  | 0, value, text => some (value, text)
  | _ + 1, _, [] => none
  | count + 1, value, c :: rest => do
    let digit ← hexValue? c
    hexDigits count (16 * value + digit) rest

/-- The character with a code point, which must not be half of a pair. -/
def charOfCode? (code : Nat) : Option Char :=
  if valid : code.isValidChar then some (Char.ofNatAux code valid) else none

/-- A character given by the digits of its code point. -/
def codePoint (digits : Nat) : Reader Char := fun text => do
  let (code, rest) ← hexDigits digits 0 text
  return (← charOfCode? code, rest)

/-- What stands behind a backslash. -/
def escape : Reader Char
  | 'b' :: rest => some ('\x08', rest)
  | 't' :: rest => some ('\t', rest)
  | 'n' :: rest => some ('\n', rest)
  | 'f' :: rest => some ('\x0c', rest)
  | 'r' :: rest => some ('\r', rest)
  | '"' :: rest => some ('"', rest)
  | '\\' :: rest => some ('\\', rest)
  | 'u' :: rest => codePoint 4 rest
  | 'U' :: rest => codePoint 8 rest
  | _ => none

/-- The body of a text between double quotes on one line; `fuel` bounds its characters. -/
def basicBody : Nat → Reader (List Char)
  | 0, _ => none
  | fuel + 1, text =>
    match text with
    | '"' :: rest => some ([], rest)
    | '\\' :: rest => do
      let (c, rest) ← escape rest
      let (body, rest) ← basicBody fuel rest
      return (c :: body, rest)
    | c :: rest =>
      if isVisible c then do
        let (body, rest) ← basicBody fuel rest
        return (c :: body, rest)
      else none
    | [] => none

/-- The body of a text between single quotes on one line. -/
def literalBody : Reader (List Char)
  | [] => none
  | '\'' :: rest => some ([], rest)
  | c :: rest =>
    if isVisible c then do
      let (body, rest) ← literalBody rest
      return (c :: body, rest)
    else none

/-- The end of a text in tripled quotes: the quotes before the last three, of which there are at
most two, belong to the text. -/
def closing? (quote : Char) (text : List Char) : Option (List Char × List Char) :=
  let run := (text.takeWhile (· == quote)).length
  if run < 3 then none
  else
    let inner := min (run - 3) 2
    some (List.replicate inner quote, text.drop (inner + 3))

/-- Drops a backslash at the end of a line with the blanks and line ends behind it. -/
def skipContinuation? (text : List Char) : Option (List Char) :=
  (skipNewline? (skipBlanks text)).map skipBlankLines

/-- The body of a text in tripled double quotes; `fuel` bounds its characters. -/
def basicLines : Nat → Reader (List Char)
  | 0, _ => none
  | fuel + 1, text =>
    match closing? '"' text with
    | some closed => some closed
    | none =>
      match text with
      | '\\' :: rest =>
        match skipContinuation? rest with
        | some rest => basicLines fuel rest
        | none => do
          let (c, rest) ← escape rest
          let (body, rest) ← basicLines fuel rest
          return (c :: body, rest)
      | '\r' :: '\n' :: rest => do
        let (body, rest) ← basicLines fuel rest
        return ('\n' :: body, rest)
      | c :: rest =>
        if isVisible c || c == '\n' then do
          let (body, rest) ← basicLines fuel rest
          return (c :: body, rest)
        else none
      | [] => none

/-- The body of a text in tripled single quotes; `fuel` bounds its characters. -/
def literalLines : Nat → Reader (List Char)
  | 0, _ => none
  | fuel + 1, text =>
    match closing? '\'' text with
    | some closed => some closed
    | none =>
      match text with
      | '\r' :: '\n' :: rest => do
        let (body, rest) ← literalLines fuel rest
        return ('\n' :: body, rest)
      | c :: rest =>
        if isVisible c || c == '\n' then do
          let (body, rest) ← literalLines fuel rest
          return (c :: body, rest)
        else none
      | [] => none

/-- Drops the line end that may follow the opening quotes of a text over several lines. -/
def skipFirstNewline (text : List Char) : List Char :=
  (skipNewline? text).getD text

/-- Quoted text on one line. -/
def quotedLine : Reader (List Char)
  | '"' :: rest => basicBody (rest.length + 1) rest
  | '\'' :: rest => literalBody rest
  | _ => none

/-- Quoted text in any form. -/
def quoted : Reader (List Char)
  | '"' :: '"' :: '"' :: rest => basicLines (rest.length + 1) (skipFirstNewline rest)
  | '\'' :: '\'' :: '\'' :: rest => literalLines (rest.length + 1) (skipFirstNewline rest)
  | text => quotedLine text

end GatedMemory.Toml
