/-!
The values of a TOML document. Tables remember how they came to be, since that decides who may add
to them.
-/

set_option autoImplicit false

namespace GatedMemory.Toml

/-- How a table was introduced. -/
inductive TableForm where
  /-- Between braces; complete once it is closed. -/
  | inline
  /-- By the header of a table below it. -/
  | implied
  /-- By a dotted key. -/
  | dotted
  /-- By a header of its own, or as the document itself. -/
  | declared
deriving DecidableEq

namespace TableForm

/-- A dotted key may add to the table. -/
def isOpen : TableForm → Bool
  | implied | dotted => true
  | inline | declared => false

end TableForm

/-- A value. Dates and times are only told apart from everything else. -/
inductive Value where
  | text (content : String)
  | integer (number : Int)
  | float (number : Float)
  | boolean (truth : Bool)
  | dateTime
  | array (items : List Value)
  | table (form : TableForm) (entries : List (String × Value))
  /-- An array of tables, each introduced by a header in double brackets. -/
  | tables (elements : List (List (String × Value)))

/-- The entries of a table, in the order of their first mention. -/
abbrev Entries := List (String × Value)

end GatedMemory.Toml
