import GatedMemory.Toml.Value

/-!
Adding to tables. A name is given a value once; a table may be opened again only as far as nobody
has claimed it.
-/

set_option autoImplicit false

namespace GatedMemory.Toml

/-- The entries with the value of `name` replaced, or added at the end. -/
def putEntry (name : String) (value : Value) : Entries → Entries
  | [] => [(name, value)]
  | (other, old) :: rest =>
    if other = name then (name, value) :: rest else (other, old) :: putEntry name value rest

/-- A change to a table, which may be refused. -/
abbrev TableEdit := TableForm → Entries → Option Entries

/-- The array with its last table changed. -/
def editLast (edit : Entries → Option Entries) : List Entries → Option (List Entries)
  | [] => none
  | [last] => do return [← edit last]
  | first :: rest => do return first :: (← editLast edit rest)

/-- Applies a change to the table at the end of a path, with tables of the form `missing` made
where the path leads nowhere. A path goes through the last table of an array of tables. `mayPass`
says which tables the path may go through. -/
def editAt (missing : TableForm) (mayPass : TableForm → Bool) (edit : TableEdit) :
    List String → TableEdit
  | [], form, entries => edit form entries
  | name :: path, _, entries => do
    let inner := editAt missing mayPass edit path
    let value ← match entries.lookup name with
      | none => do pure (.table missing (← inner missing []))
      | some (.table form below) =>
        if mayPass form then do pure (.table form (← inner form below)) else none
      | some (.tables elements) => do pure (.tables (← editLast (inner .declared) elements))
      | some _ => none
    return putEntry name value entries

/-- Gives a new name a value. -/
def addEntry (name : String) (value : Value) (entries : Entries) : Option Entries :=
  if (entries.lookup name).isSome then none else some (putEntry name value entries)

/-- Gives the name at the end of a dotted key a value. The tables on the way are those that dotted
keys made; a plain key cannot add to one of them. -/
def assign (key : List String) (value : Value) : TableEdit :=
  let path := key.dropLast
  let add : TableEdit := fun form entries =>
    if (form == .dotted) == path.isEmpty then none
    else addEntry (key.getLast?.getD "") value entries
  editAt .dotted TableForm.isOpen add path

/-- Headers go through every table but a complete one. -/
def headerPasses (form : TableForm) : Bool :=
  form != .inline

/-- Introduces the table of a header. It may exist as long as it was only implied. -/
def declareTable (key : List String) : TableEdit :=
  let name := key.getLast?.getD ""
  let declare : TableEdit := fun _ entries =>
    match entries.lookup name with
    | none => some (putEntry name (.table .declared []) entries)
    | some (.table .implied below) => some (putEntry name (.table .declared below) entries)
    | some _ => none
  editAt .implied headerPasses declare key.dropLast

/-- Introduces one more table of an array of tables. -/
def declareElement (key : List String) : TableEdit :=
  let name := key.getLast?.getD ""
  let declare : TableEdit := fun _ entries =>
    match entries.lookup name with
    | none => some (putEntry name (.tables [[]]) entries)
    | some (.tables elements) => some (putEntry name (.tables (elements ++ [[]])) entries)
    | some _ => none
  editAt .implied headerPasses declare key.dropLast

/-- Gives a key below the table of a header a value. -/
def assignBelow (header key : List String) (value : Value) : TableEdit :=
  editAt .implied headerPasses (assign key value) header

end GatedMemory.Toml
