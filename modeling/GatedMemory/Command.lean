/-!
Memory commands and their classification by name. A name that mentions `read` is a read, any
other that mentions `write` is a write; ASCII case does not matter.
-/

set_option autoImplicit false

namespace GatedMemory

/-- What decides which security check a request must wait for. -/
inductive AccessKind where
  | read
  | write
  | other
deriving DecidableEq

/-- `word` stands somewhere in the text as a contiguous block. -/
def occursIn (word : List Char) : List Char → Bool
  | [] => word.isEmpty
  | c :: rest => word.isPrefixOf (c :: rest) || occursIn word rest

/-- The kind that a command's name stands for. -/
def AccessKind.ofName (name : String) : AccessKind :=
  let folded := name.toList.map Char.toLower
  if occursIn "read".toList folded then .read
  else if occursIn "write".toList folded then .write
  else .other

/-- The command that a packet carries. -/
inductive Command where
  | readReq
  | readExReq
  | readSharedReq
  | writeReq
  | writebackDirty
  | writebackClean
  | cleanEvict
  | invalidateReq
  | readResp
  | writeResp
deriving DecidableEq

namespace Command

def name : Command → String
  | readReq => "ReadReq"
  | readExReq => "ReadExReq"
  | readSharedReq => "ReadSharedReq"
  | writeReq => "WriteReq"
  | writebackDirty => "WritebackDirty"
  | writebackClean => "WritebackClean"
  | cleanEvict => "CleanEvict"
  | invalidateReq => "InvalidateReq"
  | readResp => "ReadResp"
  | writeResp => "WriteResp"

/-- A command's kind is read off its name. -/
def kind (command : Command) : AccessKind :=
  AccessKind.ofName command.name

/-- Every command but two is named for the read or the write that it is. -/
theorem kind_eq (command : Command) : command.kind =
    match command with
    | readReq | readExReq | readSharedReq | readResp => .read
    | writeReq | writebackDirty | writebackClean | writeResp => .write
    | cleanEvict | invalidateReq => .other := by
  cases command <;> decide

/-- The command of the packet that answers this one; only reads and plain writes are answered. -/
def response? : Command → Option Command
  | readReq | readExReq | readSharedReq => some readResp
  | writeReq => some writeResp
  | _ => none

def isResponse : Command → Bool
  | readResp | writeResp => true
  | _ => false

def isRequest (command : Command) : Bool :=
  !command.isResponse

/-- Memory answers this command with a packet. -/
def isAnswered (command : Command) : Bool :=
  command.response?.isSome

end Command

end GatedMemory
