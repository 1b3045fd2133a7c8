import GatedMemory.Proofs.Episodes
import GatedMemory.Proofs.Peers

set_option autoImplicit false

namespace GatedMemory

/-- What was asked of a memory, and its answer. -/
inductive Dealing where
  /-- A request was offered, with this outcome. -/
  | offered (packet : Packet) (delivery : Delivery)
  /-- The next response was asked for. -/
  | asked (answer : Option Packet)
  /-- A response was put back. -/
  | putBack (packet : Packet)
  /-- Responses are taken again. -/
  | reopened
  /-- It was asked if there is a retry to pass on. -/
  | settled (owed : Bool)
deriving DecidableEq

namespace Dealing

def answer? : Dealing → Option Packet
  | offered packet .accepted => packet.response?
  | _ => none

/-- Responses that were given away for good: the one put back is the last of them no longer. -/
def keep (kept : List (Nat × Packet)) : Nat × Dealing → List (Nat × Packet)
  | (now, asked (some packet)) => kept ++ [(now, packet)]
  | (_, putBack _) => kept.dropLast
  | _ => kept

def block (blocked : Bool) : Dealing → Bool
  | putBack _ => true
  | reopened => false
  | _ => blocked

/-- If a request was refused and nobody was told since that there is room. -/
def refuse (refused : Bool) : Dealing → Bool
  | offered _ (.rejected _) => true
  | settled true => false
  | _ => refused

/-- The response that can be put back: the one given last, until it is put back or another request
is accepted. -/
def hold (held : Option Packet) : Dealing → Option Packet
  | asked (some packet) => some packet
  | putBack _ => none
  | offered _ .accepted => none
  | _ => held

end Dealing

abbrev Dealings := List (Nat × Dealing)

namespace Dealings

/-- The answers to the requests that were accepted, each with the tick of its acceptance. -/
def answers (history : Dealings) : List (Nat × Packet) :=
  history.filterMap fun dealt => dealt.2.answer?.map (dealt.1, ·)

/-- The responses that were given and not put back, each with the tick at which it was given. -/
def kept (history : Dealings) : List (Nat × Packet) :=
  history.foldl Dealing.keep []

def waiting (history : Dealings) : List (Nat × Packet) :=
  history.answers.drop history.kept.length

def blocked (history : Dealings) : Bool :=
  (history.map Prod.snd).foldl Dealing.block false

def refused (history : Dealings) : Bool :=
  (history.map Prod.snd).foldl Dealing.refuse false

def held? (history : Dealings) : Option Packet :=
  (history.map Prod.snd).foldl Dealing.hold none

/-- Nothing in a history is later than a tick. -/
def Until (history : Dealings) (now : Nat) : Prop :=
  ∀ dealt ∈ history, dealt.1 ≤ now

variable {history : Dealings} {now : Nat} {dealing : Dealing}

instance : Decidable (history.Until now) :=
  inferInstanceAs (Decidable (∀ dealt ∈ history, dealt.1 ≤ now))

@[simp] theorem answers_concat : (history ++ [(now, dealing)]).answers =
    history.answers ++ (dealing.answer?.map (now, ·)).toList := by
  rw [answers, List.filterMap_append, ← answers, List.filterMap_cons]
  cases dealing.answer? <;> rfl

theorem answers_concat_of_none (unanswered : dealing.answer? = none) :
    (history ++ [(now, dealing)]).answers = history.answers := by
  rw [answers_concat, unanswered]
  exact List.append_nil _

@[simp] theorem kept_concat :
    (history ++ [(now, dealing)]).kept = Dealing.keep history.kept (now, dealing) :=
  List.foldl_concat ..

@[simp] theorem blocked_concat :
    (history ++ [(now, dealing)]).blocked = dealing.block history.blocked := by
  simp only [blocked, List.map_append, List.foldl_append, List.map_cons, List.map_nil,
    List.foldl_cons, List.foldl_nil]

@[simp] theorem refused_concat :
    (history ++ [(now, dealing)]).refused = dealing.refuse history.refused := by
  simp only [refused, List.map_append, List.foldl_append, List.map_cons, List.map_nil,
    List.foldl_cons, List.foldl_nil]

@[simp] theorem held_concat :
    (history ++ [(now, dealing)]).held? = dealing.hold history.held? := by
  simp only [held?, List.map_append, List.foldl_append, List.map_cons, List.map_nil,
    List.foldl_cons, List.foldl_nil]

theorem until_concat {later : Nat} :
    Until (history ++ [(now, dealing)]) later ↔ history.Until later ∧ now ≤ later := by
  simp only [Until, List.forall_mem_append, List.forall_mem_singleton]

theorem Until.answer_le (before : history.Until now) {answer : Nat × Packet}
    (member : answer ∈ history.answers) : answer.1 ≤ now := by
  obtain ⟨dealt, dealtWith, given⟩ := List.mem_filterMap.1 member
  obtain ⟨packet, -, rfl⟩ := Option.map_eq_some_iff.1 given
  exact before dealt dealtWith

end Dealings

namespace MemoryModel

variable {config : MemoryConfig} {history : Dealings} {memory next : MemoryModel} {now : Nat}
  {dealing : Dealing}

/-- One dealing with a memory at a tick, and the memory after it. -/
inductive Deals (memory : MemoryModel) (now : Nat) : Dealing → MemoryModel → Prop where
  | offer {packet : Packet} {delivery : Delivery} {next : MemoryModel}
      (received : memory.receive packet now = .ok (delivery, next)) :
      Deals memory now (.offered packet delivery) next
  | takeReady : Deals memory now (.asked (memory.takeReady now).1) (memory.takeReady now).2
  | putBack (packet : Packet) : Deals memory now (.putBack packet) (memory.putBack packet now)
  | responseRetry : Deals memory now .reopened memory.responseRetry
  | settleRetry : Deals memory now (.settled memory.settleRetry.1) memory.settleRetry.2

/-- A history of a memory that starts idle: time never goes back, and only the response given last
is put back. -/
inductive Dealt (config : MemoryConfig) : Dealings → MemoryModel → Prop where
  | start : Dealt config [] (idle config)
  | deal {history : Dealings} {memory next : MemoryModel} {dealing : Dealing}
      (dealt : Dealt config history memory) (now : Nat) (deals : memory.Deals now dealing next)
      (timely : history.Until now)
      (allowed : ∀ packet, dealing = .putBack packet → history.held? = some packet) :
      Dealt config (history ++ [(now, dealing)]) next

/-- A response as it was given: the answer itself, after the latency. -/
def Given (latency now : Nat) (answer given : Nat × Packet) : Prop :=
  given.2 = answer.2 ∧ answer.1 + latency ≤ given.1 ∧ given.1 ≤ now

/-- A response as it is in service: the answer itself, due after the latency. One that was put back
is due at the tick at which that happened, which is not in the future. -/
def Stamped (latency now : Nat) (answer entry : Nat × Packet) : Prop :=
  entry.2 = answer.2 ∧ answer.1 + latency ≤ entry.1 ∧ entry.1 ≤ max (answer.1 + latency) now

/-- What is related to a list that goes one step further goes one step further. -/
theorem forall₂_concat_right {α β : Type} {related : α → β → Prop} {before : List β} {last : β}
    {list : List α} (forall₂ : List.Forall₂ related list (before ++ [last])) :
    ∃ earlier final, list = earlier ++ [final] ∧ List.Forall₂ related earlier before ∧
      related final last := by
  have head := List.forall₂_take_append list before [last] forall₂
  have tail := List.forall₂_drop_append list before [last] forall₂
  obtain ⟨final, rest, holds, none, split⟩ := List.forall₂_cons_right_iff.1 tail
  obtain rfl := List.forall₂_nil_right_iff.1 none
  exact ⟨_, final, by rw [← split, List.take_append_drop], head, holds⟩

/-- Whatever is on the right side is related to something on the left side. -/
theorem exists_left_of_forall₂ {α β : Type} {related : α → β → Prop} {lefts : List α}
    {rights : List β} (forall₂ : List.Forall₂ related lefts rights) {right : β}
    (member : right ∈ rights) : ∃ left ∈ lefts, related left right := by
  obtain ⟨index, inside, rfl⟩ := List.mem_iff_getElem.1 member
  have within : index < lefts.length := forall₂.length_eq ▸ inside
  exact ⟨lefts[index], List.getElem_mem within, forall₂.get within inside⟩

/-- Lists whose packets agree one by one hold the same packets. -/
theorem map_snd_eq {related : Nat × Packet → Nat × Packet → Prop}
    {lefts rights : List (Nat × Packet)} (forall₂ : List.Forall₂ related lefts rights)
    (same : ∀ left right, related left right → right.2 = left.2) :
    lefts.map Prod.snd = rights.map Prod.snd := by
  induction forall₂ with
  | nil => rfl
  | cons first _ rest => rw [List.map_cons, List.map_cons, same _ _ first, rest]

structure Serves (config : MemoryConfig) (history : Dealings)
    (served waiting : List (Nat × Packet)) (memory : MemoryModel) : Prop where
  configured : memory.config = config
  blocked : memory.responseBlocked = history.blocked
  refused : memory.owesRetry = history.refused
  answers : history.answers = served ++ waiting
  ordered : history.answers.Pairwise fun early late => early.1 ≤ late.1
  given : ∀ now, history.Until now →
    List.Forall₂ (Given config.accessLatency now) served history.kept
  stamped : ∀ now, history.Until now →
    List.Forall₂ (Stamped config.accessLatency now) waiting memory.serving
  bounded : memory.serving.length ≤ config.maxOutstanding
  held : ∀ packet, history.held? = some packet →
    (∃ tick before, history.kept = before ++ [(tick, packet)]) ∧
      memory.serving.length < config.maxOutstanding

namespace Serves

variable {served waiting : List (Nat × Packet)}

theorem start : Serves config [] [] [] (idle config) where
  configured := rfl
  blocked := rfl
  refused := rfl
  answers := rfl
  ordered := .nil
  given := fun _ _ => .nil
  stamped := fun _ _ => .nil
  bounded := Nat.zero_le _
  held := fun packet held => absurd held (Option.some_ne_none packet).symm

theorem room_iff (serves : Serves config history served waiting memory) :
    memory.hasRoom = true ↔ memory.serving.length < config.maxOutstanding := by
  rw [hasRoom, serves.configured, decide_eq_true_iff]

theorem length_kept (serves : Serves config history served waiting memory)
    (timely : history.Until now) : history.kept.length = served.length :=
  (serves.given now timely).length_eq.symm

theorem waiting_eq (serves : Serves config history served waiting memory)
    (timely : history.Until now) : history.waiting = waiting := by
  rw [Dealings.waiting, serves.length_kept timely, serves.answers, List.drop_left]

theorem accept (serves : Serves config history served waiting memory) (timely : history.Until now)
    (room : memory.hasRoom = true) (packet : Packet) :
    Serves config (history ++ [(now, .offered packet .accepted)]) served
      (waiting ++ (packet.response?.map (now, ·)).toList)
      { memory with
        accesses := memory.accesses + 1
        serving := memory.serving ++
          packet.response?.toList.map (now + config.accessLatency, ·) } where
  configured := serves.configured
  blocked := by rw [Dealings.blocked_concat]; exact serves.blocked
  refused := by rw [Dealings.refused_concat]; exact serves.refused
  answers := by
    rw [Dealings.answers_concat, serves.answers, List.append_assoc]
    rfl
  ordered := by
    rw [Dealings.answers_concat, List.pairwise_append]
    refine ⟨serves.ordered, ?_, ?_⟩
    · cases Dealing.answer? (.offered packet .accepted) <;> simp
    · intro early member late last
      obtain ⟨answer, -, rfl⟩ := Option.map_eq_some_iff.1 (Option.mem_toList.1 last)
      exact timely.answer_le member
  given := by
    intro later lasting
    rw [Dealings.kept_concat]
    exact serves.given later (Dealings.until_concat.1 lasting).1
  stamped := by
    intro later lasting
    refine List.rel_append (serves.stamped later (Dealings.until_concat.1 lasting).1) ?_
    cases packet.response? with
    | none => exact .nil
    | some answer => exact .cons ⟨rfl, Nat.le_refl _, Nat.le_max_left ..⟩ .nil
  bounded := by
    have free := serves.room_iff.1 room
    rw [List.length_append, List.length_map]
    cases packet.response? <;>
      simp only [Option.toList, List.length_nil, List.length_cons] <;> omega
  held := by
    intro answer held
    rw [Dealings.held_concat] at held
    exact absurd held (Option.some_ne_none answer).symm

/-- A dealing in which no response is promised, given or put back. -/
theorem stay (serves : Serves config history served waiting memory)
    (unanswered : dealing.answer? = none)
    (unkept : Dealing.keep history.kept (now, dealing) = history.kept)
    (unheld : dealing.hold history.held? = history.held?)
    (configured : next.config = memory.config) (serving : next.serving = memory.serving)
    (blocked : next.responseBlocked = dealing.block memory.responseBlocked)
    (refused : next.owesRetry = dealing.refuse memory.owesRetry) :
    Serves config (history ++ [(now, dealing)]) served waiting next where
  configured := configured.trans serves.configured
  blocked := by rw [Dealings.blocked_concat, ← serves.blocked, blocked]
  refused := by rw [Dealings.refused_concat, ← serves.refused, refused]
  answers := by rw [Dealings.answers_concat_of_none unanswered, serves.answers]
  ordered := by rw [Dealings.answers_concat_of_none unanswered]; exact serves.ordered
  given := by
    intro later lasting
    rw [Dealings.kept_concat, unkept]
    exact serves.given later (Dealings.until_concat.1 lasting).1
  stamped := by
    intro later lasting
    rw [serving]
    exact serves.stamped later (Dealings.until_concat.1 lasting).1
  bounded := serving ▸ serves.bounded
  held := by
    intro packet held
    rw [Dealings.held_concat, unheld] at held
    rw [Dealings.kept_concat, unkept, serving]
    exact serves.held packet held

/-- The first response in service is given, which is due and not blocked. -/
theorem give {due : Nat} {packet : Packet} {rest : List (Nat × Packet)}
    (serves : Serves config history served waiting memory) (timely : history.Until now)
    (serving : memory.serving = (due, packet) :: rest) (ready : due ≤ now) :
    ∃ accepted later, waiting = (accepted, packet) :: later ∧
      Serves config (history ++ [(now, .asked (some packet))]) (served ++ [(accepted, packet)])
        later { memory with serving := rest } := by
  have stamped := serves.stamped now timely
  rw [serving] at stamped
  obtain ⟨⟨accepted, answer⟩, later, ⟨same, after, -⟩, -, rfl⟩ :=
    List.forall₂_cons_right_iff.1 stamped
  obtain rfl : packet = answer := same
  have free : rest.length < config.maxOutstanding := by
    have bounded := serves.bounded
    rw [serving, List.length_cons] at bounded
    omega
  refine ⟨accepted, later, rfl, ?_⟩
  exact {
    configured := serves.configured
    blocked := by rw [Dealings.blocked_concat]; exact serves.blocked
    refused := by rw [Dealings.refused_concat]; exact serves.refused
    answers := by
      rw [Dealings.answers_concat_of_none rfl, serves.answers, List.append_cons]
    ordered := by rw [Dealings.answers_concat_of_none rfl]; exact serves.ordered
    given := by
      intro last lasting
      have ⟨before, upTo⟩ := Dealings.until_concat.1 lasting
      rw [Dealings.kept_concat]
      exact List.rel_append (serves.given last before)
        (.cons ⟨rfl, Nat.le_trans after ready, upTo⟩ .nil)
    stamped := by
      intro last lasting
      have whole := serves.stamped last (Dealings.until_concat.1 lasting).1
      rw [serving] at whole
      exact (List.forall₂_cons.1 whole).2
    bounded := Nat.le_of_lt free
    held := by
      intro held same
      rw [Dealings.held_concat] at same
      obtain rfl := Option.some.inj same
      rw [Dealings.kept_concat]
      exact ⟨⟨now, history.kept, rfl⟩, free⟩ }

/-- The response given last is put back: it is first in line again, due from now on. -/
theorem putBack {packet : Packet} (serves : Serves config history served waiting memory)
    (timely : history.Until now) (held : history.held? = some packet) :
    ∃ before accepted, served = before ++ [(accepted, packet)] ∧
      Serves config (history ++ [(now, .putBack packet)]) before ((accepted, packet) :: waiting)
        (memory.putBack packet now) := by
  obtain ⟨⟨tick, kept, lastKept⟩, free⟩ := serves.held packet held
  have given := serves.given now timely
  rw [lastKept] at given
  obtain ⟨before, ⟨accepted, answer⟩, rfl, whole, same, after, past⟩ := forall₂_concat_right given
  obtain rfl : packet = answer := same
  refine ⟨before, accepted, rfl, ?_⟩
  exact {
    configured := serves.configured
    blocked := by rw [Dealings.blocked_concat]; rfl
    refused := by rw [Dealings.refused_concat]; exact serves.refused
    answers := by
      rw [Dealings.answers_concat_of_none rfl, serves.answers, ← List.append_cons]
    ordered := by rw [Dealings.answers_concat_of_none rfl]; exact serves.ordered
    given := by
      intro last lasting
      have longer := serves.given last (Dealings.until_concat.1 lasting).1
      rw [lastKept] at longer
      have shorter := List.forall₂_take_append _ _ _ longer
      rw [Dealings.kept_concat, lastKept, Dealing.keep, List.dropLast_concat]
      rwa [← whole.length_eq, List.take_left] at shorter
    stamped := by
      intro last lasting
      have ⟨earlier, upTo⟩ := Dealings.until_concat.1 lasting
      -- It was given after the latency, and given at a tick that has passed.
      exact .cons ⟨rfl, Nat.le_trans after past, Nat.le_trans upTo (Nat.le_max_right ..)⟩
        (serves.stamped last earlier)
    bounded := free
    held := by
      intro held same
      rw [Dealings.held_concat] at same
      exact absurd same (Option.some_ne_none held).symm }

/-- A response in service is due once the latency has passed, also when it was put back. -/
theorem due_iff {answer entry : Nat × Packet} {latency : Nat}
    (stamped : Stamped latency now answer entry) :
    entry.1 ≤ now ↔ answer.1 + latency ≤ now := by
  obtain ⟨-, after, upTo⟩ := stamped
  omega

end Serves

/-- What a memory answers, as its history tells it. -/
def Answers (config : MemoryConfig) (history : Dealings) : Nat × Dealing → Prop
  | (_, .offered packet delivery) =>
    delivery =
      if history.waiting.length < config.maxOutstanding then .accepted else .rejected packet
  | (now, .asked answer) =>
    answer = if history.blocked then none else
      (history.waiting.head?.filter fun first => first.1 + config.accessLatency ≤ now).map Prod.snd
  | (_, .settled owed) =>
    owed = (history.refused && decide (history.waiting.length < config.maxOutstanding))
  | (_, .putBack _) => True
  | (_, .reopened) => True

namespace Serves

variable {served waiting : List (Nat × Packet)}

theorem hasRoom_eq (serves : Serves config history served waiting memory)
    (timely : history.Until now) :
    memory.hasRoom = decide (history.waiting.length < config.maxOutstanding) := by
  rw [hasRoom, serves.configured, serves.waiting_eq timely, (serves.stamped now timely).length_eq]

theorem offer (serves : Serves config history served waiting memory) (timely : history.Until now)
    (packet : Packet) :
    Answers config history (now, .offered packet (memory.offer packet now).1) ∧
      ∃ served waiting,
        Serves config (history ++ [(now, .offered packet (memory.offer packet now).1)])
          served waiting (memory.offer packet now).2 := by
  have told := serves.hasRoom_eq timely
  rcases room : memory.hasRoom with _ | _
  · rw [room, eq_comm, decide_eq_false_iff_not] at told
    have refused : memory.offer packet now = (.rejected packet,
        { memory with owesRetry := true, rejections := memory.rejections + 1 }) := by
      simp only [MemoryModel.offer, room, Bool.false_eq_true, ↓reduceIte]
    rw [refused]
    exact ⟨(if_neg told).symm, served, waiting, serves.stay rfl rfl rfl rfl rfl rfl rfl⟩
  · rw [room, eq_comm, decide_eq_true_iff] at told
    have accepted : memory.offer packet now = (.accepted,
        { memory with
          accesses := memory.accesses + 1
          serving := memory.serving ++
            packet.response?.toList.map (now + config.accessLatency, ·) }) := by
      simp only [MemoryModel.offer, room, serves.configured, ↓reduceIte]
    rw [accepted]
    exact ⟨(if_pos told).symm, _, _, serves.accept timely room packet⟩

theorem keepAll (serves : Serves config history served waiting memory)
    (nothing : memory.takeReady now = (none, memory)) :
    ∃ served waiting, Serves config (history ++ [(now, .asked (memory.takeReady now).1)])
      served waiting (memory.takeReady now).2 := by
  rw [nothing]
  exact ⟨served, waiting, serves.stay rfl rfl rfl rfl rfl rfl rfl⟩

/-- The first response that waits is given if it is due and responses are not blocked. -/
theorem take (serves : Serves config history served waiting memory) (timely : history.Until now) :
    Answers config history (now, .asked (memory.takeReady now).1) ∧
      ∃ served waiting, Serves config (history ++ [(now, .asked (memory.takeReady now).1)])
        served waiting (memory.takeReady now).2 := by
  have stamped := serves.stamped now timely
  simp only [Answers, ← serves.blocked, serves.waiting_eq timely]
  by_cases blocked : memory.responseBlocked = true
  · have nothing : memory.takeReady now = (none, memory) := by simp only [takeReady, if_pos blocked]
    exact ⟨by rw [nothing, if_pos blocked], serves.keepAll nothing⟩
  rw [if_neg blocked]
  cases serving : memory.serving with
  | nil =>
    have nothing : memory.takeReady now = (none, memory) := by
      simp only [takeReady, if_neg blocked, serving]
    rw [serving] at stamped
    obtain rfl := List.forall₂_nil_right_iff.1 stamped
    exact ⟨by rw [nothing]; rfl, serves.keepAll nothing⟩
  | cons entry rest =>
    obtain ⟨due, packet⟩ := entry
    rw [serving] at stamped
    obtain ⟨⟨accepted, answer⟩, later, first, -, rfl⟩ := List.forall₂_cons_right_iff.1 stamped
    obtain rfl : packet = answer := first.1
    by_cases ready : due ≤ now
    · have taken : memory.takeReady now = (some packet, { memory with serving := rest }) := by
        simp only [takeReady, if_neg blocked, serving, if_pos ready]
      have elapsed := (due_iff first).1 ready
      obtain ⟨_, _, -, after⟩ := serves.give timely serving ready
      rw [taken]
      refine ⟨?_, _, _, after⟩
      rw [List.head?_cons, Option.filter_some, if_pos (decide_eq_true elapsed)]
      rfl
    · have nothing : memory.takeReady now = (none, memory) := by
        simp only [takeReady, if_neg blocked, serving, if_neg ready]
      have early := mt (due_iff first).2 ready
      refine ⟨?_, serves.keepAll nothing⟩
      rw [nothing, List.head?_cons, Option.filter_some,
        if_neg (ne_true_of_eq_false (decide_eq_false early))]
      rfl

/-- A request is received unless its answer would be due too late for a word. -/
theorem receive (serves : Serves config history served waiting memory) (timely : history.Until now)
    (packet : Packet) :
    Gives (Exceeds (now + config.accessLatency)) (memory.receive packet now) fun result =>
      result = memory.offer packet now := by
  obtain ⟨-, _, _, after⟩ := serves.offer timely packet
  have lasting : Dealings.Until (history ++ [(now, .offered packet (memory.offer packet now).1)])
      now :=
    Dealings.until_concat.2 ⟨timely, Nat.le_refl now⟩
  simp only [MemoryModel.receive]
  cases oversize : (memory.offer packet now).2.oversize? with
  | none => exact .ok rfl
  | some number =>
    obtain ⟨entry, member, found⟩ := List.exists_of_findSome?_eq_some oversize
    obtain ⟨large, -⟩ := Option.dite_none_right_eq_some.1 found
    obtain ⟨answer, waits, -, -, due⟩ :=
      exists_left_of_forall₂ (after.stamped now lasting) member
    have accepted := lasting.answer_le (after.answers ▸ List.mem_append_right _ waits)
    exact ⟨⟨number, rfl⟩, by omega⟩

/-- Whatever is done with a memory, it answers as its history tells, and goes on to do so. -/
theorem deal (serves : Serves config history served waiting memory) (timely : history.Until now)
    (deals : memory.Deals now dealing next)
    (allowed : ∀ packet, dealing = .putBack packet → history.held? = some packet) :
    Answers config history (now, dealing) ∧
      ∃ served waiting, Serves config (history ++ [(now, dealing)]) served waiting next := by
  cases deals with
  | offer received =>
    obtain same := (serves.receive timely _).of_eq_ok received
    obtain ⟨rfl, rfl⟩ := Prod.mk.inj same
    exact serves.offer timely _
  | takeReady => exact serves.take timely
  | putBack packet =>
    obtain ⟨before, accepted, -, after⟩ := serves.putBack timely (allowed packet rfl)
    exact ⟨trivial, before, _, after⟩
  | responseRetry => exact ⟨trivial, served, waiting, serves.stay rfl rfl rfl rfl rfl rfl rfl⟩
  | settleRetry =>
    have told := serves.hasRoom_eq timely
    refine ⟨?_, served, waiting, ?_⟩
    · simp only [Answers, settleRetry, ← serves.refused, ← told]
      cases memory.owesRetry <;> cases memory.hasRoom <;> rfl
    · by_cases owed : (memory.owesRetry && memory.hasRoom) = true
      · rw [MemoryModel.settleRetry, if_pos owed]
        exact serves.stay rfl rfl rfl rfl rfl rfl rfl
      · rw [MemoryModel.settleRetry, if_neg owed]
        exact serves.stay rfl rfl rfl rfl rfl rfl rfl

/-- If any response in service is due, the first is: it was accepted before the others. -/
theorem first_due (serves : Serves config history served waiting memory)
    (timely : history.Until now) {entry : Nat × Packet} (member : entry ∈ memory.serving)
    (due : entry.1 ≤ now) :
    ∃ first rest, memory.serving = first :: rest ∧ first.1 ≤ now := by
  have stamped := serves.stamped now timely
  have ordered := (List.pairwise_append.1 (serves.answers ▸ serves.ordered)).2.1
  obtain ⟨answer, waits, own⟩ := exists_left_of_forall₂ stamped member
  cases serving : memory.serving with
  | nil => exact absurd (serving ▸ member) List.not_mem_nil
  | cons first rest =>
    refine ⟨first, rest, rfl, ?_⟩
    rw [serving] at stamped
    obtain ⟨earliest, later, firstOwn, -, rfl⟩ := List.forall₂_cons_right_iff.1 stamped
    have elapsed := (due_iff own).1 due
    have least : earliest.1 ≤ answer.1 := by
      rcases List.mem_cons.1 waits with rfl | isLater
      · exact Nat.le_refl _
      · exact (List.pairwise_cons.1 ordered).1 answer isLater
    exact (due_iff firstOwn).2 (by omega)

end Serves

theorem Dealt.serves (dealt : Dealt config history memory) :
    ∃ served waiting, Serves config history served waiting memory := by
  induction dealt with
  | start => exact ⟨[], [], .start⟩
  | deal _ _ deals timely allowed before =>
    obtain ⟨served, waiting, serves⟩ := before
    exact (serves.deal timely deals allowed).2

theorem Dealt.answers (dealt : Dealt config history memory) :
    Throughout (Answers config) history := by
  induction dealt with
  | start => exact .nil
  | deal dealt _ deals timely allowed before =>
    obtain ⟨served, waiting, serves⟩ := dealt.serves
    exact before.concat (serves.deal timely deals allowed).1

theorem Dealt.exists_until (dealt : Dealt config history memory) : ∃ now, history.Until now := by
  cases dealt with
  | start => exact ⟨0, fun _ member => absurd member List.not_mem_nil⟩
  | deal _ _ _ timely _ => exact ⟨_, Dealings.until_concat.2 ⟨timely, Nat.le_refl _⟩⟩

/-- A memory is a first-in first-out server with a delay, also when responses are put back. It never
has more in service than it may. What was given for good, and then what is in service, are the
answers to the requests that were accepted, in that order and each once; each was given after the
latency. What it answers follows from its history: requests are refused when it is full, nothing is
given while responses are blocked or before the first that waits is due, a retry is owed after a
refusal and told when there is room. A request that is offered next is answered like the others,
unless its answer would be due too late for a word. And no response that is due hides behind
another. -/
theorem serves_in_order (dealt : Dealt config history memory) :
    memory.occupancy ≤ config.maxOutstanding ∧
      memory.responseBlocked = history.blocked ∧
      history.kept.map Prod.snd ++ memory.serving.map Prod.snd = history.answers.map Prod.snd ∧
      (∀ (index : Nat) (answer given : Nat × Packet), history.answers[index]? = some answer →
        history.kept[index]? = some given →
          given.2 = answer.2 ∧ answer.1 + config.accessLatency ≤ given.1) ∧
      Throughout (Answers config) history ∧
      (∀ (now : Nat) (packet : Packet), history.Until now →
        Gives (Exceeds (now + config.accessLatency)) (memory.receive packet now) fun result =>
          Answers config history (now, .offered packet result.1)) ∧
      ∀ now, history.Until now → memory.responseBlocked = false →
        ∀ entry ∈ memory.serving, entry.1 ≤ now →
          ∃ packet, (memory.takeReady now).1 = some packet := by
  obtain ⟨served, waiting, serves⟩ := dealt.serves
  obtain ⟨present, timely⟩ := dealt.exists_until
  have given := serves.given present timely
  have stamped := serves.stamped present timely
  refine ⟨serves.bounded, serves.blocked, ?_, ?_, dealt.answers, ?_, ?_⟩
  · have keptSame : served.map Prod.snd = history.kept.map Prod.snd :=
      map_snd_eq given fun _ _ own => own.1
    have servingSame : waiting.map Prod.snd = memory.serving.map Prod.snd :=
      map_snd_eq stamped fun _ _ own => own.1
    rw [serves.answers, List.map_append, keptSame, servingSame]
  · intro index answer last accepted keeps
    obtain ⟨inside, rfl⟩ := List.getElem?_eq_some_iff.1 keeps
    have within : index < served.length := given.length_eq ▸ inside
    rw [serves.answers, List.getElem?_append_left within,
      List.getElem?_eq_getElem within] at accepted
    obtain rfl := Option.some.inj accepted
    obtain ⟨same, after, -⟩ := given.get within inside
    exact ⟨same, after⟩
  · intro now packet lasting
    apply (serves.receive lasting packet).mono
    rintro _ rfl
    exact (serves.offer lasting packet).1
  · intro now lasting unblocked entry member due
    obtain ⟨first, rest, serving, ready⟩ := serves.first_due lasting member due
    exact ⟨first.2, by
      simp only [takeReady, unblocked, serving, if_pos ready, Bool.false_eq_true, ↓reduceIte]⟩

/-- A memory with one place refuses a second request. Its response is put back, is not given again
before the retry, and is given once in the end; then there is room for the second request. -/
theorem serves_in_order_put_back :
    ∃ history memory, Dealt { accessLatency := 5, maxOutstanding := 1 } history memory ∧
      history.map Prod.fst = [0, 2, 5, 6, 6, 8, 8, 8] ∧
      history.map Prod.snd =
        [.offered (.read 1 0 0) .accepted, .offered (.read 2 0 2) (.rejected (.read 2 0 2)),
          .asked (Packet.read 1 0 0).response?, .putBack (Packet.read 1 0 0).settled, .asked none,
          .reopened, .asked (Packet.read 1 0 0).response?, .settled true] ∧
      history.kept.map Prod.snd ++ memory.serving.map Prod.snd = history.answers.map Prod.snd := by
  have idle : Dealt { accessLatency := 5, maxOutstanding := 1 } _ _ := .start
  have accepted := idle.deal 0
    (.offer rfl : Deals _ 0 (.offered (.read 1 0 0) .accepted) _) (by decide) nofun
  have refused := accepted.deal 2
    (.offer rfl : Deals _ 2 (.offered (.read 2 0 2) (.rejected _)) _) (by decide) nofun
  have given := refused.deal 5 .takeReady (by decide) nofun
  have back := given.deal 6 (.putBack (Packet.read 1 0 0).settled) (by decide)
    fun _ same => Dealing.putBack.inj same ▸ rfl
  have blocked := back.deal 6 .takeReady (by decide) nofun
  have reopened := blocked.deal 8 .responseRetry (by decide) nofun
  have again := reopened.deal 8 .takeReady (by decide) nofun
  have settled := again.deal 8 .settleRetry (by decide) nofun
  exact ⟨_, _, settled, rfl, rfl, (serves_in_order settled).2.2.1⟩

end MemoryModel
end GatedMemory
