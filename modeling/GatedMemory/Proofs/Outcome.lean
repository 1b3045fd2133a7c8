import GatedMemory.Clock

set_option autoImplicit false

namespace GatedMemory

variable {α β γ : Type}

theorem ok_bind (result : α) (next : α → Except Fault β) :
    Except.ok result >>= next = next result := rfl

theorem map_bind (outcome : Except Fault α) (next : α → Except Fault β) (h : β → γ) :
    (outcome >>= next).map h = outcome >>= fun result => (next result).map h := by
  cases outcome <;> rfl

theorem bind_map (outcome : Except Fault α) (h : α → β) (next : β → Except Fault γ) :
    outcome.map h >>= next = outcome >>= fun result => next (h result) := by
  cases outcome <;> rfl

/-- The operation gives a result with the property. -/
def Yields (outcome : Except Fault β) (holds : β → Prop) : Prop :=
  ∃ result, outcome = .ok result ∧ holds result

namespace Yields

theorem ok {result : β} {holds : β → Prop} (good : holds result) :
    Yields (.ok result) holds :=
  ⟨result, rfl, good⟩

theorem mono {outcome : Except Fault β} {holds also : β → Prop} (yields : Yields outcome holds)
    (implies : ∀ result, holds result → also result) : Yields outcome also := by
  obtain ⟨result, equal, good⟩ := yields
  exact ⟨result, equal, implies result good⟩

theorem bind {outcome : Except Fault β} {next : β → Except Fault γ} {first : β → Prop}
    {holds : γ → Prop} (yields : Yields outcome first)
    (continues : ∀ result, first result → Yields (next result) holds) :
    Yields (outcome >>= next) holds := by
  obtain ⟨result, rfl, good⟩ := yields
  exact continues result good

theorem map {outcome : Except Fault β} {h : β → γ} {first : β → Prop} {holds : γ → Prop}
    (yields : Yields outcome first) (continues : ∀ result, first result → holds (h result)) :
    Yields (outcome.map h) holds := by
  obtain ⟨result, rfl, good⟩ := yields
  exact ⟨h result, rfl, continues result good⟩

theorem and {outcome : Except Fault β} {holds also : β → Prop} (yields : Yields outcome holds)
    (more : Yields outcome also) : Yields outcome fun result => holds result ∧ also result := by
  obtain ⟨result, rfl, good⟩ := yields
  obtain ⟨_, same, fine⟩ := more
  cases same
  exact ⟨result, rfl, good, fine⟩

/-- A value that was computed from a result shows that there is one. -/
theorem of_map {outcome : Except Fault β} {h : β → γ} {value : γ}
    (computed : outcome.map h = .ok value) : Yields outcome fun result => h result = value := by
  cases outcome with
  | error fault => cases computed
  | ok result => exact .ok (Except.ok.inj computed)

theorem and_of_map {outcome : Except Fault β} {h : β → γ} {holds : β → Prop} {value : γ}
    (yields : Yields outcome holds) (computed : outcome.map h = .ok value) :
    Yields outcome fun result => holds result ∧ h result = value := by
  obtain ⟨result, rfl, good⟩ := yields
  exact ⟨result, rfl, good, Except.ok.inj computed⟩

theorem foldlM_of_mem {step : β → γ → Except Fault β} {invariant : β → Prop} {ops : List γ}
    (keeps : ∀ state, ∀ op ∈ ops, invariant state → Yields (step state op) invariant) {state : β}
    (holds : invariant state) : Yields (ops.foldlM step state) invariant := by
  induction ops generalizing state with
  | nil => exact .ok holds
  | cons op rest ih =>
    rw [List.foldlM_cons]
    refine (keeps state op List.mem_cons_self holds).bind fun _ next => ih ?_ next
    exact fun state op member => keeps state op (List.mem_cons_of_mem _ member)

theorem foldlM {step : β → γ → Except Fault β} {invariant : β → Prop}
    (keeps : ∀ state op, invariant state → Yields (step state op) invariant) (ops : List γ)
    {state : β} (holds : invariant state) : Yields (ops.foldlM step state) invariant :=
  foldlM_of_mem (fun state op _ => keeps state op) holds

end Yields

/-- The operation gives a result with the property, or it meets one of these faults. -/
def Gives (faults : Fault → Prop) (outcome : Except Fault β) (holds : β → Prop) : Prop :=
  match outcome with
  | .error fault => faults fault
  | .ok result => holds result

/-- Some number was too large for a word. -/
def Overflow (fault : Fault) : Prop :=
  ∃ number, fault = .overflow number

/-- Some number was too large for a word, and it did not lie beyond the bound. -/
def Exceeds (bound : Nat) (fault : Fault) : Prop :=
  Overflow fault ∧ UInt64.size ≤ bound

theorem Exceeds.mono {bound more : Nat} {fault : Fault} (exceeds : Exceeds bound fault)
    (order : bound ≤ more) : Exceeds more fault :=
  ⟨exceeds.1, Nat.le_trans exceeds.2 order⟩

/-- As far as these faults go, any number up to the bound may be too large for a word. -/
def Allows (faults : Fault → Prop) (bound : Nat) : Prop :=
  ∀ fault, Exceeds bound fault → faults fault

namespace Allows

variable {faults : Fault → Prop} {bound : Nat}

theorem overflow : Allows Overflow bound :=
  fun _ => And.left

theorem exceeds : Allows (Exceeds bound) bound :=
  fun _ => id

theorem of_le {more : Nat} (allows : Allows faults more) (order : bound ≤ more) :
    Allows faults bound :=
  fun _ exceeds => allows _ (exceeds.mono order)

end Allows

theorem Yields.gives {outcome : Except Fault β} {holds : β → Prop}
    (yields : Yields outcome holds) (faults : Fault → Prop) : Gives faults outcome holds := by
  obtain ⟨result, rfl, good⟩ := yields
  exact good

namespace Gives

theorem trivially (outcome : Except Fault β) : Gives (fun _ => True) outcome fun _ => True := by
  cases outcome <;> exact trivial

theorem ok {faults : Fault → Prop} {result : β} {holds : β → Prop} (good : holds result) :
    Gives faults (.ok result) holds := good

variable {faults : Fault → Prop} {outcome : Except Fault β} {holds : β → Prop}
  (gives : Gives faults outcome holds)
include gives

theorem mono {also : β → Prop} (implies : ∀ result, holds result → also result) :
    Gives faults outcome also := by
  cases outcome with
  | error fault => exact gives
  | ok result => exact implies result gives

theorem weaken {others : Fault → Prop} (implies : ∀ fault, faults fault → others fault) :
    Gives others outcome holds := by
  cases outcome with
  | error fault => exact implies fault gives
  | ok result => exact gives

theorem bind {next : β → Except Fault γ} {later : γ → Prop}
    (continues : ∀ result, holds result → Gives faults (next result) later) :
    Gives faults (outcome >>= next) later := by
  cases outcome with
  | error fault => exact gives
  | ok result => exact continues result gives

theorem map {h : β → γ} {later : γ → Prop} (continues : ∀ result, holds result → later (h result)) :
    Gives faults (outcome.map h) later := by
  cases outcome with
  | error fault => exact gives
  | ok result => exact continues result gives

theorem and {others : Fault → Prop} {also : β → Prop} (more : Gives others outcome also) :
    Gives faults outcome fun result => holds result ∧ also result := by
  cases outcome with
  | error fault => exact gives
  | ok result => exact ⟨gives, more⟩

theorem of_eq_ok {result : β} (given : outcome = .ok result) : holds result := by
  subst given
  exact gives

theorem and_eq : Gives faults outcome fun result => outcome = .ok result ∧ holds result := by
  cases outcome with
  | error fault => exact gives
  | ok result => exact ⟨rfl, gives⟩

theorem and_of_map {h : β → γ} {value : γ} (computed : outcome.map h = .ok value) :
    Gives faults outcome fun result => holds result ∧ h result = value := by
  cases outcome with
  | error fault => cases computed
  | ok result => exact ⟨gives, Except.ok.inj computed⟩

omit gives in
theorem of_map {h : β → γ} {later : γ → Prop} (mapped : Gives faults (outcome.map h) later) :
    Gives faults outcome fun result => later (h result) := by
  cases outcome with
  | error fault => exact mapped
  | ok result => exact mapped

/-- Where none of the faults is possible, there is a result. -/
theorem yields (sure : ∀ fault, ¬ faults fault) : Yields outcome holds := by
  cases outcome with
  | error fault => exact absurd gives (sure fault)
  | ok result => exact .ok gives

theorem yields_of_isOk (ok : outcome.isOk = true) : Yields outcome holds := by
  cases outcome with
  | error fault => cases ok
  | ok result => exact .ok gives

omit gives in
theorem yields_of_lt {bound : Nat} (awaits : Gives (Exceeds bound) outcome holds)
    (fits : bound < UInt64.size) : Yields outcome holds :=
  awaits.yields fun _ exceeds => Nat.not_le.2 fits exceeds.2

omit gives in
/-- What each step of a run keeps, the run keeps, unless it meets a fault. -/
theorem foldlM_of_mem {step : β → γ → Except Fault β} {invariant : β → Prop} {ops : List γ}
    (keeps : ∀ state, ∀ op ∈ ops, invariant state → Gives faults (step state op) invariant)
    {state : β} (holds : invariant state) : Gives faults (ops.foldlM step state) invariant := by
  induction ops generalizing state with
  | nil => exact holds
  | cons op rest ih =>
    rw [List.foldlM_cons]
    refine (keeps state op List.mem_cons_self holds).bind fun _ next => ih ?_ next
    exact fun state op member => keeps state op (List.mem_cons_of_mem _ member)

omit gives in
/-- What one step keeps, a run keeps, unless it meets a fault. -/
theorem foldlM {step : β → γ → Except Fault β} {invariant : β → Prop}
    (keeps : ∀ state op, invariant state → Gives faults (step state op) invariant) (ops : List γ)
    {state : β} (holds : invariant state) : Gives faults (ops.foldlM step state) invariant :=
  foldlM_of_mem (fun state op _ => keeps state op) holds

end Gives

variable {number a b : Nat} {oversize : UInt64.size ≤ number → Oversize}

theorem toWord_of_lt (fits : number < UInt64.size) : toWord number oversize = .ok number :=
  dif_neg (Nat.not_le.2 fits)

theorem toWord_exceeds (number : Nat) (oversize : UInt64.size ≤ number → Oversize) :
    Gives (Exceeds number) (toWord number oversize) fun word => word = number := by
  unfold toWord
  split
  case isTrue large => exact ⟨⟨oversize large, rfl⟩, large⟩
  case isFalse => exact .ok rfl

theorem toWord_gives (number : Nat) (oversize : UInt64.size ≤ number → Oversize) :
    Gives Overflow (toWord number oversize) fun word => word = number :=
  (toWord_exceeds number oversize).weaken Allows.overflow

theorem addWords_gives (a b : Nat) : Gives Overflow (addWords a b) fun word => word = a + b :=
  toWord_gives _ _

theorem Clock.edge?_exceeds {period : Nat} (pos : 0 < period) (now cycles : Nat) :
    Gives (Exceeds (edge now cycles period)) (edge? now cycles period)
      fun tick => tick = edge now cycles period := by
  simp only [edge?, Nat.ne_of_gt pos, ↓reduceIte]
  exact toWord_exceeds _ _

theorem Clock.edge?_gives {period : Nat} (pos : 0 < period) (now cycles : Nat) :
    Gives Overflow (edge? now cycles period) fun tick => tick = edge now cycles period :=
  (edge?_exceeds pos now cycles).weaken Allows.overflow

end GatedMemory
