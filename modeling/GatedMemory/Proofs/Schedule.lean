import GatedMemory.Proofs.Clocked
import GatedMemory.Proofs.Rounds

set_option autoImplicit false

namespace GatedMemory

namespace BenchmarkConfig

variable {config : BenchmarkConfig} {number tick : Nat}

/-- Ticks from memory taking a request to the first tick of the clock that can answer it. -/
def turnaround (config : BenchmarkConfig) : Nat :=
  max config.memory.accessLatency 1

/-- Requests that memory takes in successive ticks, before the next has to wait for an answer. -/
def batch (config : BenchmarkConfig) : Nat :=
  min (min config.workload.maxOutstanding config.memory.maxOutstanding) config.turnaround

/-- The first tick at which memory can take the request with this number. -/
def acceptTick (config : BenchmarkConfig) (number : Nat) : Nat :=
  number / config.batch * config.turnaround + number % config.batch

/-- The first tick at which the request with this number can be answered. -/
def answerTick (config : BenchmarkConfig) (number : Nat) : Nat :=
  config.acceptTick number + config.turnaround

theorem batch_le_turnaround : config.batch ≤ config.turnaround :=
  Nat.min_le_right _ _

theorem Positive.batch (positive : config.Positive) : 0 < config.batch := by
  have window := positive.window
  have outstanding := positive.outstanding
  unfold BenchmarkConfig.batch turnaround
  omega

/-- A batch goes out when the one before it is answered. -/
theorem Positive.acceptTick_add_batch (positive : config.Positive) (number : Nat) :
    config.acceptTick (number + config.batch) = config.answerTick number :=
  roundTick_add_batch positive.batch number

theorem Positive.acceptTick_lt_succ (positive : config.Positive) (number : Nat) :
    config.acceptTick number < config.acceptTick (number + 1) :=
  roundTick_lt_succ positive.batch batch_le_turnaround number

theorem Positive.strictMono_acceptTick (positive : config.Positive) :
    StrictMono config.acceptTick :=
  strictMono_roundTick positive.batch batch_le_turnaround

theorem Positive.answerTick_lt_succ (positive : config.Positive) (number : Nat) :
    config.answerTick number < config.answerTick (number + 1) :=
  Nat.add_lt_add_right (positive.acceptTick_lt_succ number) _

theorem Positive.strictMono_answerTick (positive : config.Positive) :
    StrictMono config.answerTick :=
  strictMono_nat_of_lt_succ positive.answerTick_lt_succ

theorem Positive.acceptTick_succ_le (positive : config.Positive) (number : Nat) :
    config.acceptTick (number + 1) ≤ config.answerTick number :=
  roundTick_succ_le positive.batch batch_le_turnaround number

/-- Without waits for answers, a request is taken in each tick. -/
theorem acceptTick_of_batch_eq (full : config.batch = config.turnaround) (number : Nat) :
    config.acceptTick number = number := by
  rw [acceptTick, full]
  exact roundTick_self number

/-- A request is taken as soon as its turn has come and the batch before it is answered. -/
theorem Positive.acceptTick_le (positive : config.Positive) (turn : number ≤ tick)
    (earlier : config.batch < config.turnaround → config.batch ≤ number →
      config.answerTick (number - config.batch) ≤ tick) : config.acceptTick number ≤ tick :=
  roundTick_le positive.batch batch_le_turnaround turn earlier

/-- Memory answers a request once its latency has passed, but never in the tick that took it. -/
theorem Positive.answerTick_le (positive : config.Positive)
    (served : config.acceptTick number + config.memory.accessLatency ≤ tick)
    (turn : number < tick) : config.answerTick number ≤ tick := by
  by_cases instant : config.memory.accessLatency = 0
  · have turnaround : config.turnaround = 1 := by
      rw [BenchmarkConfig.turnaround, instant, Nat.zero_max]
    have short : config.batch ≤ config.turnaround := batch_le_turnaround
    have full : config.batch = config.turnaround := by
      have some_batch := positive.batch
      omega
    rw [answerTick, acceptTick_of_batch_eq full, turnaround]
    exact turn
  · have turnaround : config.turnaround = config.memory.accessLatency := by
      unfold BenchmarkConfig.turnaround
      omega
    rw [answerTick, turnaround]
    exact served

end BenchmarkConfig

namespace RequestGenerator

/-- No more requests than ticks before `clock` were created, and no more than a window ahead of the
responses. -/
structure Creates (config : BenchmarkConfig) (source : RequestGenerator) (clock : Nat) : Prop where
  workload : source.workload = config.workload
  created : source.created ≤ clock
  window : source.created ≤ source.stats.responses + config.workload.maxOutstanding

namespace Creates

variable {config : BenchmarkConfig} {source source' : RequestGenerator} {clock now : Nat}
  {packet : Packet} (creates : source.Creates config clock)
include creates

theorem wait : source.Creates config (clock + 1) :=
  { creates with created := Nat.le_succ_of_le creates.created }

theorem receive (packet : Packet) (now : Nat) : (source.offer packet now).2.Creates config clock :=
  { creates with window := Nat.le_trans creates.window (Nat.add_le_add_right (Nat.le_succ _) _) }

theorem offer (regular : source.Regular) (offers : source.Offers now packet source') :
    source'.Creates config (clock + 1) := by
  cases offers with
  | held => exact { creates.wait with }
  | created free empty more =>
    have issued := regular.issued
    have ahead := (canCreate_iff.1 more).2
    rw [empty, Option.toList_none, List.length_nil] at issued
    rw [inFlight, creates.workload] at ahead
    have window := creates.window
    exact {
      workload := creates.workload
      created := Nat.succ_le_succ creates.created
      window := by
        change source.created + 1 ≤ source.stats.responses + config.workload.maxOutstanding
        omega }

end Creates

end RequestGenerator

namespace RecordedMemory

/-- So many responses have left memory before the tick `clock`, and neither they nor those in
service are ahead of the schedule. -/
structure Lags (config : BenchmarkConfig) (memory : RecordedMemory) (sent clock : Nat) : Prop where
  configured : memory.peer.config = config.memory
  answered : ∀ number < sent, config.answerTick number < clock
  busy : memory.peer.serving ≠ [] → sent < clock
  served : ∀ place entry, memory.peer.serving[place]? = some entry →
    config.acceptTick (sent + place) + config.memory.accessLatency ≤ entry.1

theorem idle_lags (config : BenchmarkConfig) :
    Lags config (.blank (MemoryModel.idle config.memory)) 0 0 where
  configured := rfl
  answered := nofun
  busy idle := absurd rfl idle
  served := nofun

namespace Lags

variable {config : BenchmarkConfig} {memory memory' : RecordedMemory} {sent clock due : Nat}
  {answer : Packet} {rest : List (Nat × Packet)} (lags : memory.Lags config sent clock)
include lags

theorem congr (configured : memory'.peer.config = memory.peer.config)
    (serving : memory'.peer.serving = memory.peer.serving) : memory'.Lags config sent clock where
  configured := configured.trans lags.configured
  answered := lags.answered
  busy := serving ▸ lags.busy
  served := serving ▸ lags.served

theorem wait : memory.Lags config sent (clock + 1) where
  configured := lags.configured
  answered number before := Nat.lt_succ_of_lt (lags.answered number before)
  busy busy := Nat.lt_succ_of_lt (lags.busy busy)
  served := lags.served

theorem accept (positive : config.Positive) {now : Nat} (room : memory.peer.hasRoom = true)
    (window : memory.peer.serving.length < config.workload.maxOutstanding)
    (turn : sent + memory.peer.serving.length < clock) (soon : clock ≤ now + 1)
    (packet answer : Packet) : (memory.accepting packet answer now).Lags config sent clock where
  configured := lags.configured
  answered := lags.answered
  busy _ := Nat.lt_of_le_of_lt (Nat.le_add_right _ _) turn
  served place entry found := by
    rw [hasRoom_iff, lags.configured] at room
    have accepted : config.acceptTick (sent + memory.peer.serving.length) ≤ now := by
      apply positive.acceptTick_le
      · omega
      · intro shorter some_batch
        -- fewer than a batch are in service, so this one has left
        have answered := lags.answered
          (sent + memory.peer.serving.length - config.batch) (by
            unfold BenchmarkConfig.batch at shorter some_batch ⊢
            omega)
        omega
    simp only [accepting, Recorded.note] at found
    rcases Nat.lt_or_ge place memory.peer.serving.length with old | new
    · rw [List.getElem?_append_left old] at found
      exact lags.served place entry found
    · rw [List.getElem?_append_right new, List.getElem?_singleton] at found
      split at found
      case isTrue zero =>
        obtain rfl := Option.some.inj found
        obtain rfl : place = memory.peer.serving.length := by omega
        rw [lags.configured]
        exact Nat.add_le_add_right accepted _
      case isFalse => cases found

theorem send (positive : config.Positive) (serving : memory.peer.serving = (due, answer) :: rest)
    (ready : due ≤ clock) : (memory.withServing rest).Lags config (sent + 1) (clock + 1) where
  configured := lags.configured
  answered number before := by
    have turn : sent < clock := lags.busy (serving ▸ List.cons_ne_nil _ _)
    rcases Nat.lt_succ_iff_lt_or_eq.1 before with before | rfl
    · exact Nat.lt_succ_of_lt (lags.answered number before)
    · have served := lags.served 0 (due, answer) (by rw [serving]; rfl)
      exact Nat.lt_succ_of_le
        (positive.answerTick_le (Nat.le_trans served ready) turn)
  busy _ := Nat.succ_lt_succ (lags.busy (serving ▸ List.cons_ne_nil _ _))
  served place entry found := by
    have served := lags.served (place + 1) entry (by rw [serving]; exact found)
    rwa [Nat.add_assoc, Nat.add_comm 1 place]

theorem putBack (serving : memory.peer.serving = (due, answer) :: rest) (ready : due ≤ clock) :
    ((memory.withServing rest).puttingBack answer clock).Lags config sent (clock + 1) where
  configured := lags.configured
  answered number before := Nat.lt_succ_of_lt (lags.answered number before)
  busy _ := Nat.lt_succ_of_lt (lags.busy (serving ▸ List.cons_ne_nil _ _))
  served place entry found := by
    cases place with
    | zero =>
      obtain rfl := Option.some.inj found
      exact Nat.le_trans (lags.served 0 (due, answer) (by rw [serving]; rfl)) ready
    | succ place => exact lags.served (place + 1) entry (by rw [serving]; exact found)

end Lags

end RecordedMemory

end GatedMemory
