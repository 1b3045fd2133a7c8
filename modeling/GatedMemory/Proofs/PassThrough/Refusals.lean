import GatedMemory.Proofs.PassThrough
import GatedMemory.Proofs.Refusals

set_option autoImplicit false

namespace GatedMemory

namespace Passage

variable {config : BenchmarkConfig} {rig next : Passage}

/-- The requester holds the request that memory has turned down and not taken since, it waits
exactly if memory owes it a retry, and both have counted the same refusals. -/
structure Tallied (config : BenchmarkConfig) (rig : Passage) : Prop where
  regular : rig.requester.peer.Regular
  workload : rig.requester.peer.workload = config.workload
  count : rig.requester.peer.stats.issued =
    rig.requester.peer.stats.responses + rig.memory.peer.serving.length
  refusals : rig.memory.Refusals rig.requester.peer.stats.issued rig.requester.peer.held
  owed : rig.memory.peer.owesRetry = rig.requester.peer.awaitsRetry
  waits : rig.requester.peer.awaitsRetry = true → rig.requester.peer.held.isSome = true
  rejected : rig.requester.peer.stats.rejected = rig.memory.peer.rejections
  retried : rig.requester.peer.stats.rejected =
    rig.requester.peer.stats.retriesReceived + rig.requester.peer.awaitsRetry.toNat

/-- A request is held only while the requester waits; so it is between any two ticks. -/
def Settled (rig : Passage) : Prop :=
  rig.requester.peer.held.isSome = true → rig.requester.peer.awaitsRetry = true

theorem Serves.settled (serves : rig.Serves next) (settled : rig.Settled) : next.Settled := by
  cases serves <;> exact settled

/-- Once the retry is passed on, nothing but a full memory keeps back a request that is held. -/
theorem Retries.able (retries : rig.Retries next) (settled : rig.Settled) :
    next.requester.peer.held.isSome = true →
      next.requester.peer.awaitsRetry = true ∨ next.memory.peer.hasRoom = true := by
  cases retries with
  | idle => exact fun held => .inl (settled held)
  | passed _ room => exact fun _ => .inr room

/-- Memory's turn to send leaves alone which requests it has turned down. -/
theorem Serves.log_eq (serves : rig.Serves next) : next.memory.log = rig.memory.log := by
  cases serves <;> rfl

namespace Tallied

variable (tallied : Tallied config rig)
include tallied

theorem serve (serves : rig.Serves next) : Tallied config next := by
  cases serves with
  | idle => exact tallied
  | @passed due answer rest _ serving =>
    have count := tallied.count
    rw [serving, List.length_cons] at count
    exact { tallied with
      regular := { tallied.regular with }
      count := by
        change rig.requester.peer.stats.issued =
          rig.requester.peer.stats.responses + 1 + rest.length
        omega
      refusals := tallied.refusals.congr rfl rfl }

theorem retry (retries : rig.Retries next) : Tallied config next := by
  cases retries with
  | idle => exact tallied
  | passed owed =>
    have awaits : rig.requester.peer.awaitsRetry = true := tallied.owed ▸ owed
    have retried := tallied.retried
    rw [awaits, Bool.toNat_true] at retried
    exact { tallied with
      regular := { tallied.regular with }
      refusals := tallied.refusals.congr rfl rfl
      owed := rfl
      waits := nofun
      retried := retried }

theorem request (able : rig.requester.peer.held.isSome = true →
      rig.requester.peer.awaitsRetry = true ∨ rig.memory.peer.hasRoom = true)
    (issues : rig.Issues next) : Tallied config next ∧ next.Settled := by
  have count := tallied.count
  have owed := tallied.owed
  have retried := tallied.retried
  cases issues with
  | idle quiet =>
    refine ⟨tallied, fun held => ?_⟩
    rcases quiet with awaits | ⟨none, -⟩
    · exact awaits
    · rw [none] at held
      cases held
  | @accepted packet answer source offers room answered =>
    obtain ⟨held, free, stats, workload⟩ := offers.after
    have same : source.awaitsRetry = rig.requester.peer.awaitsRetry := free.trans offers.free.symm
    refine ⟨{
      regular := offers.accepted_regular tallied.regular
      workload := workload.trans tallied.workload
      count := ?_
      refusals := ?_
      owed := owed.trans same.symm
      waits := fun awaits => absurd (free.symm.trans awaits) Bool.false_ne_true
      rejected := ?_
      retried := ?_ }, fun waiting => ?_⟩
    · simp only [RequestGenerator.accepted, RecordedMemory.accepting, Recorded.note, stats,
        List.length_append, List.length_singleton]
      omega
    · simp only [RequestGenerator.accepted, stats, held]
      exact tallied.refusals.accept
    · simp only [RequestGenerator.accepted, stats]
      exact tallied.rejected
    · simp only [RequestGenerator.accepted, stats, same]
      exact retried
    · simp only [RequestGenerator.accepted, held] at waiting
      cases waiting
  | @refused packet source offers full =>
    obtain ⟨-, -, stats, workload⟩ := offers.after
    -- a request that was held would find room
    have empty : rig.requester.peer.held = none := by
      refine Option.not_isSome_iff_eq_none.1 fun held => ?_
      rcases able held with awaits | room
      · exact Bool.false_ne_true (offers.free.symm.trans awaits)
      · exact Bool.false_ne_true (full.symm.trans room)
    have issued := tallied.regular.issued
    rw [empty, Option.toList_none, List.length_nil, Nat.add_zero] at issued
    obtain ⟨-, number, -⟩ := offers.created_of_empty empty
    refine ⟨{
      regular := offers.rejected_regular tallied.regular
      workload := workload.trans tallied.workload
      count := ?_
      refusals := ?_
      owed := rfl
      waits := fun _ => rfl
      rejected := ?_
      retried := ?_ }, fun _ => rfl⟩
    · simp only [RequestGenerator.rejected, RecordedMemory.refusing, Recorded.note, stats]
      exact count
    · simp only [RequestGenerator.rejected, stats]
      exact tallied.refusals.refuse empty (number.trans issued)
    · simp only [RequestGenerator.rejected, stats]
      exact congrArg Nat.succ tallied.rejected
    · rw [offers.free, Bool.toNat_false, Nat.add_zero] at retried
      simp only [RequestGenerator.rejected, stats, Bool.toNat_true]
      exact congrArg Nat.succ retried

/-- When memory owes a retry, the requester holds what memory has turned down last. -/
theorem held_of_owed (owed : rig.memory.peer.owesRetry = true) : ∃ packet,
    rig.requester.peer.held = some packet ∧ rig.memory.refused.getLast? = some packet := by
  obtain ⟨packet, held⟩ := Option.isSome_iff_exists.1 (tallied.waits (tallied.owed ▸ owed))
  exact ⟨packet, held, tallied.refusals.getLast? held⟩

/-- Once the requester waits for nothing, no request is held and no retry is owed. -/
theorem drained (finished : rig.requester.peer.isFinished = true) :
    rig.requester.peer.held = none ∧ rig.requester.peer.awaitsRetry = false := by
  have issued := tallied.regular.issued
  have bounded := tallied.regular.bounded
  have count := tallied.count
  rw [RequestGenerator.isFinished_iff] at finished
  have empty : rig.requester.peer.held = none :=
    Option.toList_eq_nil_iff.1 (List.eq_nil_of_length_eq_zero (by omega))
  refine ⟨empty, Bool.eq_false_iff.2 fun awaits => ?_⟩
  have held := tallied.waits awaits
  rw [empty] at held
  cases held

end Tallied

/-- A retry that memory settles brings it the request that is held, and it takes it. -/
theorem Retries.taken {retried issued : Passage} {packet : Packet} (retries : rig.Retries retried)
    (owed : rig.memory.peer.owesRetry = true) (room : rig.memory.peer.hasRoom = true)
    (held : rig.requester.peer.held = some packet) (issues : retried.Issues issued) :
    issued.memory.log = rig.memory.log ++ [.offered rig.now packet .accepted] := by
  cases retries with
  | idle quiet =>
    rcases quiet with none | full
    · exact absurd (none.symm.trans owed) Bool.false_ne_true
    · exact absurd (full.symm.trans room) Bool.false_ne_true
  | passed =>
    cases issues with
    | idle quiet =>
      rcases quiet with awaits | ⟨none, -⟩
      · cases awaits
      · exact absurd (held.symm.trans none) nofun
    | accepted offers =>
      rw [offers.eq_of_held held]
      rfl
    | refused _ full => exact absurd (full.symm.trans room) Bool.false_ne_true

theorem Serves.isFinished (serves : rig.Serves next)
    (finished : rig.requester.peer.isFinished = true) :
    next.requester.peer.isFinished = true := by
  cases serves with
  | idle => exact finished
  | passed =>
    rw [RequestGenerator.isFinished_iff] at finished ⊢
    exact Nat.le_succ_of_le finished

theorem Retries.isFinished (retries : rig.Retries next)
    (finished : rig.requester.peer.isFinished = true) :
    next.requester.peer.isFinished = true := by
  cases retries <;> exact finished

theorem Issues.isFinished (issues : rig.Issues next)
    (finished : rig.requester.peer.isFinished = true) :
    next.requester.peer.isFinished = true := by
  cases issues with
  | idle => exact finished
  | accepted offers =>
    obtain ⟨-, -, stats, workload⟩ := offers.after
    simp only [RequestGenerator.isFinished, RequestGenerator.accepted, stats, workload]
    exact finished
  | refused offers =>
    obtain ⟨-, -, stats, workload⟩ := offers.after
    simp only [RequestGenerator.isFinished, RequestGenerator.rejected, stats, workload]
    exact finished

end Passage

namespace Simulation

variable {config : BenchmarkConfig}
  {sim : Simulation PassThrough RecordedRequester RecordedMemory Empty}

/-- Between two ticks. Once the run is over, the requester waits for nothing. -/
structure InAccord (config : BenchmarkConfig)
    (sim : Simulation PassThrough RecordedRequester RecordedMemory Empty) : Prop where
  tallied : Passage.Tallied config sim.rig
  settled : Passage.Settled sim.rig
  finished : sim.finishedAt.isSome = true → sim.rig.requester.peer.isFinished = true

theorem InAccord.finishOrContinue (accord : sim.InAccord config) :
    Gives Overflow sim.finishOrContinue (InAccord config) := by
  apply sim.finishOrContinue_ends.mono
  intro next ends
  cases ends with
  | finished finished =>
    exact { accord with tallied := { accord.tallied with }, finished := fun _ => finished }
  | waits => exact { accord with tallied := { accord.tallied with } }
  | busy => exact accord

theorem preserves_inAccord (config : BenchmarkConfig) : Preserves Overflow (InAccord config) := by
  intro sim entry rest accord pending
  cases entry.payload with
  | component event => cases event
  | clock =>
    let before : Passage := { sim.rig with events := sim.rig.events.after entry rest }
    have fired : Passage.Tallied config before := { accord.tallied with }
    apply handle_gives
    apply tick_gives
    apply ((Passage.turns_of_regular fired.regular).weaken Allows.overflow).mono
    rintro ⟨_, issued⟩ ⟨rfl, served, retried, serves, retries, issues⟩
    have able := retries.able (serves.settled accord.settled)
    obtain ⟨tallied, settled⟩ := ((fired.serve serves).retry retries).request able issues
    have after : InAccord config { sim with rig := issued, clock := sim.clock.occurred } := {
      tallied, settled
      finished := fun ended =>
        issues.isFinished (retries.isFinished (serves.isFinished (accord.finished ended))) }
    exact ⟨rfl, after.finishOrContinue.mono fun next kept => ⟨rfl, kept⟩⟩

namespace InAccord

variable (accord : sim.InAccord config)
include accord

theorem honoursRetry : sim.HonoursRetry := by
  intro entry rest served pending _ serve settles
  let before : Passage := { sim.rig with events := sim.rig.events.after entry rest }
  have fired : Passage.Tallied config before := { accord.tallied with }
  have serves : before.Serves served :=
    (Passage.serveResponse_serves before : Gives Overflow _ _).of_eq_ok serve
  obtain ⟨owed, room⟩ := RecordedMemory.settleRetry_fst_iff.1 settles
  have between := fired.serve serves
  obtain ⟨packet, held, last⟩ := between.held_of_owed owed
  rw [Recorded.refused, serves.log_eq] at last
  refine ⟨packet, last, ?_⟩
  apply tick_log
  rw [turns, serve, ok_bind]
  have retries := Passage.passRetry_retries served
  have issuing := Passage.issueRequest_issues (retries.regular between.regular)
  apply (issuing.weaken Allows.overflow).mono
  rintro ⟨_, issued⟩ ⟨rfl, issues⟩
  have log := retries.taken owed room held issues
  have now : served.now = entry.tick := congrArg EventQueue.now serves.events
  rw [now, serves.log_eq] at log
  exact ⟨rfl, log, rfl⟩

theorem heeds : sim.Heeds config where
  honours := accord.honoursRetry
  counted := accord.tallied.refusals.counted
  once := accord.tallied.refusals.once
  bounded := by
    apply accord.tallied.refusals.rejections_le
    rw [← accord.tallied.workload, ← accord.tallied.regular.issued]
    exact accord.tallied.regular.bounded

/-- At the end memory has turned down as many requests as it has sent retries. -/
theorem summary_eq {summary : RunSummary} (told : sim.summary = .ok summary) :
    summary.requester.rejected = summary.memoryRejections ∧
      summary.memoryRejections = summary.requester.retriesReceived := by
  cases ended : sim.finishedAt with
  | none =>
    simp only [Simulation.summary, ended] at told
    cases told
  | some ticks =>
    simp only [Simulation.summary, ended] at told
    cases told
    obtain ⟨-, free⟩ := accord.tallied.drained (accord.finished (ended ▸ rfl))
    have retried := accord.tallied.retried
    rw [free, Bool.toNat_false, Nat.add_zero] at retried
    exact ⟨accord.tallied.rejected, accord.tallied.rejected.symm.trans retried⟩

end InAccord

theorem begun_inAccord (line : 0 < config.workload.lineSize) : InAccord config
    (begun (.assemble {} (Recorded.blank (RequestGenerator.fresh config.workload))
      (Recorded.blank (MemoryModel.idle config.memory)))) where
  tallied := {
    regular := { RequestGenerator.fresh_regular line with }
    workload := rfl
    count := rfl
    refusals := RecordedMemory.blank_refusals config.memory
    owed := rfl
    waits := nofun
    rejected := rfl
    retried := rfl }
  settled := nofun
  finished := nofun

end Simulation

end GatedMemory
