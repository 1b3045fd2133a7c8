import GatedMemory.Peer.Scripted
import GatedMemory.Proofs.Bookings
import GatedMemory.Proofs.Budget

set_option autoImplicit false

namespace GatedMemory

variable {ρ μ : Type}

/-- What a link of this configuration schedules for a packet: its arrival at the other end. -/
def LinkConfig.Conveys (config : LinkConfig) (booking : Booking FixedLatencyLink LinkEvent) :
    Prop :=
  match booking.call with
  | .request packet => booking.Due config.latency config.clockPeriod (.requestArrives packet)
  | .response packet => booking.Due config.latency config.clockPeriod (.responseArrives packet)
  | _ => False

/-- Each packet arrives in so many cycles, and none before one that was accepted earlier, in
whichever direction they travel. -/
structure LinkConfig.ConveysInOrder (config : LinkConfig)
    (bookings : List (Booking FixedLatencyLink LinkEvent)) : Prop where
  each : ∀ booking ∈ bookings, config.Conveys booking
  order : bookings.Pairwise Booking.DueInOrder

namespace FixedLatencyLink

variable {config : LinkConfig}

/-- A packet that enters the link is due when it arrives. -/
theorem due_of_carrying {rig : Rig FixedLatencyLink ρ μ LinkEvent}
    (same : rig.component.config = config) (sound : rig.events.Sound) (call : Call LinkEvent)
    (component : FixedLatencyLink) (event : LinkEvent) :
    Booking.Due { call, tick := rig.now, component
                  scheduled := rig.events.entered (carrying rig event).events }
      config.latency config.clockPeriod event := by
  refine ⟨rig.events.nextId, ?_⟩
  simp only [carrying, EventQueue.entered_scheduled sound, arrivalTick, same]
  rfl

theorem books (period : 0 < config.clockPeriod) :
    Books (fun link : FixedLatencyLink => link.config = config) config.Conveys := by
  constructor
  intro ρ μ _ _ rig call same sound
  have ticks : rig.component.Ticks := by
    rw [Ticks, same]
    exact period
  have entering : ∀ event : LinkEvent, rig.events.Continues (carrying rig event).events :=
    fun event => EventQueue.continues_scheduled sound (Clock.le_edge ticks) _ event
  cases call with
  | request packet =>
    apply ((request_gives rig ticks packet).weaken Allows.overflow).bind
    rintro _ rfl
    exact .ok ⟨same, entering _, fun _ => due_of_carrying same sound _ _ _⟩
  | response packet =>
    apply ((response_gives rig ticks packet).weaken Allows.overflow).bind
    rintro _ rfl
    exact .ok ⟨same, entering _, fun _ => due_of_carrying same sound _ _ _⟩
  | event event =>
    obtain ⟨kept, events, -⟩ := handle_frame event rig
    exact .ok (.idle (kept.trans same) (events.symm ▸ sound.continues))
  | start => exact .ok (.idle same sound.continues)
  | stop => exact .ok (.idle same sound.continues)
  | requestRetry => exact .ok (.idle same sound.continues)
  | responseRetry => exact .ok (.idle same sound.continues)
  | rangeChange => exact .ok (.idle same sound.continues)
  | functional packet => exact .ok (.idle same sound.continues)
  | atomic packet => exact .ok (.idle same sound.continues)

end FixedLatencyLink

theorem LinkConfig.Conveys.due {config : LinkConfig} {booking : Booking FixedLatencyLink LinkEvent}
    (conveys : config.Conveys booking) :
    ∃ event, booking.Due config.latency config.clockPeriod event := by
  unfold LinkConfig.Conveys at conveys
  split at conveys
  · exact ⟨_, conveys⟩
  · exact ⟨_, conveys⟩
  · exact conveys.elim

/-- All packets take as many cycles. -/
theorem Register.Orderly.conveysInOrder {able : FixedLatencyLink → Prop} {config : LinkConfig}
    {register : Register FixedLatencyLink LinkEvent ρ μ}
    (orderly : Orderly able config.Conveys register) :
    config.ConveysInOrder register.bookings where
  each := orderly.lawful
  order := by
    apply orderly.order.imp_of_mem
    intro earlier later early late order
    obtain ⟨first, due⟩ := (orderly.lawful earlier early).due
    obtain ⟨second, due'⟩ := (orderly.lawful later late).due
    exact order.due due due'

/-- What a module of this configuration schedules for a packet: nothing for a response, and for a
request the end of the check of the slot under which it has joined the queue. -/
def SecureModuleConfig.Checks (config : SecureModuleConfig)
    (booking : Booking SecureModule SecureEvent) : Prop :=
  match booking.call with
  | .request packet => ∃ cycles slot,
    config.holdCycles packet.command.kind = some cycles ∧
    booking.component.gate.requests.items.getLast? = some ⟨packet, slot⟩ ∧
    booking.Due cycles config.clockPeriod (.checkOver slot)
  | .response _ => booking.scheduled = []
  | _ => False

/-- Both packets are requests, of one kind. -/
def Booking.Alike (earlier later : Booking SecureModule SecureEvent) : Prop :=
  ∃ first second, earlier.call = .request first ∧ later.call = .request second ∧
    first.command.kind = second.command.kind

/-- Each request is checked for as many cycles as its kind takes, and the check of none ends before
that of one of its kind that was accepted earlier. -/
structure SecureModuleConfig.ChecksInOrder (config : SecureModuleConfig)
    (bookings : List (Booking SecureModule SecureEvent)) : Prop where
  each : ∀ booking ∈ bookings, config.Checks booking
  order : bookings.Pairwise fun earlier later => earlier.Alike later → earlier.DueInOrder later

namespace SecureModule

variable {config : SecureModuleConfig}

theorem scheduleEdge_continues {rig : Rig SecureModule ρ μ SecureEvent}
    (ticks : rig.component.Ticks) (sound : rig.events.Sound) :
    Gives Overflow (scheduleEdge rig) fun next =>
      next.component.config = rig.component.config ∧ rig.events.Continues next.events := by
  cases free : rig.component.driver.canSchedule with
  | true =>
    apply (scheduleEdge_of_free ticks free).mono
    rintro _ rfl
    exact ⟨rfl, EventQueue.continues_scheduled sound (Clock.le_edge ticks) _ _⟩
  | false =>
    apply (scheduleEdge_of_busy ticks free).mono
    rintro _ rfl
    exact ⟨rfl, sound.continues⟩

theorem submit_edge [ResponseSink ρ] [RequestSink μ] {rig : Rig SecureModule ρ μ SecureEvent}
    (same : rig.component.config = config) (ticks : rig.component.Ticks)
    (sound : rig.events.Sound) :
    Gives Overflow (rig.submit (.event .edge))
      (Booked (fun module => module.config = config) config.Checks (.event .edge) rig) := by
  have kept := edgeWork_config rig
  have still : (edgeWork rig).component.Ticks := by
    rw [Ticks, kept]
    exact ticks
  have scheduled := scheduleEdge_continues still (edgeWork_events rig ▸ sound)
  rw [edgeWork_events] at scheduled
  simp only [Rig.submit, Rig.call, Intermediary.handle, handle, onEdge_eq, bind_assoc]
  apply scheduled.bind
  rintro next ⟨config, continues⟩
  exact .ok (.idle (config.trans (kept.trans same)) continues)

/-- A request that is admitted waits for the cycles of its kind, under the slot it queues with. -/
theorem submit_request [ResponseSink ρ] [RequestSink μ] {rig : Rig SecureModule ρ μ SecureEvent}
    (same : rig.component.config = config) (ticks : rig.component.Ticks)
    (sound : rig.events.Sound) (packet : Packet) :
    Gives Overflow (rig.submit (.request packet))
      (Booked (fun module => module.config = config) config.Checks (.request packet) rig) := by
  cases policy : rig.component.config.holdCycles packet.command.kind with
  | none =>
    simp only [Rig.submit, Intermediary.request, request, SecureModuleConfig.holdCycles?, policy,
      ok_bind]
    exact .ok (.idle same sound.continues)
  | some cycles =>
    by_cases room : rig.component.gate.requests.items.length <
        rig.component.gate.requests.capacity
    · apply (request_of_lt rig policy ticks room).bind
      rintro _ rfl
      refine .ok ⟨same, EventQueue.continues_scheduled sound (Clock.le_edge ticks) _ _, fun _ => ?_⟩
      refine ⟨cycles, rig.component.gate.slots.acquire.1, same ▸ policy, ?_, rig.events.nextId, ?_⟩
      · exact List.getLast?_concat
      · simp only [admitting, EventQueue.entered_scheduled sound, same]
        rfl
    · have full := Nat.not_lt.1 room
      apply (request_of_le rig policy ticks full).bind
      rintro _ rfl
      exact .ok (.idle same sound.continues)

theorem books (period : 0 < config.clockPeriod) :
    Books (fun module : SecureModule => module.config = config) config.Checks := by
  constructor
  intro ρ μ _ _ rig call same sound
  have ticks : rig.component.Ticks := by
    rw [Ticks, same]
    exact period
  cases call with
  | start =>
    simp only [Rig.submit, Rig.call, Intermediary.start, bind_assoc]
    apply (scheduleEdge_continues ticks sound).bind
    rintro next ⟨kept, continues⟩
    exact .ok (.idle (kept.trans same) continues)
  | stop => exact .ok (.idle same ((stop_drops rig).continues sound))
  | request packet => exact submit_request same ticks sound packet
  | response packet =>
    -- a response waits in its queue, and the driver, which runs anyway, sends it on
    have none_new := EventQueue.entered_of_old sound.numbered
    exact .ok ⟨same, sound.continues, fun _ => none_new⟩
  | event event =>
    cases event with
    | edge => exact submit_edge same ticks sound
    | checkOver slot => exact .ok (.idle same sound.continues)
  | requestRetry => exact .ok (.idle same sound.continues)
  | responseRetry => exact .ok (.idle same sound.continues)
  | rangeChange => exact .ok (.idle same sound.continues)
  | functional packet => exact .ok (.idle same sound.continues)
  | atomic packet => exact .ok (.idle same sound.continues)

end SecureModule

/-- Requests of one kind are checked for as many cycles. -/
theorem SecureModuleConfig.Checks.dueInOrder {config : SecureModuleConfig}
    {earlier later : Booking SecureModule SecureEvent} (first : config.Checks earlier)
    (second : config.Checks later) (order : earlier.InOrder later) (alike : earlier.Alike later) :
    earlier.DueInOrder later := by
  obtain ⟨packet, packet', call, call', kind⟩ := alike
  simp only [Checks, call] at first
  simp only [Checks, call'] at second
  obtain ⟨cycles, slot, policy, -, due⟩ := first
  obtain ⟨cycles', slot', policy', -, due'⟩ := second
  rw [kind] at policy
  obtain rfl := Option.some.inj (policy.symm.trans policy')
  exact order.due due due'

theorem Register.Orderly.checksInOrder {able : SecureModule → Prop} {config : SecureModuleConfig}
    {register : Register SecureModule SecureEvent ρ μ}
    (orderly : Orderly able config.Checks register) :
    config.ChecksInOrder register.bookings where
  each := orderly.lawful
  order := by
    apply orderly.order.imp_of_mem
    intro earlier later early late order
    exact (orderly.lawful earlier early).dueInOrder (orderly.lawful later late) order

namespace Register

/-- The cycles of a clock act on its edges. Hence whatever happens to a link or to a module, no
packet that the link accepted comes due before one that it had accepted earlier, and no request that
the module accepted does so before one of its kind. -/
theorem comes_due_in_order [ResponseSink ρ] [RequestSink μ] {period : Nat} (pos : 0 < period)
    {linkConfig : LinkConfig} {link : FixedLatencyLink}
    (linkBuilt : FixedLatencyLink.build linkConfig = .ok link)
    {moduleConfig : SecureModuleConfig} {module : SecureModule}
    (moduleBuilt : SecureModule.build moduleConfig = .ok module)
    (requester : ρ) (memory : μ) (onLink : List (Happening LinkEvent ρ μ))
    (onModule : List (Happening SecureEvent ρ μ)) :
    Clock.ActsOnGrid period ∧
    Gives Overflow (onLink.foldlM live (blank link requester memory)) (fun register =>
      linkConfig.ConveysInOrder register.bookings) ∧
    Gives Overflow (onModule.foldlM live (blank module requester memory)) fun register =>
      moduleConfig.ChecksInOrder register.bookings := by
  obtain ⟨rfl, linkTicks⟩ := FixedLatencyLink.eq_fresh_of_build linkBuilt
  obtain ⟨rfl, moduleTicks⟩ := SecureModule.eq_fresh_of_build moduleBuilt
  have linkBooks : Books (fun link : FixedLatencyLink => link.config = linkConfig)
      linkConfig.Conveys := FixedLatencyLink.books linkTicks
  have moduleBooks : Books (fun module : SecureModule => module.config = moduleConfig)
      moduleConfig.Checks := SecureModule.books moduleTicks
  refine ⟨Clock.actsOnGrid pos, ?_, ?_⟩
  · apply (run_orderly linkBooks rfl requester memory onLink).mono
    exact fun register orderly => orderly.conveysInOrder
  · apply (run_orderly moduleBooks rfl requester memory onModule).mono
    exact fun register orderly => orderly.checksInOrder

def timetable {κ ε : Type} (register : Register κ ε ρ μ) : List (Nat × List Nat) :=
  register.bookings.map fun booking => (booking.tick, booking.scheduled.map EventEntry.tick)

/-- On the link a response takes off at the tick of a request. In the module a write that is
accepted after a read comes due before it, and the next read after both. -/
theorem comes_due_in_order_quick_writes :
    FixedLatencyLink.build { latency := 2, clockPeriod := 3 } =
      .ok (FixedLatencyLink.fresh { latency := 2, clockPeriod := 3 }) ∧
    SecureModule.build { writeLatency := 0, clockPeriod := 3 } =
      .ok (SecureModule.fresh { writeLatency := 0, clockPeriod := 3 }) ∧
    Clock.ActsOnGrid 3 ∧
    Yields (List.foldlM live
        (blank (FixedLatencyLink.fresh { latency := 2, clockPeriod := 3 })
          ({} : ScriptedRequester) ({} : ScriptedMemory))
        [.call (.request (.read 0 0 0)), .wait 1, .call (.response (.read 1 64 0)),
          .call (.request (.write 2 0 1)), .fire, .call (.request (.read 3 0 6))])
      (fun register =>
        LinkConfig.ConveysInOrder { latency := 2, clockPeriod := 3 } register.bookings ∧
        register.timetable = [(0, [6]), (1, [9]), (1, [9]), (6, [12])]) ∧
    Yields (List.foldlM live
        (blank (SecureModule.fresh { writeLatency := 0, clockPeriod := 3 })
          ({} : ScriptedRequester) ({} : ScriptedMemory))
        [.call .start, .call (.request (.read 0 0 0)), .wait 1, .call (.request (.write 1 0 1)),
          .call (.response (.read 2 64 0)), .fire, .call (.request (.read 3 64 3))])
      fun register =>
        SecureModuleConfig.ChecksInOrder { writeLatency := 0, clockPeriod := 3 }
          register.bookings ∧
        register.timetable = [(0, [12]), (1, [9]), (1, []), (3, [15])] := by
  obtain ⟨grid, onLink, onModule⟩ := comes_due_in_order (by decide : 0 < 3)
    (rfl : FixedLatencyLink.build { latency := 2, clockPeriod := 3 } = .ok _)
    (rfl : SecureModule.build { writeLatency := 0, clockPeriod := 3 } = .ok _)
    ({} : ScriptedRequester) ({} : ScriptedMemory)
    [.call (.request (.read 0 0 0)), .wait 1, .call (.response (.read 1 64 0)),
      .call (.request (.write 2 0 1)), .fire, .call (.request (.read 3 0 6))]
    [.call .start, .call (.request (.read 0 0 0)), .wait 1, .call (.request (.write 1 0 1)),
      .call (.response (.read 2 64 0)), .fire, .call (.request (.read 3 64 3))]
  exact ⟨rfl, rfl, grid, (onLink.and_of_map rfl).yields_of_isOk rfl,
    (onModule.and_of_map rfl).yields_of_isOk rfl⟩

end Register

end GatedMemory
