import GatedMemory.Event.Queue

/-!
A task that keeps at most one occurrence of itself scheduled, until it is stopped for good.
-/

set_option autoImplicit false

namespace GatedMemory

/-- An event that comes again and again. Its owner reports each occurrence with `occurred` and asks
for the next with `scheduleNext`. -/
structure RepeatingEvent where
  priority : Int
  /-- The occurrence that is scheduled and has not fired. -/
  pending : Option Nat
  stopped : Bool
deriving DecidableEq

namespace RepeatingEvent

variable {α : Type}

/-- A task with nothing scheduled. -/
def idle (priority : Int) : RepeatingEvent :=
  { priority, pending := none, stopped := false }

/-- The task may schedule an occurrence: it is not stopped and none is pending. -/
def canSchedule (task : RepeatingEvent) : Bool :=
  !task.stopped && task.pending.isNone

/-- Schedules the next occurrence, unless one is pending or the task is stopped. -/
def scheduleNext (task : RepeatingEvent) (queue : EventQueue α) (tick : Nat) (payload : α) :
    Except Fault (RepeatingEvent × EventQueue α) :=
  if task.canSchedule then do
    let (id, queue) ← queue.schedule tick task.priority payload
    return ({ task with pending := some id }, queue)
  else return (task, queue)

/-- The pending occurrence has fired. -/
def occurred (task : RepeatingEvent) : RepeatingEvent :=
  { task with pending := none }

/-- Nothing is scheduled from now on. The occurrence that was pending is no longer the task's. -/
def stop (task : RepeatingEvent) : RepeatingEvent :=
  { task with pending := none, stopped := true }

/-- Stops the task and removes its pending occurrence from the queue. -/
def halt (task : RepeatingEvent) (queue : EventQueue α) : RepeatingEvent × EventQueue α :=
  (task.stop, task.pending.elim queue queue.cancel)

/-- An occurrence is scheduled. -/
def isActive (task : RepeatingEvent) : Bool :=
  !task.stopped && task.pending.isSome

end RepeatingEvent

end GatedMemory
