import Reattempt.Engine.Scheduler

/-!
Schedulers that decide at once: they run an attempt before they answer, or drop it, and may refuse
it as well. Those that keep a list of delays have the delays as their room.
-/
namespace Reattempt.Scheduler

/-- Runs every attempt without waiting. -/
def inline : Scheduler (List Duration) := fun delays r =>
  ⟨delays ++ [r.delay], .run none false, none⟩

/-- Lets the delay pass and runs the attempt. The delay is listed once it has passed. -/
def timed : Scheduler (List Duration) := fun delays r =>
  ⟨delays ++ [r.delay], .run (some r.delay) false, none⟩

/-- Drops every attempt and does not say so. -/
def dropping : Scheduler Unit := fun _ _ => ⟨(), .drop, none⟩

def refusing (e : ScheduleError) : Scheduler Unit := fun _ _ => ⟨(), .drop, some e⟩

/-- Runs every attempt and refuses it afterwards. -/
def runningThenRefusing (e : ScheduleError) : Scheduler Unit := fun _ _ =>
  ⟨(), .run none false, some e⟩

/-- Runs every attempt and keeps its faults to itself. -/
def containing : Scheduler Unit := fun _ _ => ⟨(), .run none true, none⟩

end Reattempt.Scheduler
