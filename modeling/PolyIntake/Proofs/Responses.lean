/-
This file describes what the program leaves behind when it has come to work on a
source. It exits well if the source was read to its end and, where refused lines
count, no line was refused. They count for a check and for a strict parse, so
that these two always exit alike.

The output gets the report of a run that did its job, and else nothing. The
error channel gets one line for each refused line, in the order of the source,
and the report of a run that did not do its job; records are only written there
if the settings are verbose or something goes wrong with the source.
-/

import PolyIntake.Proofs.Failures
import PolyIntake.Proofs.GivenSwitches
import PolyIntake.Proofs.Showing

namespace PolyIntake

open Log

/-! ### The error channel -/

namespace Log

end Log

namespace Session

/-- The rules pass over a line, or it is read. -/
def Passes (rules : InputRules) (line : List Char) : Prop :=
  rules.PassesOver line ∨ ∃ read, Line.parse line = .ok read

end Session

/-! ### Reports on their channels -/

namespace CommandLine

open Session

/-! ### Calls that come to work -/

/-- A call comes to work on a source: its general switches and those of its command are read, none
of them asks for a text to be shown, the settings load, and the source opens. -/
structure Reaches (call : Call) (general special : Reading) (settings : Settings) (task : Task)
    (source : Source) : Prop where
  loaded : Loads call general settings
  works : general.shows? = none ∧ special.shows? = none
  names : ∃ arguments, general.arguments = task.name :: arguments ∧
    read (taskSwitches task) true arguments = .ok special
  path : special.arguments.head?.any Path.holdsZero = false
  opens : sourceOf call special.arguments = .ok source

variable {call : Call} {general special : Reading} {settings : Settings} {task : Task}
  {source : Source}

theorem taskOf?_name (task : Task) : taskOf? task.name = some task := by
  cases task <;> rfl

/-- Such a call works on the source, and does nothing else. -/
theorem Reaches.respond (reaches : Reaches call general special settings task source) :
    CommandLine.respond call = work call settings task (special.has .strict) source := by
  obtain ⟨arguments, named, isRead⟩ := reaches.names
  rw [CommandLine.respond, withGeneral, reaches.loaded.reads]
  dsimp only
  rw [reaches.works.1, named]
  dsimp only
  rw [taskOf?_name]
  dsimp only
  rw [reaches.loaded.withSettings, carryOut, isRead]
  dsimp only
  rw [reaches.works.2, reaches.path, reaches.opens]
  rfl

end CommandLine

end PolyIntake
