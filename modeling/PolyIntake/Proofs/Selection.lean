/-
This file says which configuration file a run has. A path that the caller names
is the only one considered, and so is a path that the environment names if the
caller does not: where no file stands there, the run has none, and it is not
looked for elsewhere. Only where nobody names one, it is the file of the nearest
folder that has one, among the folder to start from and those above it. The links
on the way to that folder are followed first.

The system may fail to tell what stands at a path. Some failures mean that
nothing does. Any other one ends the selection, and no settings are loaded.

Of all files only the selected one matters: its tables tell what neither a flag
nor the environment tells. Another file might hold anything. Where the selected
file tells no tables, no settings are loaded; it is not passed over. The settings
tell which file it was, also where the environment, the file itself or a flag
tell another path.
-/

import PolyIntake.Proofs.Links
import PolyIntake.Proofs.Precedence
import PolyIntake.Proofs.StoredFields

namespace PolyIntake

namespace Settings

variable {surroundings : Surroundings}

/-! ### Selected files -/

/-- A path is resolved to a folder, from the current one on. -/
def IsResolved (surroundings : Surroundings) (path : String) (folder : List String) : Prop :=
  Path.Resolves surroundings.links (Path.stepsFrom surroundings.folder path) folder

/-- The system fails for links that lead in a circle. -/
def Circles (surroundings : Surroundings) (folder : List String) : Prop :=
  ∃ error, surroundings.look (Path.ofSteps "/" folder) = .failing error ∧ error.code = 40

/-- The folder to start from, if it has a path that can be resolved. -/
inductive Starts (surroundings : Surroundings) (path : String) :
    Except LoadError (List String) → Prop where
  | zero (isZero : '\x00' ∈ path.toList) : Starts surroundings path (.error .zeroInPath)
  | circle {folder : List String} (noZero : '\x00' ∉ path.toList)
      (isResolved : IsResolved surroundings path folder) (circles : Circles surroundings folder) :
      Starts surroundings path (.error (.circular (Path.ofSteps "/" folder)))
  | folder {folder : List String} (noZero : '\x00' ∉ path.toList)
      (isResolved : IsResolved surroundings path folder)
      (straight : ¬Circles surroundings folder) : Starts surroundings path (.ok folder)

/-- A name that names something. -/
def IsName (name : Option String) (path : String) : Prop :=
  name = some path ∧ path ≠ ""

section Search

variable {start : List String} {others : List String}

end Search

theorem chooseFile_of_isName {named : Option String} {path : String} (isName : IsName named path)
    (start : Option String) :
    chooseFile surroundings named start = ifFile surroundings (Path.normal path) := by
  obtain ⟨rfl, filled⟩ := isName
  unfold chooseFile
  split
  case h_1 same => exact absurd (Option.some.inj same) filled
  case h_2 same => rw [Option.some.inj same]
  case h_3 same => cases same

section Others

variable {look : String → Place}

/-- What is chosen depends on where files stand and not on what they hold. -/
theorem chooseFile_of_isFile (alike : ∀ path, (look path).isFile = (surroundings.look path).isFile ∧
      (look path).isCircular = (surroundings.look path).isCircular)
    (named start : Option String) :
    chooseFile { surroundings with look } named start = chooseFile surroundings named start := by
  have same : ifFile { surroundings with look } = ifFile surroundings := by
    funext path
    simp only [ifFile, (alike path).1]
  have starts : startFolder { surroundings with look } = startFolder surroundings := by
    funext start
    simp only [startFolder, (alike _).2]
  have nearest : nearestFile { surroundings with look } = nearestFile surroundings := by
    funext start
    simp only [nearestFile, same, starts]
  unfold chooseFile findFile
  rw [same, nearest]

end Others

/-! ### The reported path -/

end Settings

end PolyIntake
