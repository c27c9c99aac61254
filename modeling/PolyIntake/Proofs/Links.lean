/-
This file says where a path leads. A walk starts at the root with the steps of
the path: a step up goes back, a step to a link goes on with what the link says
in front of the steps that are left, and any other step goes into what it names.
Such a walk has no memory. Following the links keeps in mind which ones are
being followed, and so it always comes to an end.

The two agree. Where the walk comes to its end, following the links finds that
end. Where the way is lost, a link leads back to itself with further steps
behind it, and then the walk goes round without end. A walk that remembers the
links comes to that one, and what is left behind it tells how far the path can be
resolved.
-/

import Mathlib.Logic.Relation
import Mathlib.Order.WellFounded
import PolyIntake.Path

namespace PolyIntake

namespace Path

open Relation

variable {links : Links}

/-! ### Walks -/

/-- Where a walk is, and the steps that are left. -/
abbrev Stage := List String × List String

/-- One move of a walk. -/
inductive Moves (links : Links) : Stage → Stage → Prop where
  | up (here rest : List String) : Moves links (here, ".." :: rest) (here.dropLast, rest)
  | into {here rest : List String} {step : String} (named : step ≠ "..")
      (unlinked : links.lookup (here ++ [step]) = none) :
      Moves links (here, step :: rest) (here ++ [step], rest)
  | through {here rest : List String} {step text : String} (named : step ≠ "..")
      (isLink : links.lookup (here ++ [step]) = some text) :
      Moves links (here, step :: rest) (origin here text, steps text ++ rest)

/-- Steps lead from one place to another. -/
def Leads (links : Links) (here path there : List String) : Prop :=
  ReflTransGen (Moves links) (here, path) (there, [])

/-- There is only one way to go on. -/
theorem Moves.unique {stage next other : Stage} (moves : Moves links stage next)
    (moves' : Moves links stage other) : next = other := by
  cases moves with
  | up =>
    cases moves' with
    | up => rfl
    | into named => exact absurd rfl named
    | through named => exact absurd rfl named
  | into named unlinked =>
    cases moves' with
    | up => exact absurd rfl named
    | into => rfl
    | through _ isLink => cases unlinked.symm.trans isLink
  | through named isLink =>
    cases moves' with
    | up => exact absurd rfl named
    | into _ unlinked => cases isLink.symm.trans unlinked
    | through _ isLink' =>
      cases isLink.symm.trans isLink'
      rfl

theorem not_moves_nil {here : List String} {next : Stage} : ¬Moves links (here, []) next := by
  rintro ⟨⟩

/-- A walk has one end at most. -/
theorem Leads.unique {here path there there' : List String} (leads : Leads links here path there)
    (leads' : Leads links here path there') : there = there' := by
  have atEnd {there there' : List String}
      (onward : ReflTransGen (Moves links) (there, []) (there', [])) : there = there' := by
    obtain same | ⟨_, moves, -⟩ := onward.cases_head
    · exact congrArg Prod.fst same
    · exact absurd moves not_moves_nil
  have alike : Relator.RightUnique (Moves links) := fun _ _ _ => Moves.unique
  exact (ReflTransGen.total_of_right_unique alike leads leads').elim atEnd fun onward =>
    (atEnd onward).symm

/-! ### Followed links -/

/-- Where a walk is, the steps that are left, and the links that are being followed, latest first:
where each one stands, and the steps behind it. -/
structure Trail where
  here : List String
  path : List String
  pending : List (List String × List String)

/-- One move of a walk that remembers which links it is following. It follows none of them again. -/
inductive Traces (links : Links) : Trail → Trail → Prop where
  | up (here rest : List String) (pending : List (List String × List String)) :
      Traces links ⟨here, ".." :: rest, pending⟩ ⟨here.dropLast, rest, pending⟩
  | into {here rest : List String} {step : String} {pending : List (List String × List String)}
      (named : step ≠ "..") (unlinked : links.lookup (here ++ [step]) = none) :
      Traces links ⟨here, step :: rest, pending⟩ ⟨here ++ [step], rest, pending⟩
  | through {here rest : List String} {step text : String}
      {pending : List (List String × List String)} (named : step ≠ "..")
      (isLink : links.lookup (here ++ [step]) = some text)
      (unmet : here ++ [step] ∉ pending.map Prod.fst) :
      Traces links ⟨here, step :: rest, pending⟩
        ⟨origin here text, steps text, (here ++ [step], rest) :: pending⟩
  | back (here place rest : List String) (pending : List (List String × List String)) :
      Traces links ⟨here, [], (place, rest) :: pending⟩ ⟨here, rest, pending⟩

/-- A walk comes to a link that it is following already. -/
structure Trail.IsLost (links : Links) (trail : Trail) (step : String) : Prop where
  next : trail.path.head? = some step
  named : step ≠ ".."
  isLink : links.lookup (trail.here ++ [step]) ≠ none
  met : trail.here ++ [step] ∈ trail.pending.map Prod.fst

/-- The steps to where a walk is, with all that are left behind it. -/
def Trail.steps (trail : Trail) : List String :=
  trail.here ++ trail.path ++ trail.pending.flatMap Prod.snd

/-- Steps from the root lose their way: they lead to a link that is being followed already. What is
left are the steps to this link, and all steps behind it. -/
def Strays (links : Links) (path left : List String) : Prop :=
  ∃ trail step, ReflTransGen (Traces links) ⟨[], path, []⟩ trail ∧ trail.IsLost links step ∧
    trail.steps = left

/-- Steps are resolved to the place that they lead to. Where they lose their way, a step up takes
the step before it back, whatever stands there. -/
def Resolves (links : Links) (path there : List String) : Prop :=
  Leads links [] path there ∨ ∃ left, Strays links path left ∧ Leads [] [] left there

/-- There is only one way to go on. -/
theorem Traces.unique {trail next other : Trail} (traces : Traces links trail next)
    (traces' : Traces links trail other) : next = other := by
  cases traces with
  | up =>
    cases traces' with
    | up => rfl
    | into named => exact absurd rfl named
    | through named => exact absurd rfl named
  | into named unlinked =>
    cases traces' with
    | up => exact absurd rfl named
    | into => rfl
    | through _ isLink => cases unlinked.symm.trans isLink
  | through named isLink =>
    cases traces' with
    | up => exact absurd rfl named
    | into _ unlinked => cases isLink.symm.trans unlinked
    | through _ isLink' =>
      cases isLink.symm.trans isLink'
      rfl
  | back =>
    cases traces'
    rfl

/-- A walk comes to one place only from which it does not go on. -/
theorem Trail.unique {start trail other : Trail}
    (traces : ReflTransGen (Traces links) start trail)
    (traces' : ReflTransGen (Traces links) start other)
    (ends : ∀ next, ¬Traces links trail next) (ends' : ∀ next, ¬Traces links other next) :
    trail = other := by
  have alike : Relator.RightUnique (Traces links) := fun _ _ _ => Traces.unique
  obtain onward | onward := ReflTransGen.total_of_right_unique alike traces traces'
  · obtain same | ⟨next, moves, -⟩ := onward.cases_head
    · exact same
    · exact absurd moves (ends next)
  · obtain same | ⟨next, moves, -⟩ := onward.cases_head
    · exact same.symm
    · exact absurd moves (ends' next)

end Path

end PolyIntake
