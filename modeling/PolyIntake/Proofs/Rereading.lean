/-
This file proves that the terse form of a parse can be read again. It holds one
line for each item, in their order: the keyword of a command with its argument
in decimal, or the literal of a polynomial. None of these is broken into several
lines, blank or marked as a comment, so a second run finds as many lines as
there were items and passes over none. It numbers them from one on and makes of
each of them what the first run made of the line that it came from.

Only coefficients stand in the way. They are added up after their range was
checked, so a value may have a coefficient that no literal has; where there is
none, the terse form of the second run is that of the first.
-/

import Mathlib
import PolyIntake.Proofs.Commands
import PolyIntake.Proofs.RoundTrip
import PolyIntake.Proofs.Showing

namespace PolyIntake

/-! ### Accepted lines -/

namespace Line

variable {text : List Char} {line : Line}

theorem reading_eq_ok_iff_parse (number : Int) :
    reading number text = .ok line ↔ parse text = .ok line :=
  mapError_eq_ok_iff

theorem parse_eq_ok_iff :
    parse text = .ok line ↔
      (∃ command, Command.parse text = .ok command ∧ line = .command command) ∨
        ∃ poly, Poly.parse text = .ok poly ∧ line = .poly poly :=
  (reading_eq_ok_iff_parse 0).symm.trans reading_eq_ok_iff

theorem ne_nil_of_parse (accepted : parse text = .ok line) : text ≠ [] := by
  rcases parse_eq_ok_iff.mp accepted with ⟨command, named, -⟩ | ⟨poly, derived, -⟩
  · obtain ⟨letter, rest, rfl, -⟩ := Command.beginsWithLetter_of_parse named
    exact List.cons_ne_nil _ _
  · obtain ⟨tree, derived, -⟩ := Poly.parse_eq_ok_iff.mp derived
    exact (derived.widen Grammar.accepted_isWithin_integers).ne_nil

/-- An accepted line holds nothing but words, one blank behind a word, and what literals hold. -/
theorem notMem_of_parse (accepted : parse text = .ok line) {char : Char}
    (noWord : Command.continuesWord char = false) (noBlank : char ≠ ' ')
    (illegal : Parser.isLegal char = false) : char ∉ text := by
  intro member
  rcases parse_eq_ok_iff.mp accepted with ⟨command, named, -⟩ | ⟨poly, derived, -⟩
  · rcases (Command.parse_eq_ok_iff.mp named).char_cases member with word | blank | digit | minus
    · rw [noWord] at word
      cases word
    · exact noBlank blank
    · simp [Parser.isLegal, digit] at illegal
    · simp [Parser.isLegal, minus] at illegal
  · obtain ⟨tree, derived, -⟩ := Poly.parse_eq_ok_iff.mp derived
    have legal := (derived.widen Grammar.accepted_isWithin_integers).isLegal_of_mem member
    rw [illegal] at legal
    cases legal

/-- The standard rules pass over no line that would be accepted. -/
theorem not_passesOver_of_parse (accepted : parse text = .ok line) :
    ¬ InputRules.PassesOver {} text := by
  rintro (⟨-, marked⟩ | ⟨-, blank⟩)
  · have mark : '#' ∈ text := marked.subset List.mem_cons_self
    exact notMem_of_parse accepted (by decide) (by decide) (by decide) mark
  · exact ne_nil_of_parse accepted blank

/-! ### Lines in brief -/

/-- What the terse form shows of a line. -/
def brief : Line → List Char
  | .poly value => value.literal
  | .command (.plain operation) => operation.keyword.toList
  | .command (.withArgument query argument) =>
    query.keyword.toList ++ ' ' :: Decimal.ofInt argument

/-- No coefficient of a line is out of the range of literals. -/
def HasShortCoefficients (line : Line) : Prop :=
  ∀ poly, line = .poly poly →
    ∀ term ∈ poly.terms, Integer.Kind.signed64.admits term.coefficient = true

/-- What is shown of an accepted line is accepted as that line, unless one of its coefficients is
out of range. -/
theorem parse_brief (accepted : parse text = .ok line) (short : line.HasShortCoefficients) :
    parse line.brief = .ok line := by
  rw [parse_eq_ok_iff] at accepted ⊢
  rcases accepted with ⟨command, named, rfl⟩ | ⟨poly, derived, rfl⟩
  · refine Or.inl ⟨command, Command.parse_eq_ok_iff.mpr ?_, rfl⟩
    cases Command.parse_eq_ok_iff.mp named with
    | plain operation => exact .plain operation
    | withArgument query isNumeral admitted =>
      exact .withArgument query (query.isNumeral_argument admitted) admitted
  · refine Or.inr ⟨poly, (Poly.rereadsAs_iff_parse.mp ?_).2, rfl⟩
    refine Poly.rereadsAs_iff.mpr ⟨fun term member => ?_, Poly.isCanonical_of_parse derived, rfl⟩
    exact ⟨short poly rfl term member, (Poly.hasNumbers_of_parse derived term member).2⟩

end Line

/-! ### The terse form -/

/-- Some lines in brief, one below the other. -/
def terseText (lines : List Line) : String :=
  "\n".intercalate (lines.map fun line => String.ofList line.brief)

theorem toList_terseText (lines : List Line) :
    (terseText lines).toList = List.intercalate ['\n'] (lines.map Line.brief) := by
  have each : String.toList ∘ (fun line => String.ofList line.brief) = Line.brief :=
    funext fun line => String.toList_ofList
  rw [terseText, String.toList_intercalate, List.map_map, each]
  rfl

namespace Report

open Session

theorem itemText_itemValue (item : Nat × Line) :
    itemText (itemValue item) = .ok (String.ofList item.2.brief) := by
  obtain ⟨number, command | poly⟩ := item
  · cases command with
    | plain operation =>
      rw [Line.brief, String.ofList_toList]
      rfl
    | withArgument query argument =>
      have shown : itemText (itemValue (number, .command (.withArgument query argument))) =
          .ok (query.keyword ++ " " ++ String.ofList (Decimal.ofInt argument)) := rfl
      rw [shown, Line.brief]
      refine congrArg Except.ok (String.toList_inj.mp ?_)
      simp
  · rfl

/-- The terse form of a parse shows its items, if there are any. -/
theorem terse_parse (output : OutputRules) {entries : List Entry}
    (nonempty : accepted entries ≠ []) :
    terse (Task.parse.outcome output entries) =
      .ok (terseText ((accepted entries).map Prod.snd)) := by
  have ok : (Task.parse.outcome output entries).ok = true := rfl
  have each : itemText ∘ itemValue = fun item => .ok (String.ofList item.2.brief) :=
    funext itemText_itemValue
  have shown : ((accepted entries).map itemValue).mapM itemText =
      .ok ((accepted entries).map fun item => String.ofList item.2.brief) := by
    rw [List.mapM_map, each]
    exact List.mapM_pure
  rw [terse, if_pos ok, items_parse]
  dsimp only [bind, Except.bind]
  split
  case h_1 none => exact absurd (List.map_eq_nil_iff.mp none) nonempty
  case h_2 =>
    rw [shown, terseText, List.map_map]
    rfl

end Report

namespace Session

open Log

/-! ### Lines that are all accepted -/

/-- Some lines with their places for their numbers. -/
def numbered (lines : List Line) : List (Nat × Line) :=
  (List.range' 1 lines.length).zip lines

theorem map_snd_numbered (lines : List Line) : (numbered lines).map Prod.snd = lines :=
  List.map_snd_zip (by rw [List.length_range'])

/-- The entry of an accepted line. -/
def entryOfItem (item : Nat × Line) : Entry :=
  .accepted item.1 item.2

theorem map_ofLine_numberFrom_brief {rules : InputRules} {lines : List Line}
    (each : ∀ line ∈ lines, ¬ rules.PassesOver line.brief ∧ Line.parse line.brief = .ok line)
    (first : Nat) :
    (rules.numberFrom first (lines.map Line.brief)).map Entry.ofLine =
      ((List.range' first lines.length).zip lines).map entryOfItem := by
  induction lines generalizing first with
  | nil => rfl
  | cons line rest inductionHypothesis =>
    rw [List.forall_mem_cons] at each
    obtain ⟨⟨notPassed, accepted⟩, others⟩ := each
    rw [List.map_cons, InputRules.numberFrom, List.map_cons, inductionHypothesis others,
      InputRules.skips_eq_false_iff.mpr notPassed, Entry.ofLine_of_not_skipped,
      (Line.reading_eq_ok_iff_parse _).mpr accepted, List.length_cons, List.range'_succ]
    rfl

theorem entries_brief {rules : InputRules} {lines : List Line}
    (each : ∀ line ∈ lines, ¬ rules.PassesOver line.brief ∧ Line.parse line.brief = .ok line) :
    entries rules (lines.map Line.brief) = (numbered lines).map entryOfItem :=
  map_ofLine_numberFrom_brief each 1

theorem accepted_map_entryOfItem (items : List (Nat × Line)) :
    accepted (items.map entryOfItem) = items := by
  rw [accepted, List.filterMap_map]
  exact List.filterMap_some

theorem rejected_map_entryOfItem (items : List (Nat × Line)) :
    rejected (items.map entryOfItem) = [] := by
  rw [rejected, List.filterMap_map]
  exact List.filterMap_eq_nil_iff.mpr fun _ _ => rfl

theorem skipped_map_entryOfItem (items : List (Nat × Line)) :
    skipped (items.map entryOfItem) = [] := by
  rw [skipped, List.filterMap_map]
  exact List.filterMap_eq_nil_iff.mpr fun _ _ => rfl

/-! ### Reading the terse form -/

section Reread

variable {lines : List Line} (nonempty : lines ≠ [])
  (each : ∀ line ∈ lines, Line.parse line.brief = .ok line)

include nonempty each

/-- The lines in brief are found again, none of them is passed over, and each one is accepted. -/
theorem entries_terseText :
    entries {} (Source.splitLines (terseText lines).toList) = (numbered lines).map entryOfItem := by
  have unbroken : ∀ text ∈ lines.map Line.brief, '\n' ∉ text ∧ text ≠ [] := by
    intro text member
    obtain ⟨line, isLine, rfl⟩ := List.mem_map.mp member
    exact ⟨Line.notMem_of_parse (each line isLine) (by decide) (by decide) (by decide),
      Line.ne_nil_of_parse (each line isLine)⟩
  rw [toList_terseText, Source.splitLines_intercalate (by simpa using nonempty) unbroken]
  exact entries_brief fun line member =>
    ⟨Line.not_passesOver_of_parse (each line member), each line member⟩

theorem lists_terseText :
    Lists {} (Task.parse.outcome {} (entries {} (Source.splitLines (terseText lines).toList)))
      lines.length (numbered lines) [] [] := by
  have found := entries_terseText nonempty each
  have count : (Source.splitLines (terseText lines).toList).length = lines.length := by
    rw [← length_entries {}, found, List.length_map, ← List.length_map Prod.snd, map_snd_numbered]
  have lists := lists_outcome {} {} (Source.splitLines (terseText lines).toList)
  rw [count, found, accepted_map_entryOfItem, rejected_map_entryOfItem,
    skipped_map_entryOfItem] at lists
  rwa [found]

theorem terse_terseText :
    Report.terse (Task.parse.outcome {}
      (entries {} (Source.splitLines (terseText lines).toList))) = .ok (terseText lines) := by
  have items := accepted_map_entryOfItem (numbered lines)
  rw [← entries_terseText nonempty each] at items
  have someItem : accepted (entries {} (Source.splitLines (terseText lines).toList)) ≠ [] := by
    rw [items]
    intro none
    exact nonempty (by rw [← map_snd_numbered lines, none, List.map_nil])
  rw [Report.terse_parse {} someItem, items, map_snd_numbered]

end Reread

/-- The terse form of a parse that did its job and has items, none of them with a coefficient out of
range, is read by the standard rules as the lines of these items: all lines of it are accepted, in
their order and as what they were, with their places for their numbers. Its terse form is the same
again. -/
theorem terse_reread_spec {settings : Settings} {source : Source} {scope : Scope}
    {outcome : Outcome} {items : List (Nat × Line)} {refused : List Diagnostic} {passed : List Nat}
    (result : (run settings .parse source scope).value = .ok outcome)
    (succeeded : outcome.ok = true)
    (tally : IsTally settings.input source.lines items refused passed) (nonempty : items ≠ [])
    (short : ∀ item ∈ items, item.2.HasShortCoefficients) :
    Lists settings.output outcome source.lines.length items refused passed ∧
      ∃ shown, Report.text .terse outcome = .ok shown ∧ ∀ name scope', ∃ outcome',
        (run {} .parse (.ofText name shown.toList) scope').value = .ok outcome' ∧
        Lists {} outcome' items.length (numbered (items.map Prod.snd)) [] [] ∧
        Report.text .terse outcome' = .ok shown := by
  have each : ∀ line ∈ items.map Prod.snd, Line.parse line.brief = .ok line := by
    intro line member
    obtain ⟨⟨number, line⟩, isItem, rfl⟩ := List.mem_map.mp member
    obtain ⟨text, -, read⟩ := tally.reading_of_mem_items isItem
    exact Line.parse_brief ((Line.reading_eq_ok_iff_parse _).mp read) (short _ isItem)
  have someLine : items.map Prod.snd ≠ [] := mt List.map_eq_nil_iff.mp nonempty
  rw [(run_yields settings .parse source).gives] at result
  obtain rfl := eq_outcome_of_result result succeeded
  obtain ⟨rfl, rfl, rfl⟩ := tally.unique (isTally_entries settings.input source.lines)
  refine ⟨lists_outcome _ _ _, _, Report.terse_parse _ nonempty, fun name scope' => ?_⟩
  rw [← List.length_map Prod.snd]
  exact ⟨_, (run_yields {} .parse (.ofText name _)).gives scope',
    lists_terseText someLine each, terse_terseText someLine each⟩

/-- Settings with another mark of comments than the standard one. -/
def percentSettings : Settings where
  input := ⟨"%", true⟩

/-- For these settings a comment, a command, a line that is refused, and a literal. -/
def mixedSource : Source :=
  .ofText "" "% DEG\nDEG_BY 007\n#\n(1,2)".toList

theorem terse_reread_spec_mixed :
    ∃ outcome, (run percentSettings .parse mixedSource {}).value = .ok outcome ∧
      outcome.ok = true ∧
      IsTally percentSettings.input mixedSource.lines
        [(2, .command (.withArgument .degreeBy 7)), (4, .poly ⟨0, [⟨2, .const 1⟩]⟩)]
        [⟨3, .wrongPoly⟩] [1] ∧
      Report.text .terse outcome = .ok "DEG_BY 7\n(1,2)" ∧
      ∃ outcome', (run {} .parse (.ofText "" "DEG_BY 7\n(1,2)".toList) {}).value = .ok outcome' ∧
        Lists {} outcome' 2
          [(1, .command (.withArgument .degreeBy 7)), (2, .poly ⟨0, [⟨2, .const 1⟩]⟩)] [] [] ∧
        Report.text .terse outcome' = .ok "DEG_BY 7\n(1,2)" := by
  have found : entries percentSettings.input mixedSource.lines =
      [.skipped 1, .accepted 2 (.command (.withArgument .degreeBy 7)), .rejected ⟨3, .wrongPoly⟩,
        .accepted 4 (.poly ⟨0, [⟨2, .const 1⟩]⟩)] := by
    cbv
  have tally : IsTally percentSettings.input mixedSource.lines
      [(2, .command (.withArgument .degreeBy 7)), (4, .poly ⟨0, [⟨2, .const 1⟩]⟩)]
      [⟨3, .wrongPoly⟩] [1] := by
    have tally := isTally_entries percentSettings.input mixedSource.lines
    rwa [found] at tally
  have short : ∀ item ∈ [(2, Line.command (.withArgument .degreeBy 7)),
      (4, Line.poly ⟨0, [⟨2, .const 1⟩]⟩)], item.2.HasShortCoefficients := by
    rw [List.forall_mem_cons, List.forall_mem_singleton]
    refine ⟨by rintro _ ⟨⟩, ?_⟩
    rintro _ ⟨⟩
    decide
  have result := (run_yields percentSettings .parse mixedSource).gives {}
  have shown : Report.text .terse (Task.parse.outcome percentSettings.output
      (entries percentSettings.input mixedSource.lines)) = .ok "DEG_BY 7\n(1,2)" := by
    rw [found]
    cbv
  obtain ⟨-, text, isText, again⟩ :=
    terse_reread_spec result rfl tally (List.cons_ne_nil _ _) short
  cases isText.symm.trans shown
  exact ⟨_, result, rfl, tally, shown, again "" {}⟩

end Session

end PolyIntake
