import FileSearch.Command.Basic
import Mathlib.Logic.Function.Basic

/-!
# Switches of option groups

Nothing of a group that is switched off reaches a command, and some fields never do: specifications
that agree wherever a group is switched on have the same arguments.
-/

set_option autoImplicit false

namespace FileSearch

open Command (Primary Criterion)

/-! ## Fields that no command shows -/

/-- The options without what only concerns the contents of files. -/
def TextOptions.shown (options : TextOptions) : TextOptions :=
  { options with searchInContents := true, treatBinaryAsText := false }

def NameOptions.shown (options : NameOptions) : NameOptions :=
  { options with pruneDirectoriesOnly := true }

def SizeOptions.shown (options : SizeOptions) : SizeOptions :=
  { options with
    rangeInclusive := true, treatDirectoriesAsFiles := false, useDecimalUnits := false }

def TypeOptions.shown (options : TypeOptions) : TypeOptions :=
  { options with detectors := {} }

def ActionOptions.shown (options : ActionOptions) : ActionOptions :=
  { options with
    fprintAppend := false, fprint0Append := false, flsAppend := false, fprintfAppend := false }

/-- What a reading takes from the shown part alone is the same wherever that part is. -/
private theorem factorsThrough_shown {Options Reading : Type} {shown : Options → Options}
    {read : Options → Reading} (kept : ∀ options, read (shown options) = read options) :
    read.FactorsThrough shown := by
  intro left right same
  rw [← kept left, same, kept right]

theorem TextOptions.criteria_shown : TextOptions.criteria.FactorsThrough shown :=
  factorsThrough_shown fun _ => rfl

theorem NameOptions.criteria_shown : NameOptions.criteria.FactorsThrough shown :=
  factorsThrough_shown fun _ => rfl

theorem NameOptions.prune_shown : NameOptions.prune.FactorsThrough shown :=
  factorsThrough_shown fun _ => rfl

theorem NameOptions.pruneTest_shown : NameOptions.pruneTest.FactorsThrough shown :=
  factorsThrough_shown fun _ => rfl

theorem SizeOptions.criteria_shown : SizeOptions.criteria.FactorsThrough shown :=
  factorsThrough_shown fun _ => rfl

theorem TypeOptions.criteria_shown : TypeOptions.criteria.FactorsThrough shown :=
  factorsThrough_shown fun _ => rfl

theorem ActionOptions.selected_shown :
    (selected ∘ withEffect).FactorsThrough shown := by
  refine factorsThrough_shown fun options => ?_
  have effect : options.shown.hasEffect = options.hasEffect := rfl
  rw [Function.comp_apply, Function.comp_apply, withEffect, withEffect, effect]
  split <;> rfl

/-! ## Specifications that agree -/

namespace Specification

/-- Two specifications agree on all that a command can show. Groups count where they are switched
on, the group of actions only if the command includes actions, and two of the simple switches only
where the group of traversal options is switched off. The display name does not count. -/
structure Agree (includeActions : Bool) (left right : Specification) : Prop where
  startLocation : left.startLocation = right.startLocation
  includePatterns : left.includePatterns = right.includePatterns
  excludePatterns : left.excludePatterns = right.excludePatterns
  includeSubdirectories : left.includeSubdirectories = right.includeSubdirectories
  includeHidden : left.includeHidden = right.includeHidden
  enableText : left.enableText = right.enableText
  enableNames : left.enableNames = right.enableNames
  enableTimes : left.enableTimes = right.enableTimes
  enableSizes : left.enableSizes = right.enableSizes
  enableTypes : left.enableTypes = right.enableTypes
  enableOwnership : left.enableOwnership = right.enableOwnership
  enableTraversal : left.enableTraversal = right.enableTraversal
  enableActions : includeActions = true → left.enableActions = right.enableActions
  followLinks : left.enableTraversal = false → left.followLinks = right.followLinks
  stayOnSameFilesystem : left.enableTraversal = false →
    left.stayOnSameFilesystem = right.stayOnSameFilesystem
  searchText : left.enableText = true → left.searchText = right.searchText
  text : left.enableText = true → left.text.shown = right.text.shown
  names : left.enableNames = true → left.names.shown = right.names.shown
  times : left.enableTimes = true → left.times = right.times
  sizes : left.enableSizes = true → left.sizes.shown = right.sizes.shown
  types : left.enableTypes = true → left.types.shown = right.types.shown
  ownership : left.enableOwnership = true → left.ownership = right.ownership
  traversal : left.enableTraversal = true → left.traversal = right.traversal
  actions : includeActions = true → left.enableActions = true →
    left.actions.shown = right.actions.shown

namespace Agree

variable {includeActions : Bool} {left right : Specification}

theorem traversalPrimaries_eq (agree : left.Agree includeActions right) :
    left.traversalPrimaries = right.traversalPrimaries := by
  unfold traversalPrimaries
  rw [← agree.enableTraversal, ← agree.includeSubdirectories]
  cases enabled : left.enableTraversal with
  | true => rw [if_pos rfl, if_pos rfl, agree.traversal enabled]
  | false =>
      rw [if_neg Bool.false_ne_true, if_neg Bool.false_ne_true, agree.followLinks enabled,
        agree.stayOnSameFilesystem enabled]

theorem prune?_eq (agree : left.Agree includeActions right) : left.prune? = right.prune? := by
  unfold prune?
  rw [← agree.enableNames]
  cases enabled : left.enableNames with
  | true =>
      have same := agree.names enabled
      rw [NameOptions.prune_shown same, NameOptions.pruneTest_shown same]
  | false => rfl

theorem actionPrimaries_eq (agree : left.Agree includeActions right) :
    left.actionPrimaries includeActions = right.actionPrimaries includeActions := by
  unfold actionPrimaries
  cases included : includeActions with
  | false => rfl
  | true =>
      rw [← agree.enableActions included]
      cases enabled : left.enableActions with
      | true =>
          have same := ActionOptions.selected_shown (agree.actions included enabled)
          simp only [Function.comp_apply] at same
          rw [same]
      | false => rfl

/-- The criteria of a group count only where it is switched on. -/
private theorem gated_congr {first second : Bool} {some other : List Criterion}
    (switches : first = second) (same : first = true → some = other) :
    (if first then some else []) = if second then other else [] := by
  cases switches
  cases enabled : first with
  | true => rw [same enabled]
  | false => rfl

theorem criteria_eq (agree : left.Agree includeActions right) : left.criteria = right.criteria := by
  have text : left.enableText = true →
      left.text.criteria left.searchText = right.text.criteria right.searchText := by
    intro on
    rw [TextOptions.criteria_shown (agree.text on), agree.searchText on]
  have text := gated_congr agree.enableText text
  have names := gated_congr agree.enableNames fun on => NameOptions.criteria_shown (agree.names on)
  have times := gated_congr agree.enableTimes fun on =>
    congrArg TimeOptions.criteria (agree.times on)
  have sizes := gated_congr agree.enableSizes fun on => SizeOptions.criteria_shown (agree.sizes on)
  have types := gated_congr agree.enableTypes fun on => TypeOptions.criteria_shown (agree.types on)
  have ownership := gated_congr agree.enableOwnership fun on =>
    congrArg OwnershipOptions.criteria (agree.ownership on)
  rw [criteria, criteria, agree.includeHidden, agree.includePatterns, agree.excludePatterns, names,
    text, times, sizes, types, ownership]

/-- Specifications that agree have the same command, with or without their actions. -/
theorem arguments_eq (agree : left.Agree includeActions right) (program : String) :
    (left.command includeActions program).arguments =
      (right.command includeActions program).arguments := by
  have same : left.command includeActions program = right.command includeActions program := by
    rw [command, command, agree.startLocation, agree.traversalPrimaries_eq, agree.prune?_eq,
      agree.criteria_eq, agree.actionPrimaries_eq]
  rw [same]

/-- A search with its actions left out does not show that one side deletes what it finds. The two
also differ in groups that are switched off, and in fields of groups that are switched on. -/
theorem arguments_eq_hidden_deletion :
    let left : Specification :=
      { name := "Old logs"
        startLocation := "/var/log"
        searchText := "*.log"
        enableText := false
        enableSizes := true
        enableTraversal := true
        names := { prune := { enabled := true, text := "*/cache/*" } }
        sizes := { max := { enabled := true, text := "10M" } }
        actions := { deleteMatches := true } }
    let right : Specification :=
      { left with
        name := "Logs"
        searchText := "("
        followLinks := true
        names := { prune := { enabled := true, text := "-o" } }
        sizes := { left.sizes with useDecimalUnits := true }
        actions := { print0 := true } }
    left ≠ right ∧ left.Agree false right ∧
      (left.command false "find").arguments = (right.command false "find").arguments := by
  intro left right
  have agree : left.Agree false right := by
    constructor <;> decide
  exact ⟨by decide, agree, agree.arguments_eq "find"⟩

end Agree

end Specification

end FileSearch
