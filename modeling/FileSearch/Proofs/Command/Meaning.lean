import FileSearch.Proofs.Command.Actions
import FileSearch.Proofs.Command.Expression

/-!
# What the words of a command mean

The expression of a command is read from its words, with its actions taken as one unit. The actions
are reached exactly for the files that the specification asks for and that no directory left out
hides, and leaving out is reached exactly for the directories to be left out.
-/

set_option autoImplicit false

namespace FileSearch

open Command (Primary Criterion Expression Cut Leads pruningWords cut_pruning)
open Command.Front (behindOr)
open Command.Operands (actionWords)

/-! ## Visits -/

/-- What holds of a file that is visited: leaving it out always succeeds, other primaries hold as
they are given. -/
def Command.Primary.onVisit (holds : Primary → Bool) (primary : Primary) : Bool :=
  primary == prune || holds primary

namespace Command

variable {holds : Primary → Bool} {primary : Primary}

theorem Primary.Quiet.ne_of_acts {unit : Primary} (quiet : primary.Quiet)
    (acts : unit.word ∈ actionWords) : primary ≠ unit := by
  rintro rfl
  exact quiet.noAction acts

theorem Primary.Quiet.ne_prune (quiet : primary.Quiet) : primary ≠ .prune :=
  quiet.ne_of_acts (by decide)

theorem Primary.Quiet.onVisit_eq (quiet : primary.Quiet) :
    primary.onVisit holds = holds primary := by
  rw [onVisit, beq_eq_false_iff_ne.mpr quiet.ne_prune, Bool.false_or]

theorem Criterion.Sound.holds_onVisit_iff {criterion : Criterion} (sound : criterion.Sound) :
    criterion.Holds (Primary.onVisit holds) ↔ criterion.Holds holds := by
  have same : ∀ test ∈ criterion.tests, test.onVisit holds = holds test :=
    fun test listed => (sound.quiet test listed).onVisit_eq
  cases criterion with
  | must test => rw [Holds, Holds, same test List.mem_cons_self]
  | mustNot test => rw [Holds, Holds, same test List.mem_cons_self]
  | anyOf tests =>
      refine exists_congr fun test => and_congr_right fun listed => ?_
      rw [same test listed]

end Command

namespace Specification

variable {specification : Specification} {holds : Primary → Bool}

theorem leavesOut_iff :
    specification.LeavesOut holds ↔
      ∃ test, specification.prune? = some test ∧ holds test = true := by
  unfold prune? Switched.active?
  constructor
  · rintro ⟨enabled, pruneEnabled, pruneText, word, isWord, passes⟩
    obtain rfl := PathTest.word_iff.mp isWord
    exact ⟨_, by simp [enabled, pruneEnabled, pruneText], passes⟩
  · rintro ⟨test, found, passes⟩
    split at found
    · rename_i enabled
      split at found
      · rename_i active
        cases found
        rw [Bool.and_eq_true, Bool.not_eq_true', String.isEmpty_eq_false_iff] at active
        exact ⟨enabled, active.1, active.2, _, PathTest.word_iff.mpr rfl, passes⟩
      · cases found
    · cases found

theorem criteria_hold_onVisit_iff :
    (∀ criterion ∈ specification.criteria, criterion.Holds (Primary.onVisit holds)) ↔
      specification.Wants holds := by
  rw [← criteria_hold_iff]
  exact forall₂_congr fun criterion listed =>
    (specification.sound_criteria criterion listed).holds_onVisit_iff

end Specification

/-! ## Commands -/

namespace SearchCommand

variable {command : SearchCommand}

/-- The words behind the start locations and the options of a command are those of an expression,
in which its actions count as one unit. -/
inductive ReadsAs (command : SearchCommand) (unit : Primary) (expression : Expression) : Prop where
  | intro (front back : List String) :
      command.arguments = command.program :: (command.startLocations ++
        command.traversal.flatMap Primary.words ++ (front ++ unit.words ++ back)) →
      unit.words = command.actionWords →
      Expression.ofWordsAround? front unit back = some expression →
      ReadsAs command unit expression

theorem readsAs_of_prune?_none {unit : Primary} {body : Expression}
    (found : command.prune? = none) (words : unit.words = command.actionWords)
    (sound : ∀ criterion ∈ command.criteria, criterion.Sound)
    (leads : Leads (command.criteria.flatMap Criterion.lexemes ++ [.primary unit])
      (behindOr none none) (behindOr none (some body))) :
    command.ReadsAs unit body := by
  refine .intro (command.criteria.flatMap Criterion.words) [] ?_ words
    (leads.ofWordsAround? (Criterion.cut_criteria sound) .nil rfl)
  rw [arguments, expressionWords_of_prune?_none found, words, List.append_nil]

theorem readsAs_of_prune?_some {test unit : Primary} {body : Expression}
    (found : command.prune? = some test) (complete : test.Complete)
    (words : unit.words = command.actionWords)
    (sound : ∀ criterion ∈ command.criteria, criterion.Sound)
    (leads : ∀ disjunction?,
      Leads (Criterion.guardedLexemes command.criteria ++ [.primary unit])
        (behindOr disjunction? none) (behindOr disjunction? (some body))) :
    command.ReadsAs unit
      (.disjunction (.conjunction (.primary test) (.primary .prune)) body) := by
  have closing : Cut [")"] [.sign .closing] := .sign rfl .nil
  refine .intro (pruningWords test command.criteria) [")"] ?_ words
    ((Leads.pruning leads).ofWordsAround? (cut_pruning complete sound) closing rfl)
  rw [arguments, expressionWords_of_prune?_some found, words]

end SearchCommand

namespace Specification

/-- The criteria of a specification and its actions behind them make an expression that reaches the
actions exactly when the specification asks for the file. -/
theorem exists_body (specification : Specification) {unit : Primary}
    (acts : ActionOptions.Acts unit) :
    ∃ body : Expression,
      (∀ holds, unit ∈ (body.visit (Primary.onVisit holds)).2 ↔ specification.Wants holds) ∧
      (∀ holds, Primary.prune ∉ (body.visit holds).2) ∧
      ∀ disjunction?,
        Leads (specification.criteria.flatMap Criterion.lexemes ++ [.primary unit])
          (behindOr disjunction? none) (behindOr disjunction? (some body)) ∧
        Leads (Criterion.guardedLexemes specification.criteria ++ [.primary unit])
          (behindOr disjunction? none) (behindOr disjunction? (some body)) := by
  have sound := specification.sound_criteria
  have fresh {primary : Primary} (action : primary.word ∈ actionWords) :
      primary ∉ specification.criteria.flatMap Criterion.tests := by
    intro listed
    obtain ⟨criterion, member, test⟩ := List.mem_flatMap.mp listed
    exact ((sound criterion member).quiet primary test).ne_of_acts action rfl
  obtain ⟨body, reachesUnit, reaches, leads⟩ :=
    Criterion.exists_leads_unit sound (fresh acts.1)
  refine ⟨body, ?_, ?_, leads⟩
  · intro holds
    rw [reachesUnit, criteria_hold_onVisit_iff]
  · intro holds reached
    rcases reaches holds _ reached with same | listed
    · exact acts.2 (same ▸ rfl)
    · exact fresh (by decide) listed

/-- The expression of a command is complete, with its actions taken as one unit. They are reached
exactly when the specification asks for the file and does not leave it out, and leaving out is
reached exactly when it does. -/
theorem reaches_actions_iff (specification : Specification) (includeActions : Bool)
    (program : String) :
    ∃ (unit : Primary) (expression : Expression),
      (specification.command includeActions program).ReadsAs unit expression ∧
      ∀ holds : Primary → Bool,
        (unit ∈ (expression.visit (Primary.onVisit holds)).2 ↔
          specification.Wants holds ∧ ¬ specification.LeavesOut holds) ∧
        (Primary.prune ∈ (expression.visit (Primary.onVisit holds)).2 ↔
          specification.LeavesOut holds) := by
  obtain ⟨unit, words, acts⟩ := specification.exists_unit includeActions program
  obtain ⟨body, reachesUnit, pruneUnreached, leads⟩ := specification.exists_body acts
  have sound := specification.sound_criteria
  cases found : specification.prune? with
  | none =>
      have stays (holds : Primary → Bool) : ¬ specification.LeavesOut holds := by
        simp [leavesOut_iff, found]
      refine ⟨unit, body, SearchCommand.readsAs_of_prune?_none found words sound (leads none).1, ?_⟩
      intro holds
      simp [reachesUnit, stays, pruneUnreached]
  | some test =>
      have quiet := quiet_of_prune? found
      have leavesOut (holds : Primary → Bool) :
          specification.LeavesOut holds ↔ holds test = true := by
        simp [leavesOut_iff, found]
      refine ⟨unit, _, SearchCommand.readsAs_of_prune?_some found quiet.complete words sound
        fun disjunction? => (leads disjunction?).2, ?_⟩
      intro holds
      have truth : test.onVisit holds = holds test := quiet.onVisit_eq
      have pruned : Primary.prune.onVisit holds = true := rfl
      have unitNotTest : unit ≠ test := (quiet.ne_of_acts acts.1).symm
      have unitNotPrune : unit ≠ .prune := fun same => acts.2 (same ▸ rfl)
      have pruneNotTest : Primary.prune ≠ test := quiet.ne_prune.symm
      rw [leavesOut, Bool.not_eq_true]
      constructor
      · simp [Expression.mem_visit_disjunction, Expression.mem_visit_conjunction, truth, pruned,
          unitNotTest, unitNotPrune, reachesUnit, and_comm]
      · simp [Expression.mem_visit_disjunction, Expression.mem_visit_conjunction, truth,
          pruneNotTest, pruneUnreached]

end Specification

end FileSearch
