import FileSearch.Proofs.Command.Actions
import FileSearch.Proofs.Command.Expression

/-!
# Start locations that begin the expression

A command without its own actions prints, and does nothing else, as far as its options and criteria
go: no text of theirs stands where an action could. Start locations do, from the first one that
begins like an expression, so the command does only what they let it do.
-/

set_option autoImplicit false

namespace FileSearch.Command

open Operands (actionWords)

variable {words front back : List String} {word : String} {unfinished : Unfinished}

/-- If the word names an action, it only prints or leaves a directory out. -/
def Spares (word : String) : Prop :=
  word ∈ actionWords → word = "-print" ∨ word = "-prune"

/-- No word that begins a primary names an action, printing and leaving out apart. -/
def OnlyPrints (words : List String) : Prop :=
  ∀ word ∈ Unfinished.heads .nothing words, Spares word

/-! ## Words that are complete by themselves -/

/-- Words that only print and leave nothing open. -/
structure Spared (words : List String) : Prop where
  onlyPrints : OnlyPrints words
  complete : words.foldl Unfinished.behind .nothing = .nothing

namespace Spared

theorem append (spared : Spared front) (behind : Spared back) : Spared (front ++ back) where
  onlyPrints := by
    intro word head
    rw [Unfinished.heads_append, spared.complete, List.mem_append] at head
    rcases head with inFront | inBack
    · exact spared.onlyPrints word inFront
    · exact behind.onlyPrints word inBack
  complete := by rw [List.foldl_append, spared.complete, behind.complete]

theorem sign {sign : Sign} (joint : Sign.ofWord? word = some sign) : Spared [word] where
  onlyPrints := by
    intro head member
    rw [(heads_sign joint).1, List.mem_singleton] at member
    intro action
    have noSign : ∀ word ∈ actionWords, Sign.ofWord? word = none := by decide
    rw [member] at action
    rw [noSign word action] at joint
    cases joint
  complete := (heads_sign joint).2

theorem primary {primary : Primary} (complete : primary.Complete)
    (spares : Spares primary.word) : Spared primary.words where
  onlyPrints := by
    intro head member
    rw [complete.heads_words.1, List.mem_singleton] at member
    rwa [member]
  complete := complete.heads_words.2

end Spared

/-- Words that fall into signs and primaries have no other heads than these. -/
theorem Cut.spared {lexemes : List Lexeme} (cut : Cut words lexemes)
    (spares : ∀ primary, .primary primary ∈ lexemes → Spares primary.word) : Spared words := by
  induction cut with
  | nil => exact ⟨fun _ head => (List.not_mem_nil head).elim, rfl⟩
  | sign joint _ ih =>
      have others := ih fun primary listed => spares primary (List.mem_cons_of_mem _ listed)
      exact (Spared.sign joint).append others
  | primary complete _ ih =>
      have others := ih fun primary listed => spares primary (List.mem_cons_of_mem _ listed)
      exact (Spared.primary complete (spares _ List.mem_cons_self)).append others

theorem Primary.Quiet.spares {primary : Primary} (quiet : primary.Quiet) : Spares primary.word :=
  fun action => absurd action quiet.noAction

namespace Criterion

variable {criteria : List Criterion}

theorem spares_lexemes (sound : ∀ criterion ∈ criteria, criterion.Sound) (test : Primary)
    (listed : .primary test ∈ criteria.flatMap lexemes) : Spares test.word := by
  obtain ⟨criterion, member, inLexemes⟩ := List.mem_flatMap.mp listed
  exact ((sound criterion member).quiet test (mem_tests_of_mem_lexemes inLexemes)).spares

theorem spared_criteria (sound : ∀ criterion ∈ criteria, criterion.Sound) :
    Spared (criteria.flatMap Criterion.words) :=
  (cut_criteria sound).spared (spares_lexemes sound)

theorem spared_pruning {test : Primary} (quiet : test.Quiet)
    (sound : ∀ criterion ∈ criteria, criterion.Sound) :
    Spared (pruningWords test criteria) := by
  refine (cut_pruning quiet.complete sound).spared fun primary listed => ?_
  simp only [pruningLexemes, List.mem_cons, Lexeme.primary.injEq, reduceCtorEq, false_or] at listed
  rcases listed with rfl | rfl | guarded
  · exact quiet.spares
  · exact fun _ => .inr rfl
  · exact spares_lexemes sound primary (mem_guardedLexemes guarded)

end Criterion

/-! ## Words that leave something open -/

inductive Unfinished.AtMostOne : Unfinished → Prop where
  | nothing : AtMostOne .nothing
  | operand {name operands} : AtMostOne (.fixed name operands 0)

theorem Operands.ofWord?_cases {operands : Operands} (found : ofWord? word = some operands) :
    operands = .fixed 0 ∨ operands = .fixed 1 ∨ ¬ Spares word := by
  have fprintf : ¬ Spares "-fprintf" := fun spares => by simpa using spares (by decide)
  have clause : ∀ word ∈ clauseWords, ¬ Spares word := by
    intro word listed
    simp only [clauseWords, List.mem_cons, List.not_mem_nil, or_false] at listed
    rcases listed with rfl | rfl | rfl | rfl <;>
      exact fun spares => by simpa using spares (by decide)
  unfold ofWord? at found
  split at found
  · exact .inl (Option.some.inj found).symm
  · split at found
    · exact .inr (.inl (Option.some.inj found).symm)
    · split at found
      · rename_i same
        rw [eq_of_beq same]
        exact .inr (.inr fprintf)
      · split at found
        · rename_i listed
          exact .inr (.inr (clause word (List.contains_iff_mem.mp listed)))
        · cases found

theorem Unfinished.AtMostOne.behind (few : unfinished.AtMostOne)
    (spares : unfinished = .nothing → Spares word) : (unfinished.behind word).AtMostOne := by
  cases few with
  | operand => exact .nothing
  | nothing =>
      unfold Unfinished.behind Lexeme.step? Lexeme.ofWord?
      cases Sign.ofWord? word with
      | some sign => exact .nothing
      | none =>
          cases found : Operands.ofWord? word with
          | none => exact .nothing
          | some operands =>
              rcases Operands.ofWord?_cases found with rfl | rfl | wild
              · exact .nothing
              · exact .operand
              · exact absurd (spares rfl) wild

/-- Words that only print leave at most one operand open. -/
theorem Unfinished.AtMostOne.foldl (few : unfinished.AtMostOne)
    (spares : ∀ word ∈ unfinished.heads words, Spares word) :
    (words.foldl Unfinished.behind unfinished).AtMostOne := by
  induction words generalizing unfinished with
  | nil => exact few
  | cons word words ih =>
      refine ih (few.behind ?_) fun other head => ?_
      · rintro rfl
        exact spares word (List.mem_append_left _ List.mem_cons_self)
      · exact spares other (List.mem_append_right _ head)

/-- Words that only print still do so behind others that do, if an option without operands begins
them. As a last operand of the others that option is lost, but nothing else is. -/
theorem onlyPrints_append_iff {option : String} (complete : (Primary.bare option).Complete)
    (spared : Spared (option :: back)) :
    OnlyPrints (front ++ option :: back) ↔ OnlyPrints front := by
  constructor
  · intro only word head
    refine only word ?_
    rw [Unfinished.heads_append]
    exact List.mem_append_left _ head
  · intro only word head
    have few : (front.foldl Unfinished.behind .nothing).AtMostOne :=
      Unfinished.AtMostOne.nothing.foldl only
    rw [Unfinished.heads_append, List.mem_append] at head
    rcases head with inFront | behind
    · exact only word inFront
    · refine spared.onlyPrints word ?_
      cases opened : front.foldl Unfinished.behind .nothing with
      | nothing => rwa [opened] at behind
      | clause name operands =>
          rw [opened] at few
          cases few
      | fixed name operands missing =>
          -- The option becomes the last operand, and its other words stay what they are.
          rw [opened] at few behind
          cases few
          have nothingOpen : Unfinished.behind .nothing option = .nothing := complete.heads_words.2
          rw [Unfinished.heads, nothingOpen]
          exact List.mem_append_right _ behind

theorem behindStart_cons {program : String} {locations : List String}
    (begins : beginsExpression word = true) :
    behindStart (program :: (locations ++ word :: back)) =
      locations.dropWhile (fun location => !beginsExpression location) ++ word :: back := by
  have stops : (word :: back).dropWhile (fun location => !beginsExpression location) =
      word :: back := by
    rw [List.dropWhile_cons, begins]
    rfl
  rw [behindStart, List.drop_one, List.tail_cons, List.dropWhile_append, stops]
  split
  · rename_i empty
    rw [List.isEmpty_iff.mp empty, List.nil_append]
  · rfl

end FileSearch.Command

namespace FileSearch

open Command (Primary Criterion Cut Spared OnlyPrints Unfinished behindStart beginsExpression)
open Command.Operands (actionWords)

/-! ## Options for walking directories -/

namespace TraversalOptions

variable {options : TraversalOptions}

theorem quiet_operand {switched : Switched} {word : String}
    (listed : word ∈ Command.Operands.unaryWords) (noAction : word ∉ actionWords) :
    ∀ option ∈ operand switched word, option.Quiet := by
  intro option member
  obtain ⟨text, -, rfl⟩ := List.mem_map.mp member
  exact Primary.quiet_unary listed noAction text

theorem quiet_depthBound {recurse : Bool} :
    ∀ option ∈ options.depthBound recurse, option.Quiet := by
  have bound (depth : String) : (Primary.unary "-maxdepth" depth).Quiet :=
    Primary.quiet_unary (by decide) (by decide) depth
  unfold depthBound
  split
  · simpa using bound _
  · cases recurse
    · simpa using bound _
    · simp

theorem quiet_primaries {recurse : Bool} : ∀ option ∈ options.primaries recurse, option.Quiet := by
  have flag {enabled : Bool} {word : String} (listed : word ∈ Command.Operands.bareWords)
      (noAction : word ∉ actionWords) : ∀ option ∈ Primary.flag enabled word, option.Quiet :=
    Primary.forall_mem_flag.mpr fun _ => Primary.quiet_bare listed noAction
  simp only [primaries, List.forall_mem_append, List.forall_mem_singleton, and_assoc]
  refine ⟨?linkMode, ?warnings, ?depth, ?xdev, ?noLeaf, ?race, ?dayStart, ?filesFrom, ?fstype,
    ?links, ?sameFile, ?inode, quiet_depthBound, ?minDepth⟩
  case linkMode => cases options.linkMode <;> exact Primary.quiet_bare (by decide) (by decide)
  case warnings =>
    cases options.warningMode with
    | unchanged => exact fun _ none => (List.not_mem_nil none).elim
    | on => simpa [Warnings.flag?] using Primary.quiet_bare (by decide) (by decide)
    | off => simpa [Warnings.flag?] using Primary.quiet_bare (by decide) (by decide)
  case depth | xdev | noLeaf | race | dayStart => exact flag (by decide) (by decide)
  case filesFrom =>
    cases options.filesFromNullSeparated <;> exact quiet_operand (by decide) (by decide)
  case fstype | links | sameFile | inode | minDepth => exact quiet_operand (by decide) (by decide)

end TraversalOptions

namespace Specification

theorem exists_traversalPrimaries_eq_cons (specification : Specification) :
    ∃ option others, specification.traversalPrimaries = .bare option :: others ∧
      beginsExpression option = true := by
  unfold traversalPrimaries
  split
  · refine ⟨_, _, rfl, ?_⟩
    cases specification.traversal.linkMode <;> decide +kernel
  · refine ⟨_, _, rfl, ?_⟩
    cases specification.followLinks <;> decide +kernel

theorem quiet_traversalPrimaries (specification : Specification) :
    ∀ option ∈ specification.traversalPrimaries, option.Quiet := by
  unfold traversalPrimaries
  split
  · exact TraversalOptions.quiet_primaries
  · simp only [List.forall_mem_cons, List.forall_mem_append, Primary.forall_mem_flag]
    refine ⟨?links, fun _ => Primary.quiet_bare (by decide) (by decide), ?depth⟩
    case links =>
      cases specification.followLinks <;> exact Primary.quiet_bare (by decide) (by decide)
    case depth =>
      cases specification.includeSubdirectories
      · simpa using Primary.quiet_unary (by decide) (by decide) _
      · simp

end Specification

/-! ## Commands -/

theorem SearchCommand.spared_expressionWords {command : SearchCommand}
    (sound : ∀ criterion ∈ command.criteria, criterion.Sound)
    (quiet : ∀ test ∈ command.prune?, test.Quiet) (actions : Spared command.actionWords) :
    Spared command.expressionWords := by
  cases found : command.prune? with
  | none =>
      rw [expressionWords_of_prune?_none found]
      exact (Criterion.spared_criteria sound).append actions
  | some test =>
      rw [expressionWords_of_prune?_some found]
      have closing : Spared [")"] := .sign rfl
      exact ((Criterion.spared_pruning (quiet test found) sound).append actions).append closing

namespace Specification

/-- A command without its own actions does exactly what its start locations let it do, from the
first one that begins like an expression: if none of them does, it only prints. -/
theorem onlyPrints_iff (specification : Specification) (program : String) :
    OnlyPrints (behindStart (specification.command false program).arguments) ↔
      OnlyPrints ((Text.startLocations specification.startLocation).dropWhile
        fun location => !beginsExpression location) := by
  obtain ⟨option, others, traversal, begins⟩ := specification.exists_traversalPrimaries_eq_cons
  have quiet := specification.quiet_traversalPrimaries
  have options : Spared (specification.traversalPrimaries.flatMap Primary.words) := by
    refine (Cut.flatMap fun option listed => .single (quiet option listed).complete).spared ?_
    intro option listed
    obtain ⟨same, member, single⟩ := List.mem_flatMap.mp listed
    cases List.mem_singleton.mp single
    exact (quiet option member).spares
  have print : Spared (Primary.bare "-print").words :=
    .primary (Primary.complete_bare (by decide)) fun _ => .inl rfl
  have expression : Spared (specification.command false program).expressionWords :=
    SearchCommand.spared_expressionWords specification.sound_criteria
      (fun test found => quiet_of_prune? found) print
  have behind : Spared (option :: (others.flatMap Primary.words ++
      (specification.command false program).expressionWords)) := by
    rw [traversal] at options
    exact options.append expression
  have first : (Primary.bare option).Complete := (quiet _ (by simp [traversal])).complete
  have shape : (specification.command false program).arguments =
      program :: (Text.startLocations specification.startLocation ++ option ::
        (others.flatMap Primary.words ++
          (specification.command false program).expressionWords)) := by
    simp [SearchCommand.arguments, command, traversal, Primary.words, Primary.bare]
  rw [shape, Command.behindStart_cons begins, Command.onlyPrints_append_iff first behind]

/-- A start location that is an action is carried out, though the command is to have none. -/
theorem not_onlyPrints_delete :
    ¬ OnlyPrints (behindStart
      ((({ startLocation := "-delete" } : Specification).command false "find").arguments)) := by
  intro only
  have head : "-delete" ∈ Unfinished.heads .nothing (behindStart
      ((({ startLocation := "-delete" } : Specification).command false "find").arguments)) := by
    decide +kernel
  have spares := only "-delete" head (by decide)
  simp at spares

end Specification

end FileSearch
