import FileSearch.Proofs.Command.Actions
import FileSearch.Proofs.CommandText.Quoted
import FileSearch.Proofs.CommandText.Words
import FileSearch.Proofs.Store.Transfer
import Mathlib.Data.List.Basic

/-!
# Rendered commands as command fields

A rendered command that is entered as the command of an action. A command field ends a word at every
closing quote, where a shell goes on, so the words are the pieces of the arguments between single
quotes and the single quotes themselves.
-/

set_option autoImplicit false

namespace FileSearch

namespace CommandText

/-- The words that a command field has for an argument: what stands between its single quotes, with
a word of one single quote between each two pieces. -/
def quotePieces (argument : List Char) : List (List Char) :=
  (argument.splitOn '\'').intersperse ['\'']

/-! ## One argument -/

theorem Literal.of_notMem {piece : List Char} (noQuote : '\'' ∉ piece) (atEnd : Bool) :
    Literal .single atEnd piece piece := by
  induction piece with
  | nil => exact .nil
  | cons c piece ih =>
      obtain ⟨first, others⟩ := not_or.mp (mt List.mem_cons.mpr noQuote)
      exact .plain (beq_eq_false_iff_ne.mpr (Ne.symm first)) (fun _ => rfl) (ih others)

theorem Literal.of_plain {cs : List Char} (plain : ∀ c ∈ cs, isPlain c = true) (atEnd : Bool) :
    Literal .bare atEnd cs cs := by
  induction cs with
  | nil => exact .nil
  | cons c cs ih =>
      obtain ⟨first, others⟩ := List.forall_mem_cons.mp plain
      have goesOn : Quoting.bare.stops c = false := by
        simp [Quoting.stops, isBlank_of_isPlain first,
          ne_of_isPlain first (show isPlain '\'' = false by decide),
          ne_of_isPlain first (show isPlain '"' = false by decide)]
      exact .plain goesOn (fun same => absurd same (ne_of_isPlain first (by decide))) (ih others)

theorem wordsFrom_inQuotes {piece : List Char} (noQuote : '\'' ∉ piece) (rest : List Char) :
    wordsFrom .bare [] (inQuotes piece ++ rest) = piece :: wordsFrom .bare [] rest := by
  have marked : Quoting.single.mark? = some '\'' := rfl
  have inner : wordsFrom .single [] (piece ++ '\'' :: rest) = _ :=
    Literal.wordsFrom_append (Literal.of_notMem noQuote _) []
  rw [inQuotes, List.cons_append, List.append_assoc, List.singleton_append,
    wordsFrom_opening marked, inner, List.append_nil, wordsFrom_closing marked,
    List.reverse_reverse]
  rfl

/-- An escaped quote before a section is a word. -/
theorem wordsFrom_escapedQuote {rest : List Char} (stops : Quoting.bare.Stops rest) :
    wordsFrom .bare [] (['\\', '\''] ++ rest) = ['\''] :: wordsFrom .bare [] rest := by
  rw [List.cons_append, List.singleton_append, wordsFrom_escaped (by decide),
    wordsFrom_of_stops stops]
  rfl

theorem wordsFrom_pieces {pieces : List (List Char)} (nonempty : pieces ≠ [])
    (noQuotes : ∀ piece ∈ pieces, '\'' ∉ piece) (rest : List Char) :
    wordsFrom .bare [] (['\\', '\''].intercalate (pieces.map inQuotes) ++ rest) =
      pieces.intersperse ['\''] ++ wordsFrom .bare [] rest := by
  induction pieces with
  | nil => exact absurd rfl nonempty
  | cons first others ih =>
      obtain ⟨noQuote, noQuotes⟩ := List.forall_mem_cons.mp noQuotes
      cases others with
      | nil =>
          rw [List.map_singleton, List.intercalate_singleton, wordsFrom_inQuotes noQuote]
          rfl
      | cons second others =>
          have stops : Quoting.bare.Stops
              (['\\', '\''].intercalate ((second :: others).map inQuotes) ++ rest) := by
            rw [List.map_cons, inQuotes, List.intercalate_cons_cons_left]
            exact stops_cons (by decide) _
          rw [List.map_cons, List.map_cons, List.intercalate_cons_cons, List.append_assoc,
            List.append_assoc, wordsFrom_inQuotes noQuote, ← List.map_cons,
            wordsFrom_escapedQuote stops, ih (List.cons_ne_nil _ _) noQuotes]
          rfl

theorem wordsFrom_quoteChars (cs : List Char) {rest : List Char}
    (stops : Quoting.bare.Stops rest) :
    wordsFrom .bare [] (quoteChars cs ++ rest) = quotePieces cs ++ wordsFrom .bare [] rest := by
  rcases quoteChars_cases cs with ⟨nonempty, plain, same⟩ | quoted
  · have noQuote : '\'' ∉ cs := fun listed => absurd (plain _ listed) (by decide)
    rw [same, (Literal.of_plain plain _).wordsFrom_append, List.append_nil,
      wordsFrom_of_stops stops, pendingWord_reverse, List.isEmpty_eq_false_iff.mpr nonempty,
      quotePieces, List.splitOn_eq_singleton noQuote]
    rfl
  · rw [quoted]
    exact wordsFrom_pieces (List.splitOn_ne_nil _ _)
      (fun _ listed => quote_notMem_of_mem_splitOn listed) rest

/-! ## Argument vectors -/

theorem wordsFrom_intercalate (arguments : List (List Char)) :
    wordsFrom .bare [] ([' '].intercalate (arguments.map quoteChars)) =
      arguments.flatMap quotePieces := by
  induction arguments with
  | nil => rfl
  | cons first others ih =>
      cases others with
      | nil =>
          have single := wordsFrom_quoteChars first (stops_nil .bare)
          rw [List.append_nil] at single
          rw [List.map_singleton, List.intercalate_singleton, single, List.flatMap_singleton]
          exact List.append_nil _
      | cons second others =>
          have stops := stops_cons (show Quoting.bare.stops ' ' = true by decide)
          rw [List.map_cons, List.map_cons, List.intercalate_cons_cons, List.append_assoc,
            List.singleton_append, wordsFrom_quoteChars first (stops _),
            wordsFrom_blank (by decide), ← List.map_cons, ih]
          rfl

theorem length_quotePieces (argument : List Char) :
    1 ≤ (quotePieces argument).length ∧
      ((quotePieces argument).length = 1 ↔ '\'' ∉ argument) := by
  have positive := List.length_pos_iff.mpr (List.splitOn_ne_nil '\'' argument)
  rw [quotePieces, List.length_intersperse]
  refine ⟨by omega, fun single => ?_, fun noQuote => ?_⟩
  · obtain ⟨piece, pieces⟩ := List.length_eq_one_iff.mp
      (show (argument.splitOn '\'').length = 1 by omega)
    have joined : ['\''].intercalate (argument.splitOn '\'') = argument :=
      List.intercalate_splitOn '\''
    have listed : piece ∈ argument.splitOn '\'' := by
      rw [pieces]
      exact List.mem_singleton_self piece
    rw [pieces, List.intercalate_singleton] at joined
    rw [← joined]
    exact quote_notMem_of_mem_splitOn listed
  · rw [List.splitOn_eq_singleton noQuote]
    rfl

/-- No argument has less than one word, so there are as many words as arguments only where each
argument has one. -/
theorem length_flatMap_quotePieces (arguments : List (List Char)) :
    arguments.length ≤ (arguments.flatMap quotePieces).length ∧
      ((arguments.flatMap quotePieces).length = arguments.length →
        ∀ argument ∈ arguments, '\'' ∉ argument) := by
  induction arguments with
  | nil => simp
  | cons first others ih =>
      obtain ⟨positive, single⟩ := length_quotePieces first
      obtain ⟨least, separate⟩ := ih
      rw [List.flatMap_cons, List.length_append, List.length_cons]
      refine ⟨by omega, fun same => List.forall_mem_cons.mpr ⟨single.mp (by omega), ?_⟩⟩
      exact separate (by omega)

theorem words_render_eq_flatMap (arguments : List String) :
    words (render arguments) =
      arguments.flatMap fun argument => (quotePieces argument.toList).map String.ofList := by
  have read := wordsFrom_intercalate (arguments.map String.toList)
  simp only [List.map_map, Function.comp_def] at read
  rw [words, toList_render, read, List.map_flatMap, List.flatMap_map]

theorem words_render_eq_self_iff (arguments : List String) :
    words (render arguments) = arguments ↔ ∀ argument ∈ arguments, '\'' ∉ argument.toList := by
  rw [words_render_eq_flatMap]
  constructor
  · intro same
    have counted := congrArg List.length same
    have separate := (length_flatMap_quotePieces (arguments.map String.toList)).2
    simp only [List.length_flatMap, List.length_map, List.map_map, Function.comp_def] at counted separate
    simpa using separate counted
  · intro noQuotes
    have single : ∀ argument ∈ arguments,
        (quotePieces argument.toList).map String.ofList = [argument] := by
      intro argument listed
      rw [quotePieces, List.splitOn_eq_singleton (noQuotes argument listed)]
      exact congrArg (fun text => [text]) String.ofList_toList
    rw [List.flatMap_congr single, List.flatMap_singleton']

end CommandText

/-! ## Rendered commands as actions -/

/-- The words of an action stand together in the command. -/
theorem SearchCommand.infix_arguments {command : SearchCommand} {action : Command.Primary}
    (listed : action ∈ command.actions) : action.words <:+: command.arguments := by
  obtain ⟨before, after, split⟩ := List.append_of_mem listed
  have inActions : action.words <:+: command.actionWords :=
    ⟨before.flatMap Command.Primary.words, after.flatMap Command.Primary.words, by
      rw [actionWords, split, List.flatMap_append, List.flatMap_cons, List.append_assoc]⟩
  have inExpression : command.actionWords <:+: command.expressionWords := by
    unfold expressionWords
    split
    · exact (List.suffix_append _ _).isInfix
    · rename_i test _
      let guarded := if command.criteria.isEmpty then [] else "(" :: (command.criteriaWords ++ [")"])
      exact ⟨"(" :: (test.words ++ "-prune" :: "-o" :: guarded), [")"], by simp [guarded]⟩
  exact inActions.trans (inExpression.trans (List.infix_cons (List.suffix_append _ _).isInfix))

namespace ActionOptions

variable {options : ActionOptions}

theorem execAction_withEffect (options : ActionOptions) :
    options.withEffect.execAction = options.execAction := by
  unfold withEffect
  split <;> rfl

theorem execAction_limit (within : options.exec.text.utf8ByteSize ≤ Limit.command) :
    (ActionOptions.schema.limit options).execAction = options.execAction := by
  have kept : (ActionOptions.schema.limit options).exec = options.exec := by
    change Switched.mk options.exec.enabled (Text.truncate options.exec.text Limit.command) = _
    rw [Text.truncate_eq_self within]
  -- The options are taken apart first: else the two sides are compared field by field.
  have others : (ActionOptions.schema.limit options).execVariant = options.execVariant ∧
      (ActionOptions.schema.limit options).execUsePlus = options.execUsePlus := by
    cases options
    dsimp only
    exact ⟨rfl, rfl⟩
  simp only [execAction, kept, others]

end ActionOptions

namespace Specification

variable {specification : Specification}

theorem infix_arguments_of_mem_execAction {action : Command.Primary}
    (listed : action ∈ specification.actions.execAction)
    (enabled : specification.enableActions = true) (program : String) :
    action.words <:+: (specification.command true program).arguments := by
  apply SearchCommand.infix_arguments
  rw [← specification.actions.execAction_withEffect] at listed
  have selected := ActionOptions.mem_selected_of_mem_execAction listed
  change action ∈ specification.actionPrimaries true
  rw [actionPrimaries_eq_ite, if_pos ⟨rfl, enabled, List.ne_nil_of_mem selected⟩]
  exact selected

theorem execAction_canonical (name : String)
    (within : specification.actions.exec.text.utf8ByteSize ≤ Limit.command) :
    (specification.canonical name).actions.execAction = specification.actions.execAction := by
  simp only [canonical, ActionOptions.execAction_withEffect, limited_actions,
    ActionOptions.execAction_limit within]

theorem enableActions_canonical (name : String) :
    (specification.canonical name).enableActions = specification.enableActions :=
  rfl

end Specification

namespace CommandText

/-- The words of a rendered command are the pieces of its arguments. They are the arguments
themselves exactly where no argument has a single quote, and then the rendered command, entered as
the command of an action, stands in the search command as it was. So it does after saving, if it is
not longer than the limit of such commands. -/
theorem words_render (arguments : List String) :
    words (render arguments) =
        arguments.flatMap (fun argument => (quotePieces argument.toList).map String.ofList) ∧
      (words (render arguments) = arguments ↔
        ∀ argument ∈ arguments, '\'' ∉ argument.toList) ∧
      ((∀ argument ∈ arguments, '\'' ∉ argument.toList) → arguments ≠ [] →
        ∀ specification : Specification, specification.enableActions = true →
          specification.actions.exec = ⟨true, render arguments⟩ →
          let action : Command.Primary := ⟨specification.actions.execVariant.flag,
            arguments ++ [if specification.actions.execUsePlus then "+" else ";"]⟩
          ∀ program, action.words <:+: (specification.command true program).arguments ∧
            ((render arguments).utf8ByteSize ≤ Limit.command → ∀ name, action.words <:+:
              ((specification.canonical name).command true program).arguments)) := by
  refine ⟨words_render_eq_flatMap arguments, words_render_eq_self_iff arguments, ?_⟩
  intro noQuotes nonempty specification enabled entered action program
  have separate := (words_render_eq_self_iff arguments).mpr noQuotes
  have listed : action ∈ specification.actions.execAction := by
    rw [ActionOptions.execAction_eq_singleton (by rw [entered])
      (by rw [entered, separate]; exact nonempty), entered, separate]
    exact List.mem_singleton_self action
  refine ⟨Specification.infix_arguments_of_mem_execAction listed enabled program, ?_⟩
  intro within name
  rw [← Specification.execAction_canonical name (by rw [entered]; exact within)] at listed
  rw [← Specification.enableActions_canonical name] at enabled
  exact Specification.infix_arguments_of_mem_execAction listed enabled program

end CommandText

end FileSearch
