import FileSearch.Command.Basic
import FileSearch.Proofs.Command.Grammar

/-!
# Actions of commands

Which actions the options select, and that every command has an action and each of its actions is
named as one.
-/

set_option autoImplicit false

namespace FileSearch

open Command (Primary)
open Command.Operands (actionWords)

theorem Command.Primary.forall_mem_flag {P : Primary → Prop} {selected : Bool} {word : String} :
    (∀ primary ∈ flag selected word, P primary) ↔ (selected = true → P (.bare word)) := by
  cases selected <;> simp [flag]

theorem Command.Primary.mem_flag {selected : Bool} {word : String} {action : Primary} :
    action ∈ flag selected word ↔ selected = true ∧ action = .bare word := by
  cases selected <;> simp [flag]

theorem Switched.mem_active? {switched : Switched} {text : String} :
    text ∈ switched.active?.toList ↔
      (switched.enabled = true ∧ switched.text ≠ "") ∧ text = switched.text := by
  unfold active?
  split <;> simp_all

theorem Switched.mem_action {switched : Switched} {word : String} {action : Primary} :
    action ∈ switched.action word ↔
      (switched.enabled = true ∧ switched.text ≠ "") ∧ action = .unary word switched.text := by
  simp only [Switched.action, List.mem_map, mem_active?]
  constructor
  · rintro ⟨text, ⟨active, rfl⟩, rfl⟩
    exact ⟨active, rfl⟩
  · rintro ⟨active, rfl⟩
    exact ⟨_, ⟨active, rfl⟩, rfl⟩

namespace ActionOptions

/-- The word at the end of a command clause. -/
def clauseMark (options : ActionOptions) : String :=
  if options.execUsePlus then "+" else ";"

/-- The options switch an action on, and it has what it needs: a command at least one word, the
other actions with operands a text for the first one. -/
inductive Selects (options : ActionOptions) : Primary → Prop where
  | print : options.print = true → Selects options (.bare "-print")
  | print0 : options.print0 = true → Selects options (.bare "-print0")
  | ls : options.ls = true → Selects options (.bare "-ls")
  | delete : options.deleteMatches = true → Selects options (.bare "-delete")
  | quit : options.quitEarly = true → Selects options (.bare "-quit")
  | command : options.exec.enabled = true → CommandText.words options.exec.text ≠ [] →
      Selects options ⟨options.execVariant.flag,
        CommandText.words options.exec.text ++ [options.clauseMark]⟩
  | fprint : options.fprint.enabled = true → options.fprint.text ≠ "" →
      Selects options (.unary "-fprint" options.fprint.text)
  | fprint0 : options.fprint0.enabled = true → options.fprint0.text ≠ "" →
      Selects options (.unary "-fprint0" options.fprint0.text)
  | fls : options.fls.enabled = true → options.fls.text ≠ "" →
      Selects options (.unary "-fls" options.fls.text)
  | printf : options.printf.enabled = true → options.printf.text ≠ "" →
      Selects options (.unary "-printf" options.printf.text)
  | fprintf : options.fprintf.enabled = true → options.fprintf.text ≠ "" →
      Selects options ⟨"-fprintf", [options.fprintf.text, options.fprintfFormat]⟩

variable {options : ActionOptions} {action : Primary}

theorem execAction_eq_singleton (enabled : options.exec.enabled = true)
    (nonempty : CommandText.words options.exec.text ≠ []) :
    options.execAction = [⟨options.execVariant.flag,
      CommandText.words options.exec.text ++ [options.clauseMark]⟩] := by
  simp [execAction, clauseMark, enabled, nonempty]

theorem mem_execAction : action ∈ options.execAction ↔
    (options.exec.enabled = true ∧ CommandText.words options.exec.text ≠ []) ∧
      action = ⟨options.execVariant.flag,
        CommandText.words options.exec.text ++ [options.clauseMark]⟩ := by
  simp [execAction, clauseMark]

theorem mem_fprintfAction : action ∈ options.fprintfAction ↔
    (options.fprintf.enabled = true ∧ options.fprintf.text ≠ "") ∧
      action = ⟨"-fprintf", [options.fprintf.text, options.fprintfFormat]⟩ := by
  simp only [fprintfAction, List.mem_map, Switched.mem_active?]
  constructor
  · rintro ⟨text, ⟨active, rfl⟩, rfl⟩
    exact ⟨active, rfl⟩
  · rintro ⟨active, rfl⟩
    exact ⟨_, ⟨active, rfl⟩, rfl⟩

theorem mem_selected_iff : action ∈ options.selected ↔ options.Selects action := by
  simp only [selected, List.mem_append, Primary.mem_flag, Switched.mem_action, mem_execAction,
    mem_fprintfAction, or_assoc]
  constructor
  · rintro (⟨on, rfl⟩ | ⟨on, rfl⟩ | ⟨on, rfl⟩ | ⟨on, rfl⟩ | ⟨on, rfl⟩ | ⟨on, rfl⟩ | ⟨on, rfl⟩ |
      ⟨on, rfl⟩ | ⟨on, rfl⟩ | ⟨on, rfl⟩ | ⟨on, rfl⟩)
    · exact .print on
    · exact .print0 on
    · exact .ls on
    · exact .delete on
    · exact .quit on
    · exact .command on.1 on.2
    · exact .fprint on.1 on.2
    · exact .fprint0 on.1 on.2
    · exact .fls on.1 on.2
    · exact .printf on.1 on.2
    · exact .fprintf on.1 on.2
  · intro selects
    cases selects with
    | print on | print0 on | ls on | delete on | quit on => simp [on]
    | command on text | fprint on text | fprint0 on text | fls on text | printf on text
    | fprintf on text => simp [on, text]

/-- An action that is more than leaving a directory out. -/
def Acts (action : Primary) : Prop :=
  action.word ∈ actionWords ∧ action.word ≠ "-prune"

theorem acts_of_word {word : String} {operands : List String}
    (listed : word ∈ actionWords ∧ word ≠ "-prune") : Acts ⟨word, operands⟩ :=
  listed

theorem Selects.acts (selects : options.Selects action) : Acts action := by
  cases selects with
  | command => exact acts_of_word (by cases options.execVariant <;> decide)
  | print | print0 | ls | delete | quit | fprint | fprint0 | fls | printf | fprintf =>
      exact acts_of_word (by decide)

/-! ## The order of actions -/

/-- The selected actions in front of stopping. -/
def plainActions (options : ActionOptions) : List Primary :=
  Primary.flag options.print "-print" ++ Primary.flag options.print0 "-print0"
    ++ Primary.flag options.ls "-ls" ++ Primary.flag options.deleteMatches "-delete"

/-- The selected actions behind the command. -/
def outputActions (options : ActionOptions) : List Primary :=
  options.fprint.action "-fprint" ++ options.fprint0.action "-fprint0"
    ++ options.fls.action "-fls" ++ options.printf.action "-printf" ++ options.fprintfAction

theorem selected_eq (options : ActionOptions) : options.selected =
    options.plainActions ++ (Primary.flag options.quitEarly "-quit"
      ++ (options.execAction ++ options.outputActions)) := by
  simp only [selected, plainActions, outputActions, List.append_assoc]

theorem mem_selected_of_mem_execAction (listed : action ∈ options.execAction) :
    action ∈ options.selected := by
  rw [selected_eq]
  exact List.mem_append_right _ (List.mem_append_right _ (List.mem_append_left _ listed))

theorem exists_of_mem_plainActions (listed : action ∈ options.plainActions) :
    ∃ word, action = .bare word ∧ word ∈ Command.Operands.bareWords ∧ word ≠ "-quit" := by
  simp only [plainActions, List.mem_append, Primary.mem_flag, or_assoc] at listed
  rcases listed with ⟨-, rfl⟩ | ⟨-, rfl⟩ | ⟨-, rfl⟩ | ⟨-, rfl⟩ <;>
    exact ⟨_, rfl, by decide, by decide⟩

theorem execVariant_flag_ne_quit (mode : ExecMode) : mode.flag ≠ "-quit" := by
  cases mode <;> decide

theorem complete_of_mem_outputActions (listed : action ∈ options.outputActions) :
    action.Complete ∧ action.operands ≠ [] ∧ action.word ≠ "-quit" := by
  simp only [outputActions, List.mem_append, Switched.mem_action, mem_fprintfAction,
    or_assoc] at listed
  have unary {word : String} (text : String) (known : word ∈ Command.Operands.unaryWords)
      (other : word ≠ "-quit") : (Primary.unary word text).Complete ∧
        (Primary.unary word text).operands ≠ [] ∧ (Primary.unary word text).word ≠ "-quit" :=
    ⟨Primary.complete_unary known text, List.cons_ne_nil _ _, other⟩
  rcases listed with ⟨-, rfl⟩ | ⟨-, rfl⟩ | ⟨-, rfl⟩ | ⟨-, rfl⟩ | ⟨-, rfl⟩
  · exact unary _ (by decide) (by decide)
  · exact unary _ (by decide) (by decide)
  · exact unary _ (by decide) (by decide)
  · exact unary _ (by decide) (by decide)
  · have known : Command.Sign.ofWord? "-fprintf" = none ∧
        Command.Operands.ofWord? "-fprintf" = some (.fixed 2) ∧ "-fprintf" ≠ "-quit" := by decide
    exact ⟨⟨known.1, known.2.1⟩, List.cons_ne_nil _ _, known.2.2⟩

end ActionOptions

namespace Specification

variable (specification : Specification) (includeActions : Bool)

/-- A command has the selected actions if they count and there are any, and else it prints. -/
theorem actionPrimaries_eq_ite : specification.actionPrimaries includeActions =
    if includeActions = true ∧ specification.enableActions = true ∧
        specification.actions.withEffect.selected ≠ [] then
      specification.actions.withEffect.selected
    else [.bare "-print"] := by
  unfold actionPrimaries
  cases includeActions with
  | false => simp
  | true =>
      cases specification.enableActions with
      | false => simp
      | true => cases specification.actions.withEffect.selected <;> simp

theorem actionPrimaries_spec : specification.actionPrimaries includeActions ≠ [] ∧
    ∀ action ∈ specification.actionPrimaries includeActions, ActionOptions.Acts action := by
  rw [actionPrimaries_eq_ite]
  split
  · rename_i counts
    exact ⟨counts.2.2, fun action listed => (ActionOptions.mem_selected_iff.mp listed).acts⟩
  · refine ⟨List.cons_ne_nil _ _, fun action listed => ?_⟩
    cases List.mem_singleton.mp listed
    exact ActionOptions.acts_of_word (by decide)

/-- The words of the actions are those of one unit, which begins with an action. -/
theorem exists_unit (program : String) : ∃ unit : Primary,
    unit.words = (specification.command includeActions program).actionWords ∧
      ActionOptions.Acts unit := by
  obtain ⟨nonempty, acts⟩ := actionPrimaries_spec specification includeActions
  change ∃ unit : Primary,
    unit.words = (specification.actionPrimaries includeActions).flatMap Primary.words ∧ _
  cases actions : specification.actionPrimaries includeActions with
  | nil => exact absurd actions nonempty
  | cons first others =>
      rw [actions] at acts
      exact ⟨⟨first.word, first.operands ++ others.flatMap Primary.words⟩, rfl,
        acts first List.mem_cons_self⟩

end Specification

end FileSearch
