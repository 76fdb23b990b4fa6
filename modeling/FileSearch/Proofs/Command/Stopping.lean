import FileSearch.Proofs.Command.Clause

/-!
# Stopping at a match

What a search does with a match before it stops. Where stopping is selected it comes behind the
actions without operands and in front of the others, so only the former are performed. It can also
be all that is left: printing takes the place of other actions only where none of them is switched
on, or where nothing is selected at all.
-/

set_option autoImplicit false

namespace FileSearch

open Command (Primary Unfinished Lexeme FitsClause)
open Command.Operands (actionWords)

namespace ActionOptions

variable {options : ActionOptions} {action : Primary}

/-- No other action is named like stopping. -/
theorem Selects.eq_quit (selects : options.Selects action) (named : action.word = "-quit") :
    action = .bare "-quit" ∧ options.quitEarly = true := by
  cases selects with
  | quit on => exact ⟨rfl, on⟩
  | command => exact absurd named (execVariant_flag_ne_quit _)
  | print | print0 | ls | delete | fprint | fprint0 | fls | printf | fprintf =>
      simp [Primary.bare, Primary.unary] at named

end ActionOptions

/-! ## Actions up to the one that stops the search -/

namespace Command.Primary

/-- The actions that are performed for a match, each with success, up to the one that stops the
search. -/
def performed : List Primary → List Primary
  | [] => []
  | action :: rest => if action.word = "-quit" then [action] else action :: performed rest

theorem performed_append_quit {front : List Primary}
    (goesOn : ∀ action ∈ front, action.word ≠ "-quit") (back : List Primary) :
    performed (front ++ bare "-quit" :: back) = front ++ [bare "-quit"] := by
  induction front with
  | nil => rfl
  | cons action front ih =>
      obtain ⟨first, others⟩ := List.forall_mem_cons.mp goesOn
      rw [List.cons_append, performed, if_neg first, ih others]
      rfl

theorem performed_eq_self {actions : List Primary}
    (goesOn : ∀ action ∈ actions, action.word ≠ "-quit") : performed actions = actions := by
  induction actions with
  | nil => rfl
  | cons action actions ih =>
      obtain ⟨first, others⟩ := List.forall_mem_cons.mp goesOn
      rw [performed, if_neg first, ih others]

end Command.Primary

namespace ActionOptions

variable {options : ActionOptions} {action : Primary}

theorem operands_ne_nil_of_behind (listed : action ∈ options.execAction ++ options.outputActions) :
    action.operands ≠ [] := by
  cases List.mem_append.mp listed with
  | inl command =>
      obtain ⟨-, rfl⟩ := mem_execAction.mp command
      exact List.append_ne_nil_of_right_ne_nil _ (List.cons_ne_nil _ _)
  | inr output => exact (complete_of_mem_outputActions output).2.1

theorem performed_selected (options : ActionOptions) : Primary.performed options.selected =
    if options.quitEarly then options.plainActions ++ [.bare "-quit"] else options.selected := by
  have plain : ∀ action ∈ options.plainActions, action.word ≠ "-quit" := by
    intro action listed
    obtain ⟨word, rfl, -, other⟩ := exists_of_mem_plainActions listed
    exact other
  cases quits : options.quitEarly with
  | true =>
      rw [selected_eq, quits]
      exact Primary.performed_append_quit plain _
  | false =>
      refine Primary.performed_eq_self fun action listed named => ?_
      have on := ((mem_selected_iff.mp listed).eq_quit named).2
      rw [quits] at on
      cases on

theorem mem_performed_selected : action ∈ Primary.performed options.selected ↔
    options.Selects action ∧ (options.quitEarly = true → action.operands = []) := by
  rw [performed_selected, ← mem_selected_iff]
  cases quits : options.quitEarly with
  | false => simp
  | true =>
      rw [selected_eq, quits]
      constructor
      · intro performed
        cases List.mem_append.mp performed with
        | inl plain =>
            obtain ⟨word, rfl, -, -⟩ := exists_of_mem_plainActions plain
            exact ⟨List.mem_append_left _ plain, fun _ => rfl⟩
        | inr quit =>
            cases List.mem_singleton.mp quit
            exact ⟨List.mem_append_right _ List.mem_cons_self, fun _ => rfl⟩
      · intro selected
        obtain ⟨listed, noOperands⟩ := selected
        cases List.mem_append.mp listed with
        | inl plain => exact List.mem_append_left _ plain
        | inr others =>
            cases List.mem_cons.mp others with
            | inl quit => exact List.mem_append_right _ (List.mem_singleton.mpr quit)
            | inr behind => exact absurd (noOperands rfl) (operands_ne_nil_of_behind behind)

theorem Selects.with_quitEarly (selects : ({ options with quitEarly := false }).Selects action) :
    ({ options with quitEarly := true }).Selects action := by
  cases selects with
  | print on => exact .print on
  | print0 on => exact .print0 on
  | ls on => exact .ls on
  | delete on => exact .delete on
  | quit on => cases on
  | command on text => exact .command on text
  | fprint on text => exact .fprint on text
  | fprint0 on text => exact .fprint0 on text
  | fls on text => exact .fls on text
  | printf on text => exact .printf on text
  | fprintf on text => exact .fprintf on text

/-- Every selected action is performed for a match, but where stopping is selected those with
operands are not. So stopping takes away exactly the effects of actions with operands. The words of
the actions are read as these actions unless a command among them does not fit its clause. -/
theorem performs_iff (options : ActionOptions) :
    (∀ action, action ∈ Primary.performed options.selected ↔
      options.Selects action ∧ (options.quitEarly = true → action.operands = [])) ∧
    (∀ action, action ∈ Primary.performed ({ options with quitEarly := false }).selected →
      (action ∈ Primary.performed ({ options with quitEarly := true }).selected ↔
        action.operands = [])) ∧
    (Lexeme.ofWords? options.words = some (options.selected.map .primary) ↔
      (options.execAction ≠ [] →
        FitsClause (CommandText.words options.exec.text) options.execUsePlus)) := by
  refine ⟨fun action => mem_performed_selected, fun action performed => ?_,
    ofWords?_words_iff_fitsClause options⟩
  have selects := (mem_performed_selected.mp performed).1.with_quitEarly
  rw [mem_performed_selected]
  constructor
  · intro kept
    exact kept.2 rfl
  · intro noOperands
    exact ⟨selects, fun _ => noOperands⟩

/-- A command is not run for the match at which the search stops. -/
theorem not_performed_command :
    ({ exec := ⟨true, "echo {}"⟩, quitEarly := true } : ActionOptions).Selects
        ⟨"-exec", ["echo", "{}", ";"]⟩ ∧
      ⟨"-exec", ["echo", "{}", ";"]⟩ ∉ Primary.performed
        ({ exec := ⟨true, "echo {}"⟩, quitEarly := true } : ActionOptions).selected := by
  constructor
  · exact mem_selected_iff.mp (by decide +kernel)
  · decide +kernel

/-! ## Stopping alone -/

/-- Stopping is switched on, and so is something else, but nothing else has the operand that it
needs. -/
structure StopsOnly (options : ActionOptions) : Prop where
  stops : options.quitEarly = true
  switched : options.hasEffect = true
  idle : ∀ action, options.Selects action → action = .bare "-quit"

theorem StopsOnly.selected_eq (only : options.StopsOnly) : options.selected = [.bare "-quit"] := by
  have idle : ∀ action ∈ options.selected, action = .bare "-quit" := fun action listed =>
    only.idle action (mem_selected_iff.mp listed)
  rw [ActionOptions.selected_eq, only.stops] at idle ⊢
  have plain : options.plainActions = [] := by
    apply List.eq_nil_iff_forall_not_mem.mpr
    intro action listed
    obtain ⟨word, rfl, -, other⟩ := exists_of_mem_plainActions listed
    exact other (congrArg Primary.word (idle _ (List.mem_append_left _ listed)))
  have behind : options.execAction ++ options.outputActions = [] := by
    apply List.eq_nil_iff_forall_not_mem.mpr
    intro action listed
    have quit := idle action (List.mem_append_right _ (List.mem_append_right _ listed))
    exact operands_ne_nil_of_behind listed (by rw [quit]; rfl)
  rw [plain, behind]
  rfl

/-- Where something is switched on, only stopping can be left without anything to do. -/
theorem exists_effect_of_not_stopsOnly (only : ¬ options.StopsOnly)
    (nonempty : options.withEffect.selected ≠ []) :
    ∃ action ∈ options.withEffect.selected, action.word ≠ "-quit" := by
  unfold withEffect at nonempty ⊢
  split at nonempty
  · rename_i switched
    rw [if_pos switched]
    by_contra noEffect
    push Not at noEffect
    obtain ⟨action, listed⟩ := List.exists_mem_of_ne_nil _ nonempty
    have stops := ((mem_selected_iff.mp listed).eq_quit (noEffect action listed)).2
    exact only ⟨stops, switched, fun other selects =>
      (selects.eq_quit (noEffect other (mem_selected_iff.mpr selects))).1⟩
  · rename_i off
    rw [if_neg off]
    exact ⟨.bare "-print", mem_selected_iff.mpr (.print rfl), by decide⟩

end ActionOptions

/-- An action in front of which there is only stopping is at the head of its words. -/
theorem Command.exists_head_ne_quit {actions : List Primary}
    (stops : ∀ action ∈ actions, action.word = "-quit" → action = .bare "-quit")
    (effect : ∃ action ∈ actions, action.word ≠ "-quit") :
    ∃ action ∈ actions, action.word ≠ "-quit" ∧
      action.word ∈ Unfinished.heads .nothing (actions.flatMap Primary.words) := by
  induction actions with
  | nil =>
      obtain ⟨action, listed, -⟩ := effect
      cases listed
  | cons first others ih =>
      obtain ⟨firstStops, othersStop⟩ := List.forall_mem_cons.mp stops
      by_cases named : first.word = "-quit"
      · have behind : ∃ action ∈ others, action.word ≠ "-quit" := by
          obtain ⟨action, listed, other⟩ := effect
          cases List.mem_cons.mp listed with
          | inl same => exact absurd (same ▸ named) other
          | inr listed => exact ⟨action, listed, other⟩
        obtain ⟨action, listed, other, head⟩ := ih othersStop behind
        refine ⟨action, List.mem_cons_of_mem _ listed, other, ?_⟩
        rw [firstStops named]
        exact List.mem_append_right _ head
      · exact ⟨first, List.mem_cons_self, named, List.mem_cons_self⟩

namespace Specification

variable {specification : Specification} {includeActions : Bool}

/-- Whether the actions of a specification count, and only stopping is left of them. -/
def StopsOnly (specification : Specification) (includeActions : Bool) : Prop :=
  includeActions = true ∧ specification.enableActions = true ∧ specification.actions.StopsOnly

theorem StopsOnly.actionPrimaries_eq (only : specification.StopsOnly includeActions) :
    specification.actionPrimaries includeActions = [.bare "-quit"] := by
  obtain ⟨included, enabled, stops⟩ := only
  have kept : specification.actions.withEffect = specification.actions := if_pos stops.switched
  rw [actionPrimaries_eq_ite, kept, stops.selected_eq]
  exact if_pos ⟨included, enabled, List.cons_ne_nil _ _⟩

theorem exists_effect_of_not_stopsOnly (only : ¬ specification.StopsOnly includeActions) :
    ∃ action ∈ specification.actionPrimaries includeActions, action.word ≠ "-quit" := by
  rw [actionPrimaries_eq_ite]
  split
  · rename_i counts
    obtain ⟨included, enabled, nonempty⟩ := counts
    exact ActionOptions.exists_effect_of_not_stopsOnly
      (fun stops => only ⟨included, enabled, stops⟩) nonempty
  · exact ⟨_, List.mem_singleton_self _, by decide⟩

theorem eq_quit_of_mem_actionPrimaries {action : Primary}
    (listed : action ∈ specification.actionPrimaries includeActions)
    (named : action.word = "-quit") : action = .bare "-quit" := by
  rw [actionPrimaries_eq_ite] at listed
  split at listed
  · exact ((ActionOptions.mem_selected_iff.mp listed).eq_quit named).1
  · cases List.mem_singleton.mp listed
    exact absurd named (by decide)

/-- The actions of a command do something with a match, or else stopping is all that is left of
them: it is selected, and whatever else is switched on lacks its operand. -/
theorem hasEffect_iff_not_stopsOnly (specification : Specification) (includeActions : Bool)
    (program : String) :
    let words := (specification.command includeActions program).actionWords
    ((∃ word ∈ Unfinished.heads .nothing words,
        word ∈ actionWords ∧ word ≠ "-prune" ∧ word ≠ "-quit") ↔
      ¬ specification.StopsOnly includeActions) ∧
    (words = ["-quit"] ↔ specification.StopsOnly includeActions) := by
  intro words
  have spelled : words = (specification.actionPrimaries includeActions).flatMap Primary.words := rfl
  have alone (only : specification.StopsOnly includeActions) : words = ["-quit"] := by
    rw [spelled, only.actionPrimaries_eq]
    rfl
  have stopped (quit : words = ["-quit"]) : ¬ ∃ word ∈ Unfinished.heads .nothing words,
      word ∈ actionWords ∧ word ≠ "-prune" ∧ word ≠ "-quit" := by
    rw [quit]
    decide
  have acting (some : ¬ specification.StopsOnly includeActions) :
      ∃ word ∈ Unfinished.heads .nothing words,
        word ∈ actionWords ∧ word ≠ "-prune" ∧ word ≠ "-quit" := by
    obtain ⟨action, listed, other, head⟩ := Command.exists_head_ne_quit
      (fun action listed => eq_quit_of_mem_actionPrimaries listed)
      (exists_effect_of_not_stopsOnly some)
    obtain ⟨named, entered⟩ := (actionPrimaries_spec specification includeActions).2 action listed
    exact ⟨action.word, head, named, entered, other⟩
  refine ⟨⟨fun effect only => stopped (alone only) effect, acting⟩, ⟨fun quit => ?_, alone⟩⟩
  by_contra some
  exact stopped quit (acting some)

/-- A search with a blank command stops at the first match without doing anything. -/
theorem stops_blank_command :
    let words := (({ actions := { print := false, quitEarly := true, exec := ⟨true, ""⟩ } } :
      Specification).command true).actionWords
    words = ["-quit"] ∧ ¬ ∃ word ∈ Unfinished.heads .nothing words,
      word ∈ actionWords ∧ word ≠ "-prune" ∧ word ≠ "-quit" := by
  decide +kernel

end Specification

end FileSearch
