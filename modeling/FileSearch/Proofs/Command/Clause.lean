import FileSearch.Proofs.Command.Actions

/-!
# Command clauses

The command of an action is a clause of words without a fixed length. It is over at the first word
that ends a clause, so it reads back as it was entered where none of its own words does and the mark
behind it does.
-/

set_option autoImplicit false

namespace FileSearch.Command

/-- The words of a clause that goes on behind a word, its last one included, and the words behind
the clause. -/
def clauseFrom? (before : Option String) : List String → Option (List String × List String)
  | [] => none
  | word :: rest =>
    if endsClause before word then some ([word], rest)
    else (clauseFrom? (some word) rest).map fun (clause, behind) => (word :: clause, behind)

/-- A command whose clause is over at the mark behind it and not before: a semicolon, or a plus
sign if the command is run for many matches at once. -/
structure FitsClause (command : List String) (many : Bool) : Prop where
  noSemicolon : ";" ∉ command
  noPlus : ¬ ["{}", "+"] <:+: command
  braces : many = true → command.getLast? = some "{}"

variable {before : Option String} {words command clause behind : List String} {word mark : String}

theorem endsClause_iff :
    endsClause before word = true ↔ word = ";" ∨ word = "+" ∧ before = some "{}" := by
  simp [endsClause]

theorem clauseFrom?_eq_some (read : clauseFrom? before words = some (clause, behind)) :
    words = clause ++ behind ∧ clause ≠ [] := by
  induction words generalizing before clause with
  | nil => cases read
  | cons word words ih =>
      rw [clauseFrom?] at read
      split at read
      · cases read
        exact ⟨rfl, List.cons_ne_nil _ _⟩
      · obtain ⟨⟨others, rest⟩, found, same⟩ := Option.map_eq_some_iff.mp read
        cases same
        exact ⟨congrArg (word :: ·) (ih found).1, List.cons_ne_nil _ _⟩

/-- The clause reaches to a mark if no word in front of the mark ends it, given the word before. -/
theorem clauseFrom?_append_iff (before : Option String) (command : List String) (mark : String)
    (behind : List String) :
    clauseFrom? before (command ++ mark :: behind) = some (command ++ [mark], behind) ↔
      ";" ∉ command ∧ ¬ ["{}", "+"] <:+: before.toList ++ command ∧
        endsClause (command.getLast?.or before) mark = true := by
  induction command generalizing before with
  | nil =>
      have short : ¬ ["{}", "+"] <:+: before.toList ++ [] := fun found => by
        have length := found.length_le
        cases before <;> simp at length
      rw [List.nil_append, clauseFrom?]
      split
      · rename_i ends
        exact iff_of_true rfl ⟨List.not_mem_nil, short, ends⟩
      · rename_i goesOn
        refine iff_of_false (fun read => ?_) fun ends => goesOn ends.2.2
        obtain ⟨⟨others, rest⟩, found, same⟩ := Option.map_eq_some_iff.mp read
        cases same
        exact (clauseFrom?_eq_some found).2 rfl
  | cons word command ih =>
      rw [List.cons_append, clauseFrom?]
      split
      · rename_i ends
        refine iff_of_false (fun read => ?_) fun ⟨noSemicolon, noPlus, _⟩ => ?_
        · simp at read
        · cases endsClause_iff.mp ends with
          | inl semicolon => exact noSemicolon (semicolon ▸ List.mem_cons_self)
          | inr plus =>
              obtain ⟨rfl, rfl⟩ := plus
              exact noPlus (List.prefix_append ["{}", "+"] command).isInfix
      · rename_i goesOn
        obtain ⟨other, apart⟩ := not_or.mp (mt endsClause_iff.mpr goesOn)
        have last : (word :: command).getLast?.or before = command.getLast?.or (some word) := by
          rw [List.getLast?_cons]
          cases command.getLast? <;> rfl
        have found : ["{}", "+"] <:+: before.toList ++ word :: command ↔
            ["{}", "+"] <:+: word :: command := by
          cases before with
          | none => exact Iff.rfl
          | some first =>
              refine List.infix_cons_iff.trans (or_iff_right fun leading => apart ?_)
              obtain ⟨brace, rest⟩ := List.cons_prefix_cons.mp leading
              exact ⟨(List.cons_prefix_cons.mp rest).1.symm, congrArg some brace.symm⟩
        have further : (clauseFrom? (some word) (command ++ mark :: behind)).map
              (fun (clause, behind) => (word :: clause, behind)) =
                some (word :: command ++ [mark], behind) ↔
            clauseFrom? (some word) (command ++ mark :: behind) =
              some (command ++ [mark], behind) := by
          cases clauseFrom? (some word) (command ++ mark :: behind) <;> simp [Prod.ext_iff]
        rw [further, ih, last, found, List.mem_cons, not_or]
        exact ⟨fun fits => ⟨⟨Ne.symm other, fits.1⟩, fits.2⟩, fun fits => ⟨fits.1.2, fits.2⟩⟩

theorem clauseFrom?_iff_fitsClause (command behind : List String) (many : Bool) :
    clauseFrom? none (command ++ (if many then "+" else ";") :: behind) =
      some (command ++ [if many then "+" else ";"], behind) ↔ FitsClause command many := by
  have marked : endsClause command.getLast? (if many then "+" else ";") = true ↔
      (many = true → command.getLast? = some "{}") := by
    cases many <;> simp [endsClause]
  rw [clauseFrom?_append_iff, Option.or_none, marked]
  exact ⟨fun ⟨noSemicolon, noPlus, braces⟩ => ⟨noSemicolon, noPlus, braces⟩,
    fun fits => ⟨fits.noSemicolon, fits.noPlus, fits.braces⟩⟩

/-- The reader of words finds the same clause. -/
theorem Lexeme.ofWordsFrom?_clause (name : String) (operands words : List String) :
    ofWordsFrom? (.clause name operands) words =
      (clauseFrom? operands.head? words).bind fun (clause, behind) =>
        (ofWordsFrom? .nothing behind).map (.primary ⟨name, operands.reverse ++ clause⟩ :: ·) := by
  induction words generalizing operands with
  | nil => rfl
  | cons word words ih =>
      rw [ofWordsFrom?, step?, clauseFrom?]
      split
      · simp only [Option.bind_eq_bind, Option.bind_some, List.reverse_cons]
        cases ofWordsFrom? .nothing words <;> rfl
      · simp only [Option.bind_eq_bind, Option.bind_some, ih (word :: operands), List.head?_cons,
          List.reverse_cons, List.append_assoc]
        cases clauseFrom? (some word) words with
        | none => rfl
        | some found =>
            obtain ⟨clause, behind⟩ := found
            simp only [Option.bind_some, Option.map_some]
            cases ofWordsFrom? .nothing behind <;> rfl

end FileSearch.Command

namespace FileSearch

open Command (Primary Lexeme Cut FitsClause clauseFrom?)

namespace ActionOptions

variable {options : ActionOptions}

/-- The selected actions in front of the command. -/
def frontActions (options : ActionOptions) : List Primary :=
  options.plainActions ++ Primary.flag options.quitEarly "-quit"

theorem exists_of_mem_frontActions {action : Primary} (listed : action ∈ options.frontActions) :
    ∃ word ∈ Command.Operands.bareWords, action = .bare word := by
  cases List.mem_append.mp listed with
  | inl plain =>
      obtain ⟨word, same, known, -⟩ := exists_of_mem_plainActions plain
      exact ⟨word, known, same⟩
  | inr quit => exact ⟨"-quit", by decide, (Primary.mem_flag.mp quit).2⟩

theorem cut_frontActions (options : ActionOptions) :
    Cut (options.frontActions.flatMap Primary.words) (options.frontActions.map .primary) := by
  rw [← List.flatMap_singleton' (options.frontActions.map _), List.flatMap_map]
  refine Cut.flatMap fun action listed => ?_
  obtain ⟨word, known, rfl⟩ := exists_of_mem_frontActions listed
  exact .single (Primary.complete_bare known)

theorem cut_outputActions (options : ActionOptions) :
    Cut (options.outputActions.flatMap Primary.words) (options.outputActions.map .primary) := by
  rw [← List.flatMap_singleton' (options.outputActions.map _), List.flatMap_map]
  exact Cut.flatMap fun action listed => .single (complete_of_mem_outputActions listed).1

/-- No action in front of the command is named as the command's is. -/
theorem flag_notMem_frontWords (mode : ExecMode) :
    mode.flag ∉ options.frontActions.flatMap Primary.words := by
  intro listed
  obtain ⟨action, inFront, spelled⟩ := List.mem_flatMap.mp listed
  obtain ⟨word, known, rfl⟩ := exists_of_mem_frontActions inFront
  cases List.mem_singleton.mp spelled
  cases mode <;> exact absurd known (by decide)

theorem ofWordsFrom?_execVariant (mode : ExecMode) (words : List String) :
    Lexeme.ofWordsFrom? .nothing (mode.flag :: words) =
      Lexeme.ofWordsFrom? (.clause mode.flag []) words := by
  have opens : Lexeme.ofWord? mode.flag = some ([], .clause mode.flag []) := by
    cases mode <;> decide
  rw [Lexeme.ofWordsFrom?, Lexeme.step?, opens]
  simp only [Option.bind_eq_bind, Option.bind_some, List.nil_append]
  cases Lexeme.ofWordsFrom? (.clause mode.flag []) words <;> rfl

section Command

variable (enabled : options.exec.enabled = true)
  (nonempty : CommandText.words options.exec.text ≠ [])

include enabled nonempty

theorem selected_with_command : options.selected = options.frontActions ++
    ⟨options.execVariant.flag, CommandText.words options.exec.text ++ [options.clauseMark]⟩ ::
      options.outputActions := by
  rw [selected_eq, execAction_eq_singleton enabled nonempty, frontActions, List.append_assoc]
  rfl

theorem words_with_command : options.words = options.frontActions.flatMap Primary.words ++
    options.execVariant.flag :: (CommandText.words options.exec.text ++ options.clauseMark ::
      options.outputActions.flatMap Primary.words) := by
  rw [words, selected_with_command enabled nonempty, List.flatMap_append, List.flatMap_cons,
    Primary.words, List.cons_append, List.append_assoc]
  rfl

/-- The words behind the action of the command. -/
theorem behind_execVariant :
    (options.words.dropWhile (· != options.execVariant.flag)).drop 1 =
      CommandText.words options.exec.text ++ options.clauseMark ::
        options.outputActions.flatMap Primary.words := by
  have front : ∀ word ∈ options.frontActions.flatMap Primary.words,
      (word != options.execVariant.flag) = true := by
    intro word listed
    rw [bne_iff_ne]
    rintro rfl
    exact flag_notMem_frontWords _ listed
  rw [words_with_command enabled nonempty, List.dropWhile_append_of_pos front,
    List.dropWhile_cons_of_neg (by simp)]
  rfl

theorem ofWords?_words_iff :
    Lexeme.ofWords? options.words = some (options.selected.map .primary) ↔
      clauseFrom? none (CommandText.words options.exec.text ++ options.clauseMark ::
          options.outputActions.flatMap Primary.words) =
        some (CommandText.words options.exec.text ++ [options.clauseMark],
          options.outputActions.flatMap Primary.words) := by
  rw [Lexeme.ofWords?, words_with_command enabled nonempty,
    options.cut_frontActions.ofWordsFrom?_append, ofWordsFrom?_execVariant,
    Lexeme.ofWordsFrom?_clause, selected_with_command enabled nonempty, List.map_append,
    List.map_cons]
  have outputs : Lexeme.ofWordsFrom? .nothing (options.outputActions.flatMap Primary.words) = _ :=
    options.cut_outputActions.ofWords?
  constructor
  · intro read
    obtain ⟨lexemes, found, same⟩ := Option.map_eq_some_iff.mp read
    obtain ⟨⟨clause, behind⟩, clauseRead, rest⟩ := Option.bind_eq_some_iff.mp found
    obtain ⟨others, -, rfl⟩ := Option.map_eq_some_iff.mp rest
    have whole := (Command.clauseFrom?_eq_some clauseRead).1
    have first := (List.cons.inj (List.append_cancel_left same)).1
    simp only [Lexeme.primary.injEq, Primary.mk.injEq, List.reverse_nil, List.nil_append] at first
    have split : CommandText.words options.exec.text ++ options.clauseMark ::
        options.outputActions.flatMap Primary.words =
          (CommandText.words options.exec.text ++ [options.clauseMark]) ++
            options.outputActions.flatMap Primary.words := by
      rw [List.append_assoc, List.singleton_append]
    rw [split, first.2] at whole
    rw [List.head?_nil, first.2, ← List.append_cancel_left whole] at clauseRead
    exact clauseRead
  · intro read
    simp only [List.head?_nil, read, Option.bind_some, outputs, Option.map_some, List.reverse_nil,
      List.nil_append]

/-- Behind its action, a command reads back with its mark, and the words behind that are those of
the other actions, exactly where the command fits its clause. There all actions read back. -/
theorem command_reads_back_iff :
    let command := CommandText.words options.exec.text
    (clauseFrom? none ((options.words.dropWhile (· != options.execVariant.flag)).drop 1) =
        some (command ++ [options.clauseMark], options.outputActions.flatMap Primary.words) ↔
      FitsClause command options.execUsePlus) ∧
    (Lexeme.ofWords? options.words = some (options.selected.map .primary) ↔
      FitsClause command options.execUsePlus) := by
  have fits := Command.clauseFrom?_iff_fitsClause (CommandText.words options.exec.text)
    (options.outputActions.flatMap Primary.words) options.execUsePlus
  constructor
  · rw [behind_execVariant enabled nonempty]
    exact fits
  · rw [ofWords?_words_iff enabled nonempty]
    exact fits

end Command

theorem command_reads_back_grep :
    let options : ActionOptions :=
      { exec := ⟨true, "grep -l \"TO DO\" {}"⟩, execUsePlus := true, fprint := ⟨true, "+"⟩ }
    options.exec.enabled = true ∧ CommandText.words options.exec.text ≠ [] ∧
      clauseFrom? none ((options.words.dropWhile (· != options.execVariant.flag)).drop 1) =
        some (["grep", "-l", "TO DO", "{}", "+"], ["-fprint", "+"]) := by
  intro options
  have command : CommandText.words options.exec.text = ["grep", "-l", "TO DO", "{}"] := by
    decide +kernel
  have nonempty : CommandText.words options.exec.text ≠ [] := by
    rw [command]
    exact List.cons_ne_nil _ _
  have fits : FitsClause (CommandText.words options.exec.text) options.execUsePlus := by
    rw [command]
    exact ⟨by decide, by decide, fun _ => rfl⟩
  have read := (@command_reads_back_iff options rfl nonempty).1.mpr fits
  rw [command] at read
  exact ⟨rfl, nonempty, read⟩

/-- A semicolon among the words of a command ends its clause, and the words behind it are read as
actions of their own. -/
theorem command_cut_at_semicolon :
    let options : ActionOptions := { exec := ⟨true, "true ; -delete"⟩ }
    CommandText.words options.exec.text = ["true", ";", "-delete"] ∧
      clauseFrom? none ((options.words.dropWhile (· != options.execVariant.flag)).drop 1) =
        some (["true", ";"], ["-delete", ";"]) := by
  decide +kernel

/-! ## All selected actions -/

theorem execAction_eq_nil_of_not (inactive : ¬ (options.exec.enabled = true ∧
    CommandText.words options.exec.text ≠ [])) : options.execAction = [] := by
  apply List.eq_nil_iff_forall_not_mem.mpr
  intro action listed
  exact inactive (mem_execAction.mp listed).1

/-- The words of the selected actions are read as these actions exactly where a command among them
fits its clause. -/
theorem ofWords?_words_iff_fitsClause (options : ActionOptions) :
    Lexeme.ofWords? options.words = some (options.selected.map .primary) ↔
      (options.execAction ≠ [] →
        FitsClause (CommandText.words options.exec.text) options.execUsePlus) := by
  by_cases command : options.exec.enabled = true ∧ CommandText.words options.exec.text ≠ []
  · obtain ⟨enabled, nonempty⟩ := command
    have emitted : options.execAction ≠ [] := by
      rw [execAction_eq_singleton enabled nonempty]
      exact List.cons_ne_nil _ _
    rw [ofWords?_words_iff enabled nonempty, clauseMark, Command.clauseFrom?_iff_fitsClause]
    exact ⟨fun fits _ => fits, fun fits => fits emitted⟩
  · have noCommand := execAction_eq_nil_of_not command
    have cut := options.cut_frontActions.append options.cut_outputActions
    refine iff_of_true ?_ fun emitted => absurd noCommand emitted
    rw [words, selected_eq, noCommand, List.nil_append, ← List.append_assoc, ← frontActions,
      List.flatMap_append, List.map_append]
    exact cut.ofWords?

end ActionOptions

end FileSearch
