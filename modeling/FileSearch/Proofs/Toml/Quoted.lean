import FileSearch.Toml.Quoted
import FileSearch.Toml.Text
import Mathlib.Data.List.Basic

/-!
# Strings that are written and read

A string reads back from every form that it is written in. Which form that is decides what has to
be watched: quotes in a row, which could be taken for the end, and characters that only an escape
stands for.
-/

set_option autoImplicit false

namespace FileSearch.Toml

/-! ## Characters -/

theorem isPlain_of_not_isControl {c : Char} (noControl : isControl c = false)
    (noLineEnd : c ≠ '\n') : isPlain c = true := by
  rw [isControl, Bool.or_eq_false_iff, beq_eq_false_iff_ne] at noControl
  obtain ⟨low, noDelete⟩ := noControl
  rw [isPlain]
  by_cases tab : c = '\t'
  · simp [tab]
  · simp [tab, noLineEnd] at low
    simp [low, noDelete]

theorem codePoint?_numberEscape : ∀ number < 128,
    codePoint? [upperDigit (number / 4096), upperDigit (number / 256), upperDigit (number / 16),
      upperDigit number] = some (Char.ofNat number) := by
  decide

theorem codePoint?_of_isControl {c : Char} (control : isControl c = true) :
    codePoint? [upperDigit (c.toNat / 4096), upperDigit (c.toNat / 256),
      upperDigit (c.toNat / 16), upperDigit c.toNat] = some c := by
  have small : c.toNat < 128 := by
    simp only [isControl, Bool.or_eq_true, Bool.and_eq_true, decide_eq_true_eq,
      beq_iff_eq] at control
    omega
  rw [codePoint?_numberEscape c.toNat small, Char.ofNat_toNat]

theorem prepend_some (c : Char) (chars rest : List Char) :
    prepend (some c) (some (chars, rest)) = some (c :: chars, rest) :=
  rfl

/-- The characters that may stand in a string as they are. -/
def MayStand (multiline : Bool) (c : Char) : Prop :=
  isPlain c = true ∨ multiline = true ∧ c = '\n'

/-! ## Escapes -/

/-- Readers of strings in double quotes, as far as they agree. -/
structure Unescapes (multiline : Bool) (read : Reader (List Char)) : Prop where
  plain : ∀ {c text}, MayStand multiline c → c ≠ '"' → c ≠ '\\' →
    read (c :: text) = prepend (some c) (read text)
  escape : ∀ {letter c text}, simpleEscape? letter = some c →
    read ('\\' :: letter :: text) = prepend (some c) (read text)
  number : ∀ {first second third fourth c text},
    codePoint? [first, second, third, fourth] = some c →
    read ('\\' :: 'u' :: first :: second :: third :: fourth :: text) =
      prepend (some c) (read text)

theorem unescapes_readBasic : Unescapes false readBasic where
  plain {c text} stands noQuote noEscape := by
    rcases stands with plain | ⟨multiline, -⟩
    · rw [readBasic, plain?, if_pos plain]
      · exact noQuote
      all_goals
        intros
        contradiction
    · cases multiline
  escape {letter c text} simple := by
    have different : letter ≠ 'x' ∧ letter ≠ 'u' ∧ letter ≠ 'U' := by
      refine ⟨?_, ?_, ?_⟩ <;>
      · rintro rfl
        cases simple
    rw [readBasic, simple]
    · exact fun _ _ _ same => absurd same different.1
    · exact fun _ _ _ _ _ same => absurd same different.2.1
    · exact fun _ _ _ _ _ _ _ _ _ same => absurd same different.2.2
  number numbered := by rw [readBasic, numbered]

theorem joinsLines_of_simpleEscape? {letter c : Char} (simple : simpleEscape? letter = some c)
    (text : List Char) : joinsLines (letter :: text) = false := by
  have different : letter ≠ ' ' ∧ letter ≠ '\t' ∧ letter ≠ '\n' ∧ letter ≠ '\r' := by
    refine ⟨?_, ?_, ?_, ?_⟩ <;>
    · rintro rfl
      cases simple
  have stays : ¬ (letter == ' ' || letter == '\t') = true := by simp [different]
  rw [joinsLines, List.dropWhile_cons_of_neg (p := fun c => c == ' ' || c == '\t') stays]
  split
  · next same => exact absurd (List.cons.inj same).1 different.2.2.1
  · next same => exact absurd (List.cons.inj same).1 different.2.2.2
  · rfl

theorem MayStand.ne_return {multiline : Bool} {c : Char} (stands : MayStand multiline c) :
    c ≠ '\r' := by
  rintro rfl
  rcases stands with plain | ⟨-, same⟩
  · cases plain
  · cases same

theorem MayStand.kept {c : Char} (stands : MayStand true c) :
    (if c == '\n' then some c else plain? c) = some c := by
  rcases stands with plain | ⟨-, rfl⟩
  · rw [plain?, if_pos plain, ite_self]
  · rfl

theorem unescapes_readMultilineBasic : Unescapes true (readMultilineBasic false) where
  plain {c text} stands noQuote noEscape := by
    have noReturn := stands.ne_return
    rw [readMultilineBasic, Bool.false_and, if_neg Bool.false_ne_true, stands.kept]
    all_goals
      intros
      contradiction
  escape {letter c text} simple := by
    have different : letter ≠ 'x' ∧ letter ≠ 'u' ∧ letter ≠ 'U' := by
      refine ⟨?_, ?_, ?_⟩ <;>
      · rintro rfl
        cases simple
    rw [readMultilineBasic, joinsLines_of_simpleEscape? simple, if_neg Bool.false_ne_true, simple]
    · exact fun _ _ _ same => absurd same different.1
    · exact fun _ _ _ _ _ same => absurd same different.2.1
    · exact fun _ _ _ _ _ _ _ _ _ same => absurd same different.2.2
  number numbered := by rw [readMultilineBasic, numbered]

section

variable {multiline : Bool} {read : Reader (List Char)}

/-- A character that is not a quote is read back from what is written for it. -/
theorem Unescapes.written (unescapes : Unescapes multiline read) {c : Char} (noQuote : c ≠ '"')
    (text : List Char) :
    read ((escapeOf? multiline c).getD [c] ++ text) = prepend (some c) (read text) := by
  rw [escapeOf?.eq_def]
  split
  · exact unescapes.escape rfl
  · exact unescapes.escape rfl
  · cases multiline with
    | true => exact unescapes.plain (.inr ⟨rfl, rfl⟩) (by decide) (by decide)
    | false => exact unescapes.escape rfl
  · exact unescapes.escape rfl
  · exact unescapes.escape rfl
  · exact unescapes.escape rfl
  · next noLineEnd _ _ noEscape =>
      cases control : isControl c with
      | true => exact unescapes.number (codePoint?_of_isControl control)
      | false =>
          exact unescapes.plain (.inl (isPlain_of_not_isControl control noLineEnd)) noQuote noEscape

theorem Unescapes.quote (unescapes : Unescapes multiline read) (text : List Char) :
    read ('\\' :: '"' :: text) = prepend (some '"') (read text) :=
  unescapes.escape rfl

end

/-! ## Strings in double quotes -/

theorem readBasic_escapeAll (before : Nat) (chars rest : List Char) :
    readBasic (escapeAll false before chars ++ '"' :: rest) = some (chars, rest) := by
  induction chars generalizing before with
  | nil => rw [escapeAll, List.nil_append, readBasic]
  | cons c chars ih =>
      by_cases quote : c = '"'
      · subst quote
        rw [escapeAll, if_neg Bool.false_ne_true, if_pos (Nat.zero_le before), List.cons_append,
          List.cons_append, unescapes_readBasic.quote, ih, prepend_some]
      · rw [escapeAll, List.append_assoc, unescapes_readBasic.written quote, ih, prepend_some]
        exact quote

theorem exists_escapeOf?_eq_cons {multiline : Bool} {c : Char} {escape : List Char}
    (escapes : escapeOf? multiline c = some escape) : ∃ tail, escape = '\\' :: tail := by
  rw [escapeOf?.eq_def] at escapes
  split at escapes
  · exact ⟨_, (Option.some.inj escapes).symm⟩
  · exact ⟨_, (Option.some.inj escapes).symm⟩
  · split at escapes
    · cases escapes
    · exact ⟨_, (Option.some.inj escapes).symm⟩
  · exact ⟨_, (Option.some.inj escapes).symm⟩
  · exact ⟨_, (Option.some.inj escapes).symm⟩
  · exact ⟨_, (Option.some.inj escapes).symm⟩
  · split at escapes
    · exact ⟨_, (Option.some.inj escapes).symm⟩
    · cases escapes

/-- What is written for a character begins with a backslash or is the character itself. -/
theorem escapeAll_cons_cases (multiline : Bool) (before : Nat) (c : Char) (chars : List Char) :
    ∃ d tail, escapeAll multiline before (c :: chars) = d :: tail ∧
      (d = '\\' ∨ d = c ∧ (c = '"' ∧ before < (if multiline then 2 else 0) ∨
        c ≠ '"' ∧ escapeOf? multiline c = none)) := by
  by_cases quote : c = '"'
  · subst quote
    rw [escapeAll]
    by_cases full : (if multiline then 2 else 0) ≤ before
    · rw [if_pos full]
      exact ⟨_, _, rfl, .inl rfl⟩
    · rw [if_neg full]
      exact ⟨_, _, rfl, .inr ⟨rfl, .inl ⟨rfl, Nat.lt_of_not_le full⟩⟩⟩
  · rw [escapeAll.eq_3 _ _ _ _ quote]
    cases escapes : escapeOf? multiline c with
    | none => exact ⟨c, _, rfl, .inr ⟨rfl, .inr ⟨quote, rfl⟩⟩⟩
    | some escape =>
        obtain ⟨tail, rfl⟩ := exists_escapeOf?_eq_cons escapes
        exact ⟨_, _, rfl, .inl rfl⟩

/-- Behind as many quotes as may stand in a row, and for any other character, no quote is written
first. -/
theorem exists_escapeAll_eq_cons (multiline : Bool) {before : Nat} {c : Char}
    (apart : c ≠ '"' ∨ (if multiline then 2 else 0) ≤ before) (chars : List Char) :
    ∃ d tail, escapeAll multiline before (c :: chars) = d :: tail ∧ d ≠ '"' := by
  obtain ⟨d, tail, first, rfl | ⟨rfl, ⟨quote, room⟩ | ⟨noQuote, -⟩⟩⟩ :=
    escapeAll_cons_cases multiline before c chars
  · exact ⟨_, tail, first, by decide⟩
  · exact absurd room (Nat.not_lt.mpr (apart.resolve_left (not_not_intro quote)))
  · exact ⟨d, tail, first, noQuote⟩

/-- A quote that no two others follow is no part of a delimiter. -/
theorem readMultilineBasic_quote {text : List Char} (single : ∀ back, text ≠ '"' :: '"' :: back) :
    readMultilineBasic false ('"' :: text) =
      prepend (some '"') (readMultilineBasic false text) := by
  rw [readMultilineBasic, Bool.false_and, if_neg Bool.false_ne_true]
  · rfl
  · exact fun _ _ same => single _ same
  · exact fun _ _ same => single _ same
  · exact fun _ _ same => single _ same
  all_goals
    intros
    contradiction

/-- Before the end of a string, no three quotes stand in a row. -/
private theorem single_escapeAll {before : Nat} {d : Char} {chars : List Char}
    (inside : d = '"' → before = 0 → chars ≠ []) (rest back : List Char) :
    escapeAll true (before + 1) (d :: chars) ++ rest ≠ '"' :: '"' :: back := by
  by_cases another : d = '"' ∧ before = 0
  · obtain ⟨rfl, rfl⟩ := another
    rw [escapeAll, if_pos rfl, if_neg (by decide), List.cons_append]
    cases chars with
    | nil => exact absurd rfl (inside rfl rfl)
    | cons e chars =>
        have full : e ≠ '"' ∨ (if true then 2 else 0) ≤ 0 + 1 + 1 := .inr (Nat.le_refl 2)
        obtain ⟨x, tail, first, noQuote⟩ := exists_escapeAll_eq_cons true full chars
        rw [first]
        intro same
        exact noQuote (List.cons.inj (List.cons.inj same).2).1
  · have apart : d ≠ '"' ∨ (if true then 2 else 0) ≤ before + 1 := by
      by_cases quote : d = '"'
      · have behind : before ≠ 0 := fun zero => another ⟨quote, zero⟩
        refine .inr ?_
        rw [if_pos rfl]
        omega
      · exact .inl quote
    obtain ⟨x, tail, first, noQuote⟩ := exists_escapeAll_eq_cons true apart chars
    rw [first]
    intro same
    exact noQuote (List.cons.inj same).1

theorem readMultilineBasic_escapeAll (before : Nat) (chars : List Char) {rest : List Char}
    (ends : ∀ back, rest ≠ '"' :: back) :
    readMultilineBasic false (escapeAll true before chars ++ '"' :: '"' :: '"' :: rest) =
      some (chars, rest) := by
  induction chars generalizing before with
  | nil =>
      rw [escapeAll, List.nil_append, readMultilineBasic]
      · exact fun _ same => ends _ same
      · exact fun _ same => ends _ same
  | cons c chars ih =>
      by_cases quote : c = '"'
      · subst quote
        rw [escapeAll, if_pos rfl]
        by_cases full : 2 ≤ before
        · rw [if_pos full, List.cons_append, List.cons_append, unescapes_readMultilineBasic.quote,
            ih, prepend_some]
        · rw [if_neg full, List.cons_append]
          -- One or two quotes at the end are read together with the delimiter.
          cases chars with
          | nil =>
              rw [escapeAll, List.nil_append, readMultilineBasic]
              exact fun _ same => ends _ same
          | cons d chars =>
              by_cases last : d = '"' ∧ before = 0 ∧ chars = []
              · obtain ⟨rfl, rfl, rfl⟩ := last
                rw [escapeAll, if_pos rfl, if_neg (by decide), escapeAll, List.cons_append,
                  List.nil_append, readMultilineBasic]
              · have inside : d = '"' → before = 0 → chars ≠ [] :=
                  fun same zero empty => last ⟨same, zero, empty⟩
                rw [readMultilineBasic_quote (single_escapeAll inside _), ih, prepend_some]
      · rw [escapeAll, List.append_assoc, unescapes_readMultilineBasic.written quote, ih,
          prepend_some]
        exact quote

/-! ## Strings in single quotes -/

theorem readLiteral_append {chars : List Char} (plain : ∀ c ∈ chars, isPlain c = true)
    (noQuote : '\'' ∉ chars) (rest : List Char) :
    readLiteral (chars ++ '\'' :: rest) = some (chars, rest) := by
  induction chars with
  | nil => rw [List.nil_append, readLiteral]
  | cons c chars ih =>
      obtain ⟨first, others⟩ := List.forall_mem_cons.mp plain
      obtain ⟨different, noneBehind⟩ := not_or.mp (mt List.mem_cons.mpr noQuote)
      rw [List.cons_append, readLiteral, plain?, if_pos first, ih others noneBehind, prepend_some]
      exact Ne.symm different

theorem le_longestRun (mark : Char) (before : Nat) (chars : List Char) :
    before ≤ longestRun mark before chars := by
  induction chars generalizing before with
  | nil => exact Nat.le_refl before
  | cons c chars ih =>
      rw [longestRun]
      split
      · exact Nat.le_trans (Nat.le_succ before) (ih (before + 1))
      · exact Nat.le_max_left _ _

theorem longestRun_mark (mark : Char) (before : Nat) (chars : List Char) :
    longestRun mark before (mark :: chars) = longestRun mark (before + 1) chars := by
  rw [longestRun, if_pos (beq_self_eq_true mark)]

theorem longestRun_le_of_ne {mark c : Char} {before limit : Nat} {chars : List Char}
    (different : c ≠ mark) (short : longestRun mark before (c :: chars) ≤ limit) :
    longestRun mark 0 chars ≤ limit := by
  rw [longestRun, if_neg (by simpa using different)] at short
  exact Nat.le_trans (Nat.le_max_right _ _) short

/-- A quote that no two others follow is no part of a delimiter. -/
theorem readMultilineLiteral_plain {c : Char} {text : List Char} (stands : MayStand true c)
    (single : c = '\'' → ∀ back, text ≠ '\'' :: '\'' :: back) :
    readMultilineLiteral (c :: text) = prepend (some c) (readMultilineLiteral text) := by
  rw [readMultilineLiteral, stands.kept]
  · exact fun _ quote same => single quote _ same
  · exact fun _ quote same => single quote _ same
  · exact fun _ quote same => single quote _ same
  · exact fun _ same => absurd same stands.ne_return

theorem readMultilineLiteral_append {before : Nat} {chars : List Char}
    (stands : ∀ c ∈ chars, MayStand true c) (short : longestRun '\'' before chars ≤ 2)
    {rest : List Char} (ends : ∀ back, rest ≠ '\'' :: back) :
    readMultilineLiteral (chars ++ '\'' :: '\'' :: '\'' :: rest) = some (chars, rest) := by
  induction chars generalizing before with
  | nil =>
      rw [List.nil_append, readMultilineLiteral]
      · exact fun _ same => ends _ same
      · exact fun _ same => ends _ same
  | cons c chars ih =>
      obtain ⟨first, others⟩ := List.forall_mem_cons.mp stands
      by_cases quote : c = '\''
      · subst quote
        rw [longestRun_mark] at short
        -- One or two quotes at the end are read together with the delimiter.
        cases chars with
        | nil =>
            rw [List.cons_append, List.nil_append, readMultilineLiteral]
            exact fun _ same => ends _ same
        | cons d chars =>
            by_cases last : d = '\'' ∧ chars = []
            · obtain ⟨rfl, rfl⟩ := last
              rw [List.cons_append, List.cons_append, List.nil_append, readMultilineLiteral]
            · rw [List.cons_append, readMultilineLiteral_plain first, ih others short, prepend_some]
              rintro - back same
              obtain rfl : d = '\'' := (List.cons.inj same).1
              cases chars with
              | nil => exact last ⟨rfl, rfl⟩
              | cons e chars =>
                  obtain rfl : e = '\'' := (List.cons.inj (List.cons.inj same).2).1
                  rw [longestRun_mark, longestRun_mark] at short
                  have long := Nat.le_trans (le_longestRun '\'' (before + 1 + 1 + 1) chars) short
                  omega
      · rw [List.cons_append, readMultilineLiteral_plain first (fun same => absurd same quote),
          ih others (longestRun_le_of_ne quote short), prepend_some]

/-! ## Strings in the form that suits them -/

theorem notMem_of_longestRun {mark : Char} {chars : List Char}
    (none : longestRun mark 0 chars = 0) : mark ∉ chars := by
  induction chars with
  | nil => exact List.not_mem_nil
  | cons c chars ih =>
      intro member
      by_cases same : c = mark
      · rw [same, longestRun_mark] at none
        have atLeast := le_longestRun mark (0 + 1) chars
        omega
      · rcases List.mem_cons.mp member with first | behind
        · exact same first.symm
        · exact ih (Nat.le_zero.mp (longestRun_le_of_ne same (Nat.le_of_eq none))) behind

theorem mayStand_of_not_isControl {c : Char} (noControl : isControl c = false) :
    MayStand true c := by
  by_cases lineEnd : c = '\n'
  · exact .inr ⟨rfl, lineEnd⟩
  · exact .inl (isPlain_of_not_isControl noControl lineEnd)

theorem dropLineEnd_eq_self {text : List Char}
    (noEnd : ∀ c back, text = c :: back → c ≠ '\n' ∧ c ≠ '\r') : dropLineEnd text = text := by
  rw [dropLineEnd]
  · exact fun _ same => (noEnd _ _ same).1 rfl
  · exact fun _ same => (noEnd _ _ same).2 rfl

/-- A text that may follow a string: it does not begin with a quote. -/
def EndsString (rest : List Char) : Prop :=
  ∀ c back, rest = c :: back → c ≠ '"' ∧ c ≠ '\''

section

variable {chars rest : List Char}

theorem readString_basic (chars : List Char) (ends : EndsString rest) :
    readString (StringForm.basic.write chars ++ rest) = some (chars, rest) := by
  have written : StringForm.basic.write chars ++ rest =
      '"' :: (escapeAll false 0 chars ++ '"' :: rest) := by
    simp [StringForm.write, StringForm.delimiter, StringForm.isMultiline, StringForm.body]
  rw [written, readString, readBasic_escapeAll]
  intro back same
  cases chars with
  | nil => exact (ends _ _ (List.cons.inj same).2).1 rfl
  | cons c chars =>
      obtain ⟨d, tail, first, noQuote⟩ :=
        exists_escapeAll_eq_cons (c := c) false (.inr (Nat.zero_le 0)) chars
      rw [first] at same
      exact noQuote (List.cons.inj same).1

theorem readString_literal (plain : ∀ c ∈ chars, isPlain c = true) (noQuote : '\'' ∉ chars)
    (solid : chars ≠ []) : readString (StringForm.literal.write chars ++ rest) =
      some (chars, rest) := by
  have written : StringForm.literal.write chars ++ rest = '\'' :: (chars ++ '\'' :: rest) := by
    simp [StringForm.write, StringForm.delimiter, StringForm.isMultiline, StringForm.body]
  rw [written, readString, readLiteral_append plain noQuote]
  intro back same
  cases chars with
  | nil => exact solid rfl
  | cons c chars =>
      rw [List.cons_append, List.cons.injEq] at same
      exact noQuote (same.1 ▸ List.mem_cons_self)

/-- The line end at the beginning is the one that was written there. -/
theorem dropLineEnd_body {body : List Char}
    (noEnd : '\n' ∉ chars → ∀ c back, body = c :: back → c ≠ '\n' ∧ c ≠ '\r') :
    dropLineEnd ((if chars.contains '\n' then ['\n'] else []) ++ body) = body := by
  split
  · rw [List.cons_append, List.nil_append, dropLineEnd]
  · next without => exact dropLineEnd_eq_self (noEnd (by simpa using without))

theorem readString_multilineBasic (chars : List Char) (ends : EndsString rest) :
    readString (StringForm.multilineBasic.write chars ++ rest) = some (chars, rest) := by
  have written : StringForm.multilineBasic.write chars ++ rest =
      '"' :: '"' :: '"' :: ((if chars.contains '\n' then ['\n'] else []) ++
        (escapeAll true 0 chars ++ '"' :: '"' :: '"' :: rest)) := by
    simp [StringForm.write, StringForm.delimiter, StringForm.isMultiline, StringForm.body]
  rw [written, readString, dropLineEnd_body,
    readMultilineBasic_escapeAll 0 chars fun back same => (ends _ _ same).1 rfl]
  intro without d back same
  cases chars with
  | nil =>
      rw [escapeAll, List.nil_append, List.cons.injEq] at same
      rw [← same.1]
      decide
  | cons c chars =>
      obtain ⟨e, tail, first, written⟩ := escapeAll_cons_cases true 0 c chars
      rw [first, List.cons_append, List.cons.injEq] at same
      rw [← same.1]
      rcases written with rfl | ⟨rfl, ⟨rfl, -⟩ | ⟨-, unescaped⟩⟩
      · decide
      · decide
      · refine ⟨?_, ?_⟩
        · rintro rfl
          exact without List.mem_cons_self
        · rintro rfl
          cases unescaped

theorem readString_multilineLiteral (stands : ∀ c ∈ chars, MayStand true c)
    (short : longestRun '\'' 0 chars ≤ 2) (ends : EndsString rest) :
    readString (StringForm.multilineLiteral.write chars ++ rest) = some (chars, rest) := by
  have written : StringForm.multilineLiteral.write chars ++ rest =
      '\'' :: '\'' :: '\'' :: ((if chars.contains '\n' then ['\n'] else []) ++
        (chars ++ '\'' :: '\'' :: '\'' :: rest)) := by
    simp [StringForm.write, StringForm.delimiter, StringForm.isMultiline, StringForm.body]
  rw [written, readString, dropLineEnd_body,
    readMultilineLiteral_append stands short fun back same => (ends _ _ same).2 rfl]
  intro without d back same
  cases chars with
  | nil =>
      rw [List.nil_append, List.cons.injEq] at same
      rw [← same.1]
      decide
  | cons c chars =>
      rw [List.cons_append, List.cons.injEq] at same
      rw [← same.1]
      refine ⟨?_, (stands c List.mem_cons_self).ne_return⟩
      rintro rfl
      exact without List.mem_cons_self

end

theorem readString_writeString (chars : List Char) {rest : List Char} (ends : EndsString rest) :
    readString (writeString chars ++ rest) = some (chars, rest) := by
  have stands (noControl : chars.any isControl = false) : ∀ c ∈ chars, MayStand true c := by
    intro c member
    exact mayStand_of_not_isControl
      (Bool.eq_false_iff.mpr (List.any_eq_false.mp noControl c member))
  rw [writeString, StringForm.of]
  split
  · exact readString_basic chars ends
  · next notBasic =>
      split
      · next suits =>
          simp only [Bool.and_eq_true, Bool.not_eq_true', beq_iff_eq] at suits
          obtain ⟨⟨noControl, noQuotes⟩, oneLine⟩ := suits
          refine readString_literal ?_ (notMem_of_longestRun noQuotes) ?_
          · intro c member
            rcases stands noControl c member with plain | ⟨-, rfl⟩
            · exact plain
            · simp [member] at oneLine
          · rintro rfl
            exact notBasic rfl
      · split
        · exact readString_multilineBasic chars ends
        · split
          · next suits =>
              rw [Bool.and_eq_true, Bool.not_eq_true', decide_eq_true_eq] at suits
              exact readString_multilineLiteral (stands suits.1) suits.2 ends
          · split
            · exact readString_multilineBasic chars ends
            · exact readString_basic chars ends

end FileSearch.Toml
