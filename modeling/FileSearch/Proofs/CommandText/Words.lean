import FileSearch.CommandText.Words
import Mathlib.Tactic.SplitIfs

/-!
# Command fields cut into pieces

A reading of command fields beside the reader of their words: every field falls into separators,
bare runs and quoted sections, in one way only, and its words are those of the pieces.
-/

set_option autoImplicit false

namespace FileSearch.CommandText

/-! ## Pieces -/

/-- Whether a character ends what stands literally: outside quotes a blank or a mark that opens a
section, inside a section the mark that closes it. -/
def Quoting.stops : Quoting → Char → Bool
  | .bare, c => Text.isBlank c || c == '\'' || c == '"'
  | .single, c => c == '\''
  | .double, c => c == '"'

/-- The spellings of literal characters. Outside single quotes a backslash makes the next character
literal, and stands for itself only where the command field ends. -/
inductive Literal (quoting : Quoting) (atEnd : Bool) : List Char → List Char → Prop where
  | nil : Literal quoting atEnd [] []
  | plain {c text chars} : quoting.stops c = false → (c = '\\' → quoting = .single) →
      Literal quoting atEnd text chars → Literal quoting atEnd (c :: text) (c :: chars)
  | escaped {c text chars} : quoting ≠ .single →
      Literal quoting atEnd text chars → Literal quoting atEnd ('\\' :: c :: text) (c :: chars)
  | backslash : quoting ≠ .single → atEnd = true → Literal quoting atEnd ['\\'] ['\\']

inductive Piece where
  | separator (blank : Char)
  | run (chars : List Char)
  | closed (quoting : Quoting) (chars : List Char)
  | unclosed (quoting : Quoting) (chars : List Char)

/-- The word of a piece. A section that is never closed has one unless it is empty. -/
def Piece.word? : Piece → Option (List Char)
  | separator _ => none
  | run chars => some chars
  | closed _ chars => some chars
  | unclosed _ chars => if chars.isEmpty then none else some chars

/-- Behind a part of a command field it ends, or a character follows that is not literal there. -/
def Quoting.Stops (quoting : Quoting) (rest : List Char) : Prop :=
  ∀ c ∈ rest.head?, quoting.stops c = true

/-- A command field cut into pieces from left to right. Runs are as long as possible, and a section
reaches to the first mark that is not literal in it. -/
inductive Cut : List Char → List Piece → Prop where
  | nil : Cut [] []
  | separator {c rest pieces} :
      Text.isBlank c = true → Cut rest pieces → Cut (c :: rest) (.separator c :: pieces)
  | run {text chars rest pieces} :
      text ≠ [] → Literal .bare rest.isEmpty text chars → Quoting.bare.Stops rest →
      Cut rest pieces → Cut (text ++ rest) (.run chars :: pieces)
  | closed {quoting mark text chars rest pieces} :
      quoting.mark? = some mark → Literal quoting false text chars → Cut rest pieces →
      Cut (mark :: (text ++ mark :: rest)) (.closed quoting chars :: pieces)
  | unclosed {quoting mark text chars} :
      quoting.mark? = some mark → Literal quoting true text chars →
      Cut (mark :: text) [.unclosed quoting chars]

/-! ## Marks -/

theorem Quoting.mark?_eq_some_iff {quoting : Quoting} {mark : Char} :
    quoting.mark? = some mark ↔ quoting = .single ∧ mark = '\'' ∨ quoting = .double ∧ mark = '"' := by
  cases quoting <;> simp [mark?, eq_comm]

theorem Quoting.mark?_inj {quoting other : Quoting} {mark : Char}
    (marked : quoting.mark? = some mark) (markedOther : other.mark? = some mark) :
    quoting = other := by
  rw [mark?_eq_some_iff] at marked markedOther
  rcases marked with ⟨rfl, rfl⟩ | ⟨rfl, rfl⟩ <;> rcases markedOther with ⟨rfl, same⟩ | ⟨rfl, same⟩
  · rfl
  · cases same
  · cases same
  · rfl

theorem Quoting.stops_mark {quoting : Quoting} {mark : Char} (marked : quoting.mark? = some mark) :
    quoting.stops mark = true := by
  rcases mark?_eq_some_iff.mp marked with ⟨rfl, rfl⟩ | ⟨rfl, rfl⟩ <;> rfl

theorem Quoting.eq_mark_of_stops {quoting : Quoting} {mark c : Char}
    (marked : quoting.mark? = some mark) (stops : quoting.stops c = true) : c = mark := by
  rcases mark?_eq_some_iff.mp marked with ⟨rfl, rfl⟩ | ⟨rfl, rfl⟩ <;> simpa [Quoting.stops] using stops

theorem Quoting.stops_bare_mark {quoting : Quoting} {mark : Char}
    (marked : quoting.mark? = some mark) : Quoting.bare.stops mark = true := by
  rcases mark?_eq_some_iff.mp marked with ⟨rfl, rfl⟩ | ⟨rfl, rfl⟩ <;> decide

theorem Quoting.stops_bare_iff {c : Char} : Quoting.bare.stops c = true ↔
    Text.isBlank c = true ∨ ∃ quoting : Quoting, quoting.mark? = some c := by
  simp only [stops, Bool.or_eq_true, beq_iff_eq, or_assoc]
  refine or_congr_right ⟨?_, ?_⟩
  · rintro (rfl | rfl)
    · exact ⟨.single, rfl⟩
    · exact ⟨.double, rfl⟩
  · rintro ⟨quoting, marked⟩
    rcases mark?_eq_some_iff.mp marked with ⟨-, rfl⟩ | ⟨-, rfl⟩
    · exact .inl rfl
    · exact .inr rfl

theorem Quoting.isBlank_mark {quoting : Quoting} {mark : Char}
    (marked : quoting.mark? = some mark) : Text.isBlank mark = false := by
  rcases mark?_eq_some_iff.mp marked with ⟨-, rfl⟩ | ⟨-, rfl⟩ <;> decide

@[simp] theorem Quoting.stops_backslash (quoting : Quoting) : quoting.stops '\\' = false := by
  cases quoting <;> decide

/-! ## Words of literal text -/

theorem wordsFrom_plain {quoting : Quoting} {c : Char} (goesOn : quoting.stops c = false)
    (noEscape : c = '\\' → quoting = .single) (word rest : List Char) :
    wordsFrom quoting word (c :: rest) = wordsFrom quoting (c :: word) rest := by
  rw [wordsFrom.eq_def]
  split
  · contradiction
  · rename_i same
    cases same
    rw [if_pos (noEscape rfl)]
  · rename_i same
    cases same
    cases quoting with
    | bare =>
        simp only [Quoting.stops, Bool.or_eq_false_iff, beq_eq_false_iff_ne] at goesOn
        simp [Quoting.mark?, Quoting.openedBy, goesOn]
    | single | double =>
        simp only [Quoting.stops, beq_eq_false_iff_ne] at goesOn
        simp [Quoting.mark?, goesOn.symm]

theorem wordsFrom_escaped {quoting : Quoting} (escapes : quoting ≠ .single) (c : Char)
    (word rest : List Char) :
    wordsFrom quoting word ('\\' :: c :: rest) = wordsFrom quoting (c :: word) rest := by
  rw [wordsFrom.eq_def]
  simp only [if_neg escapes]

theorem wordsFrom_backslash {quoting : Quoting} (escapes : quoting ≠ .single) (word : List Char) :
    wordsFrom quoting word ['\\'] = wordsFrom quoting ('\\' :: word) [] := by
  rw [wordsFrom.eq_def]
  simp only [if_neg escapes]
  rfl

/-- Literal text extends the word so far, where nothing but the end follows a last backslash. -/
theorem Literal.wordsFrom_append {quoting : Quoting} {text chars rest : List Char}
    (literal : Literal quoting rest.isEmpty text chars) (word : List Char) :
    wordsFrom quoting word (text ++ rest) = wordsFrom quoting (chars.reverse ++ word) rest := by
  induction literal generalizing word with
  | nil => rfl
  | plain goesOn noEscape _ ih =>
      rw [List.cons_append, wordsFrom_plain goesOn noEscape, ih, List.reverse_cons,
        List.append_assoc]
      rfl
  | escaped escapes _ ih =>
      rw [List.cons_append, List.cons_append, wordsFrom_escaped escapes, ih, List.reverse_cons,
        List.append_assoc]
      rfl
  | backslash escapes last =>
      rw [List.isEmpty_iff.mp last, List.append_nil, wordsFrom_backslash escapes]
      rfl

theorem wordsFrom_blank {c : Char} (blank : Text.isBlank c = true) (word rest : List Char) :
    wordsFrom .bare word (c :: rest) = pendingWord word ++ wordsFrom .bare [] rest := by
  rw [wordsFrom.eq_def]
  split
  · contradiction
  · rename_i same
    cases same
    have noBlank : Text.isBlank '\\' = false := by decide
    rw [noBlank] at blank
    cases blank
  · rename_i same
    cases same
    have noMark : Quoting.openedBy c = none := by
      unfold Quoting.openedBy
      split_ifs with single double
      · subst single; exact absurd blank (by decide)
      · subst double; exact absurd blank (by decide)
      · rfl
    simp [Quoting.mark?, noMark, blank]

theorem wordsFrom_opening {quoting : Quoting} {mark : Char} (marked : quoting.mark? = some mark)
    (word rest : List Char) :
    wordsFrom .bare word (mark :: rest) = pendingWord word ++ wordsFrom quoting [] rest := by
  rcases Quoting.mark?_eq_some_iff.mp marked with ⟨rfl, rfl⟩ | ⟨rfl, rfl⟩ <;>
    rw [wordsFrom.eq_def] <;> rfl

theorem wordsFrom_closing {quoting : Quoting} {mark : Char} (marked : quoting.mark? = some mark)
    (word rest : List Char) :
    wordsFrom quoting word (mark :: rest) = word.reverse :: wordsFrom .bare [] rest := by
  rcases Quoting.mark?_eq_some_iff.mp marked with ⟨rfl, rfl⟩ | ⟨rfl, rfl⟩ <;>
    rw [wordsFrom.eq_def] <;> rfl

/-- Where a run ends, its word is complete. -/
theorem wordsFrom_of_stops {rest : List Char} (stops : Quoting.bare.Stops rest)
    (word : List Char) :
    wordsFrom .bare word rest = pendingWord word ++ wordsFrom .bare [] rest := by
  cases rest with
  | nil => exact (List.append_nil _).symm
  | cons c rest =>
      rcases Quoting.stops_bare_iff.mp (stops c rfl) with blank | ⟨quoting, marked⟩
      · rw [wordsFrom_blank blank, wordsFrom_blank blank []]
        rfl
      · rw [wordsFrom_opening marked, wordsFrom_opening marked []]
        rfl

/-! ## Words of pieces -/

theorem Literal.ne_nil {quoting : Quoting} {atEnd : Bool} {text chars : List Char}
    (literal : Literal quoting atEnd text chars) (nonempty : text ≠ []) : chars ≠ [] := by
  cases literal with
  | nil => exact absurd rfl nonempty
  | plain _ _ _ => exact List.cons_ne_nil _ _
  | escaped _ _ => exact List.cons_ne_nil _ _
  | backslash _ _ => exact List.cons_ne_nil _ _

theorem pendingWord_reverse (chars : List Char) :
    pendingWord chars.reverse = if chars.isEmpty then [] else [chars] := by
  rw [pendingWord, List.isEmpty_reverse, List.reverse_reverse]

/-- Each piece gives its word, whatever stands around it. -/
theorem Cut.wordsFrom_eq {text : List Char} {pieces : List Piece} (cut : Cut text pieces) :
    wordsFrom .bare [] text = pieces.filterMap Piece.word? := by
  induction cut with
  | nil => rfl
  | separator blank _ ih =>
      rw [wordsFrom_blank blank, ih]
      rfl
  | @run text chars rest pieces nonempty literal stops _ ih =>
      rw [literal.wordsFrom_append, List.append_nil, wordsFrom_of_stops stops, ih,
        pendingWord_reverse, List.isEmpty_eq_false_iff.mpr (literal.ne_nil nonempty)]
      rfl
  | @closed quoting mark text chars rest pieces marked literal _ ih =>
      have inner : wordsFrom quoting [] (text ++ mark :: rest) = _ :=
        Literal.wordsFrom_append literal []
      rw [wordsFrom_opening marked, inner, List.append_nil, wordsFrom_closing marked,
        List.reverse_reverse, ih]
      rfl
  | @unclosed quoting mark text chars marked literal =>
      have inner : wordsFrom quoting [] (text ++ []) = _ := Literal.wordsFrom_append literal []
      rw [List.append_nil, List.append_nil] at inner
      rw [wordsFrom_opening marked, inner]
      change pendingWord chars.reverse = _
      rw [pendingWord_reverse]
      by_cases nothing : chars.isEmpty = true <;> simp [Piece.word?, nothing]

/-! ## Every field has a cut -/

theorem exists_literal (quoting : Quoting) (text : List Char) :
    ∃ front chars rest, text = front ++ rest ∧ Literal quoting rest.isEmpty front chars ∧
      quoting.Stops rest := by
  -- A backslash takes the next character with it, so the induction is on the length.
  induction size : text.length using Nat.strongRecOn generalizing text with
  | ind size ih =>
      cases text with
      | nil => exact ⟨[], [], [], rfl, .nil, by simp [Quoting.Stops]⟩
      | cons c text =>
          subst size
          by_cases stops : quoting.stops c = true
          · exact ⟨[], [], c :: text, rfl, .nil, fun d head => by cases head; exact stops⟩
          · rw [Bool.not_eq_true] at stops
            by_cases escape : c = '\\' ∧ quoting ≠ .single
            · obtain ⟨rfl, escapes⟩ := escape
              cases text with
              | nil =>
                  exact ⟨['\\'], ['\\'], [], rfl, .backslash escapes rfl, by simp [Quoting.Stops]⟩
              | cons d text =>
                  obtain ⟨front, chars, rest, rfl, literal, ends⟩ :=
                    ih text.length (by simp only [List.length_cons]; omega) text rfl
                  exact ⟨'\\' :: d :: front, d :: chars, rest, rfl, .escaped escapes literal, ends⟩
            · obtain ⟨front, chars, rest, rfl, literal, ends⟩ :=
                ih text.length (by simp only [List.length_cons]; omega) text rfl
              refine ⟨c :: front, c :: chars, rest, rfl, .plain stops ?_ literal, ends⟩
              exact fun backslash => Decidable.not_not.mp fun escapes => escape ⟨backslash, escapes⟩

theorem exists_cut (text : List Char) : ∃ pieces, Cut text pieces := by
  induction size : text.length using Nat.strongRecOn generalizing text with
  | ind size ih =>
      cases text with
      | nil => exact ⟨[], .nil⟩
      | cons c text =>
          subst size
          by_cases stops : Quoting.bare.stops c = true
          · rcases Quoting.stops_bare_iff.mp stops with blank | ⟨quoting, marked⟩
            · obtain ⟨pieces, cut⟩ := ih text.length (by simp) text rfl
              exact ⟨_, .separator blank cut⟩
            · obtain ⟨front, chars, rest, rfl, literal, ends⟩ := exists_literal quoting text
              cases rest with
              | nil => exact ⟨_, by rw [List.append_nil]; exact .unclosed marked literal⟩
              | cons d rest =>
                  obtain rfl : d = c := Quoting.eq_mark_of_stops marked (ends d rfl)
                  obtain ⟨pieces, cut⟩ := ih rest.length
                    (by simp only [List.length_cons, List.length_append]; omega) rest rfl
                  exact ⟨_, .closed marked literal cut⟩
          · obtain ⟨front, chars, rest, same, literal, ends⟩ := exists_literal .bare (c :: text)
            have nonempty : front ≠ [] := by
              rintro rfl
              rw [List.nil_append] at same
              exact stops (ends c (by rw [← same]; rfl))
            have shorter := congrArg List.length same
            have positive := List.length_pos_iff.mpr nonempty
            rw [List.length_append] at shorter
            obtain ⟨pieces, cut⟩ := ih rest.length (by omega) rest rfl
            exact ⟨_, by rw [same]; exact .run nonempty literal ends cut⟩

/-! ## No field has two cuts -/

theorem Quoting.Stops.head {quoting : Quoting} {c : Char} {text rest : List Char}
    (stops : quoting.Stops rest) (same : rest = c :: text) : quoting.stops c = true :=
  stops c (by rw [same]; rfl)

/-- Literal text up to the first character that is not literal is spelled in one way. -/
theorem Literal.unique {quoting : Quoting}
    {text chars rest otherText otherChars otherRest : List Char}
    (literal : Literal quoting rest.isEmpty text chars) (stops : quoting.Stops rest)
    (otherLiteral : Literal quoting otherRest.isEmpty otherText otherChars)
    (otherStops : quoting.Stops otherRest) (same : text ++ rest = otherText ++ otherRest) :
    chars = otherChars ∧ rest = otherRest := by
  induction literal generalizing otherText otherChars with
  | nil =>
      cases otherLiteral with
      | nil => exact ⟨rfl, same⟩
      | plain goesOn _ _ => exact absurd (stops.head same) (by simp [goesOn])
      | escaped _ _ => exact absurd (stops.head same) (by simp)
      | backslash _ _ => exact absurd (stops.head same) (by simp)
  | plain goesOn noEscape _ ih =>
      cases otherLiteral with
      | nil => exact absurd (otherStops.head same.symm) (by simp [goesOn])
      | plain _ _ otherLiteral =>
          injection same with first same
          obtain ⟨rfl, rest⟩ := ih otherLiteral same
          exact ⟨by rw [first], rest⟩
      | escaped escapes _ =>
          injection same with first
          exact absurd (noEscape first) escapes
      | backslash escapes _ =>
          injection same with first
          exact absurd (noEscape first) escapes
  | escaped escapes _ ih =>
      cases otherLiteral with
      | nil => exact absurd (otherStops.head same.symm) (by simp)
      | plain _ noEscape _ =>
          injection same with first
          exact absurd (noEscape first.symm) escapes
      | escaped _ otherLiteral =>
          injection same with _ same
          injection same with second same
          obtain ⟨rfl, rest⟩ := ih otherLiteral same
          exact ⟨by rw [second], rest⟩
      | backslash _ last =>
          rw [List.isEmpty_iff.mp last] at same
          injection same with _ same
          cases same
  | backslash escapes last =>
      cases otherLiteral with
      | nil => exact absurd (otherStops.head same.symm) (by simp)
      | plain _ noEscape _ =>
          injection same with first
          exact absurd (noEscape first.symm) escapes
      | escaped _ _ =>
          rw [List.isEmpty_iff.mp last] at same
          injection same with _ same
          cases same
      | backslash _ _ =>
          injection same with _ same
          exact ⟨rfl, same⟩

theorem stops_cons {quoting : Quoting} {c : Char} (stops : quoting.stops c = true)
    (rest : List Char) : quoting.Stops (c :: rest) := by
  intro d head
  cases head
  exact stops

theorem stops_closing {quoting : Quoting} {mark : Char} (marked : quoting.mark? = some mark)
    (rest : List Char) : quoting.Stops (mark :: rest) :=
  stops_cons (Quoting.stops_mark marked) rest

theorem stops_nil (quoting : Quoting) : quoting.Stops [] := by
  intro c head
  cases head

/-- Nothing but a literal character begins literal text. -/
theorem Literal.stops_head {quoting : Quoting} {atEnd : Bool} {text chars rest behind : List Char}
    {c : Char} (literal : Literal quoting atEnd text chars) (nonempty : text ≠ [])
    (same : text ++ rest = c :: behind) : quoting.stops c = false := by
  cases literal with
  | nil => exact absurd rfl nonempty
  | plain goesOn _ _ => cases same; exact goesOn
  | escaped _ _ => cases same; exact quoting.stops_backslash
  | backslash _ _ => cases same; exact quoting.stops_backslash

theorem Cut.of_nil {text : List Char} {pieces : List Piece} (cut : Cut text pieces)
    (same : text = []) : pieces = [] := by
  cases cut with
  | nil => rfl
  | separator _ _ => cases same
  | run nonempty _ _ _ => exact absurd (List.append_eq_nil_iff.mp same).1 nonempty
  | closed _ _ _ => cases same
  | unclosed _ _ => cases same

theorem Cut.of_blank {c : Char} {text rest : List Char} {pieces : List Piece}
    (blank : Text.isBlank c = true) (cut : Cut text pieces) (same : text = c :: rest) :
    ∃ others, pieces = .separator c :: others ∧ Cut rest others := by
  have stops : Quoting.bare.stops c = true := Quoting.stops_bare_iff.mpr (.inl blank)
  cases cut with
  | nil => cases same
  | separator _ cut => cases same; exact ⟨_, rfl, cut⟩
  | run nonempty literal _ _ => exact absurd (literal.stops_head nonempty same) (by simp [stops])
  | closed marked _ _ => cases same; exact absurd blank (by simp [Quoting.isBlank_mark marked])
  | unclosed marked _ => cases same; exact absurd blank (by simp [Quoting.isBlank_mark marked])

theorem Cut.of_literal {c : Char} {text behind : List Char} {pieces : List Piece}
    (goesOn : Quoting.bare.stops c = false) (cut : Cut text pieces) (same : text = c :: behind) :
    ∃ front chars rest others, text = front ++ rest ∧ Literal .bare rest.isEmpty front chars ∧
      Quoting.bare.Stops rest ∧ pieces = .run chars :: others ∧ Cut rest others := by
  cases cut with
  | nil => cases same
  | separator blank _ =>
      cases same
      exact absurd (Quoting.stops_bare_iff.mpr (.inl blank)) (by simp [goesOn])
  | run _ literal stops cut => exact ⟨_, _, _, _, rfl, literal, stops, rfl, cut⟩
  | closed marked _ _ =>
      cases same
      exact absurd (Quoting.stops_bare_mark marked) (by simp [goesOn])
  | unclosed marked _ =>
      cases same
      exact absurd (Quoting.stops_bare_mark marked) (by simp [goesOn])

theorem Cut.of_mark {quoting : Quoting} {mark : Char} {text behind : List Char}
    {pieces : List Piece} (marked : quoting.mark? = some mark) (cut : Cut text pieces)
    (same : text = mark :: behind) :
    ∃ front chars rest, behind = front ++ rest ∧ Literal quoting rest.isEmpty front chars ∧
      quoting.Stops rest ∧ (rest = [] ∧ pieces = [.unclosed quoting chars] ∨
        ∃ next others, rest = mark :: next ∧ pieces = .closed quoting chars :: others ∧
          Cut next others) := by
  cases cut with
  | nil => cases same
  | separator blank _ => cases same; exact absurd blank (by simp [Quoting.isBlank_mark marked])
  | run nonempty literal _ _ =>
      exact absurd (literal.stops_head nonempty same) (by simp [Quoting.stops_bare_mark marked])
  | closed markedOther literal cut =>
      cases same
      obtain rfl := Quoting.mark?_inj markedOther marked
      exact ⟨_, _, _, rfl, literal, stops_closing marked _, .inr ⟨_, _, rfl, rfl, cut⟩⟩
  | unclosed markedOther literal =>
      cases same
      obtain rfl := Quoting.mark?_inj markedOther marked
      exact ⟨_, _, [], (List.append_nil _).symm, literal, stops_nil _, .inl ⟨rfl, rfl⟩⟩

theorem Cut.unique {text : List Char} {pieces others : List Piece} (cut : Cut text pieces)
    (other : Cut text others) : others = pieces := by
  induction cut generalizing others with
  | nil => exact other.of_nil rfl
  | separator blank _ ih =>
      obtain ⟨others, rfl, behind⟩ := other.of_blank blank rfl
      rw [ih behind]
  | @run text chars rest pieces nonempty literal stops _ ih =>
      obtain ⟨c, behind, rfl⟩ := List.exists_cons_of_ne_nil nonempty
      obtain ⟨front, otherChars, otherRest, others, same, otherLiteral, otherStops, rfl, other⟩ :=
        other.of_literal (literal.stops_head nonempty (List.append_nil _)) rfl
      obtain ⟨rfl, rfl⟩ := literal.unique stops otherLiteral otherStops same
      rw [ih other]
  | @closed quoting mark text chars rest pieces marked literal _ ih =>
      obtain ⟨front, otherChars, otherRest, same, otherLiteral, otherStops, ending⟩ :=
        other.of_mark marked rfl
      obtain ⟨rfl, rfl⟩ := Literal.unique literal (stops_closing marked rest) otherLiteral
        otherStops same
      rcases ending with ⟨nothing, -⟩ | ⟨next, others, sameRest, rfl, other⟩
      · cases nothing
      · cases sameRest
        rw [ih other]
  | @unclosed quoting mark text chars marked literal =>
      obtain ⟨front, otherChars, otherRest, same, otherLiteral, otherStops, ending⟩ :=
        other.of_mark marked rfl
      obtain ⟨rfl, rfl⟩ := Literal.unique literal (stops_nil quoting) otherLiteral otherStops
        ((List.append_nil text).trans same)
      rcases ending with ⟨-, rfl⟩ | ⟨next, others, nothing, -⟩
      · rfl
      · cases nothing

/-! ## Words of command fields -/

/-- A command field falls into pieces in exactly one way, and its words are those of the pieces in
order. -/
theorem words_cut (command : String) :
    ∃ pieces, Cut command.toList pieces ∧
      (∀ others, Cut command.toList others → others = pieces) ∧
      words command = (pieces.filterMap Piece.word?).map String.ofList := by
  obtain ⟨pieces, cut⟩ := exists_cut command.toList
  exact ⟨pieces, cut, fun _ other => cut.unique other, by rw [words, cut.wordsFrom_eq]⟩

end FileSearch.CommandText
