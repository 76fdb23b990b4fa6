import FileSearch.Command.Grammar
import Mathlib.Data.List.Basic

/-!
# Words cut into signs and primaries

A relation beside the reader of words: they fall into signs and primaries with all their operands,
whatever the operands say, and the reader finds that cut. The heads among the words are the signs
and the words of the primaries.
-/

set_option autoImplicit false

namespace FileSearch.Command

/-! ## Primaries that the grammar knows -/

/-- The primary has as many operands as its word takes. -/
structure Primary.Complete (primary : Primary) : Prop where
  noSign : Sign.ofWord? primary.word = none
  operands : Operands.ofWord? primary.word = some (.fixed primary.operands.length)

theorem Primary.complete_bare {word : String} (listed : word ∈ Operands.bareWords) :
    (bare word).Complete := by
  have all : ∀ word ∈ Operands.bareWords,
      Sign.ofWord? word = none ∧ Operands.ofWord? word = some (.fixed 0) := by decide +kernel
  exact ⟨(all word listed).1, (all word listed).2⟩

theorem Primary.complete_unary {word : String} (listed : word ∈ Operands.unaryWords)
    (operand : String) : (unary word operand).Complete := by
  have all : ∀ word ∈ Operands.unaryWords,
      Sign.ofWord? word = none ∧ Operands.ofWord? word = some (.fixed 1) := by decide +kernel
  exact ⟨(all word listed).1, (all word listed).2⟩

/-! ## Operands -/

/-- The operands that a primary lacks complete it. -/
theorem Lexeme.ofWordsFrom?_operands (name : String) (operands : List String) {missing : Nat}
    (before rest : List String) (count : operands.length = missing + 1) :
    ofWordsFrom? (.fixed name before missing) (operands ++ rest) =
      (ofWordsFrom? .nothing rest).map (.primary ⟨name, before.reverse ++ operands⟩ :: ·) := by
  -- Whatever an operand is, it only shortens what is missing.
  induction operands generalizing before missing with
  | nil => cases count
  | cons operand operands ih =>
      cases missing with
      | zero =>
          obtain rfl : operands = [] := by simpa using count
          cases read : ofWordsFrom? .nothing rest <;> simp [ofWordsFrom?, step?, read]
      | succ missing =>
          have continued := ih (operand :: before) (by simpa using count)
          rw [List.reverse_cons, List.append_assoc, List.singleton_append] at continued
          rw [List.cons_append, ofWordsFrom?]
          simp only [step?, Option.bind_eq_bind, Option.bind_some, continued, List.nil_append]
          cases ofWordsFrom? .nothing rest <;> rfl

namespace Unfinished

theorem heads_append (unfinished : Unfinished) (front back : List String) :
    unfinished.heads (front ++ back) =
      unfinished.heads front ++ (front.foldl behind unfinished).heads back := by
  induction front generalizing unfinished with
  | nil => rfl
  | cons word front ih =>
      rw [List.cons_append, heads, heads, ih, List.foldl_cons, List.append_assoc]

/-- No operand is a head, and behind the last one nothing is open. -/
theorem heads_operands (name : String) (operands : List String) {missing : Nat}
    (before : List String) (count : operands.length = missing + 1) :
    heads (.fixed name before missing) operands = [] ∧
      operands.foldl behind (.fixed name before missing) = .nothing := by
  induction operands generalizing before missing with
  | nil => cases count
  | cons operand operands ih =>
      cases missing with
      | zero =>
          obtain rfl : operands = [] := by simpa using count
          simp [heads, behind, Lexeme.step?]
      | succ missing => exact ih (operand :: before) (by simpa using count)

end Unfinished

namespace Primary.Complete

variable {primary : Primary}

theorem ofWordsFrom?_words (complete : primary.Complete) (rest : List String) :
    Lexeme.ofWordsFrom? .nothing (primary.words ++ rest) =
      (Lexeme.ofWordsFrom? .nothing rest).map (.primary primary :: ·) := by
  obtain ⟨name, operands⟩ := primary
  obtain ⟨noSign, count⟩ := complete
  simp only at noSign count
  rw [words, List.cons_append, Lexeme.ofWordsFrom?]
  cases operands with
  | nil =>
      simp only [Lexeme.step?, Lexeme.ofWord?, noSign, count, List.length_nil,
        Option.bind_eq_bind, Option.bind_some, List.nil_append]
      cases Lexeme.ofWordsFrom? .nothing rest <;> rfl
  | cons operand operands =>
      have operandsRead := Lexeme.ofWordsFrom?_operands name (operand :: operands) [] rest
        List.length_cons
      simp only [Lexeme.step?, Lexeme.ofWord?, noSign, count, List.length_cons,
        Option.bind_eq_bind, Option.bind_some, operandsRead]
      cases Lexeme.ofWordsFrom? .nothing rest <;> rfl

theorem heads_words (complete : primary.Complete) :
    Unfinished.heads .nothing primary.words = [primary.word] ∧
      primary.words.foldl Unfinished.behind .nothing = .nothing := by
  obtain ⟨name, operands⟩ := primary
  obtain ⟨noSign, count⟩ := complete
  simp only at noSign count
  cases operands with
  | nil =>
      simp [words, Unfinished.heads, Unfinished.behind, Lexeme.step?, Lexeme.ofWord?, noSign,
        count]
  | cons operand operands =>
      obtain ⟨noHeads, nothing⟩ := Unfinished.heads_operands name (operand :: operands) []
        List.length_cons
      have opened : Unfinished.behind .nothing name = .fixed name [] operands.length := by
        simp [Unfinished.behind, Lexeme.step?, Lexeme.ofWord?, noSign, count]
      constructor
      · rw [words, Unfinished.heads, opened, noHeads]
        rfl
      · rw [words, List.foldl_cons, opened, nothing]

end Primary.Complete

theorem heads_sign {word : String} {sign : Sign} (joint : Sign.ofWord? word = some sign) :
    Unfinished.heads .nothing [word] = [word] ∧ Unfinished.behind .nothing word = .nothing := by
  simp [Unfinished.heads, Unfinished.behind, Lexeme.step?, Lexeme.ofWord?, joint]

/-! ## Cuts -/

/-- Words fall into signs and primaries with all their operands. -/
inductive Cut : List String → List Lexeme → Prop where
  | nil : Cut [] []
  | sign {word sign words lexemes} :
      Sign.ofWord? word = some sign → Cut words lexemes →
      Cut (word :: words) (.sign sign :: lexemes)
  | primary {primary words lexemes} :
      primary.Complete → Cut words lexemes →
      Cut (primary.words ++ words) (.primary primary :: lexemes)

namespace Cut

theorem append {front back : List String} {first second : List Lexeme} (cut : Cut front first)
    (behind : Cut back second) : Cut (front ++ back) (first ++ second) := by
  induction cut with
  | nil => exact behind
  | sign joint _ ih => exact .sign joint ih
  | primary complete _ ih =>
      rw [List.append_assoc]
      exact .primary complete ih

theorem single {primary : Primary} (complete : primary.Complete) :
    Cut primary.words [.primary primary] := by
  simpa using Cut.primary complete .nil

theorem negated {primary : Primary} (complete : primary.Complete) :
    Cut ("!" :: primary.words) [.sign .not, .primary primary] :=
  .sign rfl (single complete)

theorem parenthesized {words : List String} {lexemes : List Lexeme} (cut : Cut words lexemes) :
    Cut ("(" :: (words ++ [")"])) (.sign .opening :: (lexemes ++ [.sign .closing])) :=
  .sign rfl (cut.append (.sign rfl .nil))

theorem flatMap {α : Type} {items : List α} {words : α → List String}
    {lexemes : α → List Lexeme} (cuts : ∀ item ∈ items, Cut (words item) (lexemes item)) :
    Cut (items.flatMap words) (items.flatMap lexemes) := by
  induction items with
  | nil => exact .nil
  | cons item items ih =>
      have first := cuts item List.mem_cons_self
      have others := ih fun other member => cuts other (List.mem_cons_of_mem _ member)
      simpa only [List.flatMap_cons] using first.append others

/-- The reader finds the cut, whatever follows. -/
theorem ofWordsFrom?_append {words : List String} {lexemes : List Lexeme} (cut : Cut words lexemes)
    (rest : List String) : Lexeme.ofWordsFrom? .nothing (words ++ rest) =
      (Lexeme.ofWordsFrom? .nothing rest).map (lexemes ++ ·) := by
  induction cut with
  | nil => cases read : Lexeme.ofWordsFrom? .nothing rest <;> simp [read]
  | sign joint _ ih =>
      rw [List.cons_append, Lexeme.ofWordsFrom?, Lexeme.step?, Lexeme.ofWord?, joint]
      simp only [Option.bind_eq_bind, Option.bind_some, ih]
      cases Lexeme.ofWordsFrom? .nothing rest <;> rfl
  | primary complete _ ih =>
      rw [List.append_assoc, complete.ofWordsFrom?_words, ih]
      cases Lexeme.ofWordsFrom? .nothing rest <;> rfl

theorem ofWords? {words : List String} {lexemes : List Lexeme} (cut : Cut words lexemes) :
    Lexeme.ofWords? words = some lexemes := by
  have read := cut.ofWordsFrom?_append []
  rw [List.append_nil] at read
  rw [Lexeme.ofWords?, read, Lexeme.ofWordsFrom?, if_pos rfl, Option.map_some, List.append_nil]

end Cut

end FileSearch.Command
