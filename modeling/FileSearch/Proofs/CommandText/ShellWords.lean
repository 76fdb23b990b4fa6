import FileSearch.CommandText.ShellWords
import FileSearch.Proofs.CommandText.Quoted
import Mathlib.Data.List.Forall2

/-!
# Rendered commands read by a shell

A shell splits a rendered command into the arguments that it stands for, and outside single quotes
it finds nothing there that it would expand or take for an operator.
-/

set_option autoImplicit false

namespace FileSearch.CommandText

/-- The spellings of words in which a shell looks for nothing: harmless characters, single quotes
behind a backslash, and text between single quotes. -/
inductive Inert : List Char → List Char → Prop where
  | nil : Inert [] []
  | harmless {c text chars} : IsHarmless c → Inert text chars → Inert (c :: text) (c :: chars)
  | escapedQuote {text chars} : Inert text chars → Inert ('\\' :: '\'' :: text) ('\'' :: chars)
  | quoted {piece text chars} : '\'' ∉ piece → Inert text chars →
      Inert (inQuotes piece ++ text) (piece ++ chars)

/-! ## Words of rendered commands -/

theorem Inert.of_plain {cs : List Char} (plain : ∀ c ∈ cs, isPlain c = true) : Inert cs cs := by
  induction cs with
  | nil => exact .nil
  | cons c cs ih =>
      obtain ⟨first, others⟩ := List.forall_mem_cons.mp plain
      exact .harmless (isPlain_iff.mp first) (ih others)

theorem Inert.of_pieces {pieces : List (List Char)} (noQuotes : ∀ piece ∈ pieces, '\'' ∉ piece) :
    Inert (['\\', '\''].intercalate (pieces.map inQuotes))
      (['\''].intercalate pieces) := by
  induction pieces with
  | nil => exact .nil
  | cons first others ih =>
      obtain ⟨noQuote, noQuotes⟩ := List.forall_mem_cons.mp noQuotes
      cases others with
      | nil =>
          have single := Inert.quoted noQuote .nil
          rw [List.append_nil, List.append_nil] at single
          rwa [List.map_singleton, List.intercalate_singleton, List.intercalate_singleton]
      | cons second others =>
          rw [List.map_cons, List.map_cons, List.intercalate_cons_cons, List.intercalate_cons_cons,
            List.append_assoc, List.append_assoc]
          exact .quoted noQuote (.escapedQuote (ih noQuotes))

theorem inert_quoteChars (cs : List Char) : Inert (quoteChars cs) cs := by
  rcases quoteChars_cases cs with ⟨-, plain, same⟩ | quoted
  · rw [same]
    exact .of_plain plain
  · have noQuotes : ∀ piece ∈ cs.splitOn '\'', '\'' ∉ piece :=
      fun _ listed => quote_notMem_of_mem_splitOn listed
    have inert := Inert.of_pieces noQuotes
    rwa [List.intercalate_splitOn, ← quoted] at inert

theorem quoteChars_ne_nil (cs : List Char) : quoteChars cs ≠ [] := by
  unfold quoteChars
  split
  · rename_i plain
    rw [Bool.and_eq_true, Bool.not_eq_true', List.isEmpty_eq_false_iff] at plain
    exact plain.1
  · exact List.cons_ne_nil _ _

/-! ## Reading them -/

theorem shellWordsFrom_harmless {c : Char} (harmless : IsHarmless c) (word? : Option (List Char))
    (rest : List Char) :
    shellWordsFrom .bare word? (c :: rest) = shellWordsFrom .bare (extendWord word? c) rest := by
  have plain := isPlain_iff.mpr harmless
  have noSingle : c ≠ '\'' := ne_of_isPlain plain (by decide)
  have noDouble : c ≠ '"' := ne_of_isPlain plain (by decide)
  have noBackslash : c ≠ '\\' := ne_of_isPlain plain (by decide)
  have joins : separatesWords c = false := by
    simp [separatesWords, ne_of_isPlain plain (show isPlain ' ' = false by decide),
      ne_of_isPlain plain (show isPlain '\t' = false by decide),
      ne_of_isPlain plain (show isPlain '\n' = false by decide)]
  rw [shellWordsFrom.eq_def]
  split
  · contradiction
  · rename_i same
    cases same
    exact absurd rfl noBackslash
  · rename_i same
    cases same
    simp [Quoting.mark?, Quoting.openedBy, noSingle, noDouble, joins]

theorem shellWordsFrom_quoted {c : Char} (noQuote : c ≠ '\'') (word? : Option (List Char))
    (rest : List Char) :
    shellWordsFrom .single word? (c :: rest) = shellWordsFrom .single (extendWord word? c) rest := by
  rw [shellWordsFrom.eq_def]
  split
  · contradiction
  · rename_i same
    cases same
    rfl
  · rename_i same
    cases same
    simp [Quoting.mark?, noQuote.symm]

theorem shellWordsFrom_inQuotes {piece : List Char} (noQuote : '\'' ∉ piece) (word : List Char)
    (rest : List Char) :
    shellWordsFrom .single (some word) (piece ++ '\'' :: rest) =
      shellWordsFrom .bare (some (piece.reverse ++ word)) rest := by
  induction piece generalizing word with
  | nil => rfl
  | cons c piece ih =>
      obtain ⟨first, others⟩ := not_or.mp (mt List.mem_cons.mpr noQuote)
      rw [List.cons_append, shellWordsFrom_quoted (Ne.symm first)]
      exact (ih others (c :: word)).trans (by simp)

/-- A spelled word extends the word so far by what it spells. -/
theorem Inert.shellWordsFrom_append {text chars : List Char} (inert : Inert text chars)
    (word rest : List Char) :
    shellWordsFrom .bare (some word) (text ++ rest) =
      shellWordsFrom .bare (some (chars.reverse ++ word)) rest := by
  induction inert generalizing word with
  | nil => rfl
  | harmless harmless _ ih =>
      rw [List.cons_append, shellWordsFrom_harmless harmless]
      exact (ih _).trans (by simp)
  | escapedQuote _ ih => exact (ih _).trans (by simp)
  | @quoted piece text chars noQuote _ ih =>
      have opened : shellWordsFrom .bare (some word) ('\'' :: (piece ++ '\'' :: (text ++ rest))) =
          shellWordsFrom .single (some word) (piece ++ '\'' :: (text ++ rest)) := rfl
      rw [inQuotes, List.append_assoc, List.cons_append, List.append_assoc, List.singleton_append,
        opened, shellWordsFrom_inQuotes noQuote, ih]
      simp

/-- Between two words there is none, and an empty one begins with the first spelled part. -/
theorem shellWordsFrom_none {text chars : List Char} (inert : Inert text chars)
    (nonempty : text ≠ []) (rest : List Char) :
    shellWordsFrom .bare none (text ++ rest) = shellWordsFrom .bare (some []) (text ++ rest) := by
  cases inert with
  | nil => exact absurd rfl nonempty
  | harmless harmless _ =>
      rw [List.cons_append, shellWordsFrom_harmless harmless, shellWordsFrom_harmless harmless]
      rfl
  | escapedQuote _ => rfl
  | quoted _ _ => rfl

theorem shellWordsFrom_quoteChars (cs rest : List Char) :
    shellWordsFrom .bare none (quoteChars cs ++ rest) =
      shellWordsFrom .bare (some cs.reverse) rest := by
  rw [shellWordsFrom_none (inert_quoteChars cs) (quoteChars_ne_nil cs),
    (inert_quoteChars cs).shellWordsFrom_append, List.append_nil]

theorem shellWordsFrom_intercalate (arguments : List (List Char)) :
    shellWordsFrom .bare none ([' '].intercalate (arguments.map quoteChars)) = some arguments := by
  induction arguments with
  | nil => rfl
  | cons first others ih =>
      cases others with
      | nil =>
          have single := shellWordsFrom_quoteChars first []
          rw [List.append_nil] at single
          rw [List.map_singleton, List.intercalate_singleton, single]
          simp [shellWordsFrom]
      | cons second others =>
          have space (rest : List Char) :
              shellWordsFrom .bare (some first.reverse) (' ' :: rest) =
                (shellWordsFrom .bare none rest).map ([first.reverse.reverse] ++ ·) := rfl
          rw [List.map_cons, List.map_cons, List.intercalate_cons_cons, List.append_assoc,
            shellWordsFrom_quoteChars, List.singleton_append, space, ← List.map_cons, ih,
            List.reverse_reverse]
          rfl

/-- A shell splits a rendered command into its arguments. The words of the rendering stand with one
space between each two, and each is a spelling of its argument in which a shell looks for nothing
else. -/
theorem shellWords_render (arguments : List String) :
    shellWords? (render arguments) = some arguments ∧
      ∃ words, (render arguments).toList = [' '].intercalate words ∧
        List.Forall₂ (fun word argument => word ≠ [] ∧ Inert word argument.toList) words
          arguments := by
  refine ⟨?_, _, toList_render arguments, ?_⟩
  · have read := shellWordsFrom_intercalate (arguments.map String.toList)
    simp only [List.map_map, Function.comp_def] at read
    rw [shellWords?, toList_render, read]
    simp [Function.comp_def]
  · rw [List.forall₂_map_left_iff, List.forall₂_same]
    exact fun argument _ => ⟨quoteChars_ne_nil _, inert_quoteChars _⟩

end FileSearch.CommandText
