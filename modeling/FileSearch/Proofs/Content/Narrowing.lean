import FileSearch.Proofs.Content.Comparison
import FileSearch.Proofs.Text.Split

/-!
# Narrower and wider searches of contents

A word of a text occurs in it also when letter case does not count, since words are lowercased each
for itself. So a search for words finds no more than a search for parts, and a search for the words
of a phrase no less than a search for the phrase.
-/

set_option autoImplicit false

namespace FileSearch

/-! ## Words of a text -/

namespace Text

theorem parts_of_isBlank {c : Char} (blank : isBlank c = true) : Unicode.Parts c :=
  .of_apart blank (by decide +kernel) (by decide +kernel)

/-- A form of texts that is put together from those of the parts at each separator has the form of
every piece in it. -/
theorem occurs_of_mem_splitOnP {isSeparator : Char → Bool} (form : List Char → List Char)
    (parted : ∀ front c back, isSeparator c = true →
      ∃ gap, form (front ++ c :: back) = form front ++ (gap ++ form back))
    {cs piece : List Char} (listed : piece ∈ cs.splitOnP isSeparator) :
    form piece <:+: form cs := by
  induction cs using induction_on_separators isSeparator with
  | whole cs whole =>
      rw [List.splitOnP_eq_singleton whole, List.mem_singleton] at listed
      rw [listed]
  | parted front c back separates frontIH backIH =>
      obtain ⟨gap, composed⟩ := parted front c back separates
      rw [List.splitOnP_append_cons front back separates] at listed
      rw [composed]
      cases List.mem_append.mp listed with
      | inl inFront => exact (frontIH inFront).trans (List.prefix_append _ _).isInfix
      | inr inBack =>
          rw [← List.append_assoc]
          exact (backIH inBack).trans (List.suffix_append _ _).isInfix

end Text

namespace Content

variable {contents text : String} {terms : List String} {ignoreCase : Bool}

theorem comparable_parted (ignoreCase : Bool) (front : List Char) (c : Char) (back : List Char)
    (blank : Text.isBlank c = true) :
    ∃ gap, comparable ignoreCase (String.ofList (front ++ c :: back)) =
      comparable ignoreCase (String.ofList front) ++
        (gap ++ comparable ignoreCase (String.ofList back)) := by
  simp only [comparable, String.toList_ofList]
  cases ignoreCase with
  | false => exact ⟨[c], rfl⟩
  | true =>
      have composed := (Text.parts_of_isBlank blank).lowercaseChars_append front back
      exact ⟨Unicode.lowercaseChar c, composed⟩

theorem comparable_occurs {word : String} (listed : word ∈ Text.terms text) :
    comparable ignoreCase word <:+: comparable ignoreCase text := by
  obtain ⟨run, solid, rfl⟩ := List.mem_map.mp listed
  have occurs := Text.occurs_of_mem_splitOnP (fun cs => comparable ignoreCase (String.ofList cs))
    (comparable_parted ignoreCase) (List.mem_of_mem_filter solid)
  rwa [String.ofList_toList] at occurs

theorem containsAll_of_hasAllWords (found : hasAllWords contents terms ignoreCase = true) :
    containsAll contents terms ignoreCase = true := by
  rw [containsAll_iff]
  intro term listed
  obtain ⟨word, inContents, same⟩ := hasAllWords_iff.mp found term listed
  rw [← same]
  exact comparable_occurs inContents

theorem containsAll_terms (found : containsAll contents [text] ignoreCase = true) :
    containsAll contents (Text.terms text) ignoreCase = true := by
  rw [containsAll_iff] at found ⊢
  intro term listed
  exact (comparable_occurs listed).trans (found text (List.mem_singleton_self text))

end Content

/-! ## Specifications -/

namespace Specification

def withMode (specification : Specification) (mode : MatchMode) : Specification :=
  { specification with text := { specification.text with mode := mode } }

/-- A specification whose search text is one term, or several. -/
def withMultipleTerms (specification : Specification) (several : Bool) : Specification :=
  { specification with text := { specification.text with allowMultipleTerms := several } }

theorem narrows_wholeWord (specification : Specification) :
    Narrows (specification.withMode .wholeWord) (specification.withMode .contains) := by
  constructor
  · rfl
  · intro contents accepted
    exact Content.containsAll_of_hasAllWords accepted

theorem narrows_oneTerm {specification : Specification}
    (contains : specification.text.mode = .contains) :
    Narrows (specification.withMultipleTerms false) (specification.withMultipleTerms true) := by
  constructor
  · rfl
  · intro contents accepted
    unfold Specification.acceptsContents at accepted ⊢
    simp only [withMultipleTerms, contains] at accepted ⊢
    exact Content.containsAll_terms accepted

end Specification

namespace Content

/-- Contents that hold every term as a word also hold it as a part. So a specification that looks
for words keeps no file that it would not keep if it looked for parts. -/
theorem wholeWord_narrows :
    (∀ contents terms ignoreCase, hasAllWords contents terms ignoreCase = true →
      containsAll contents terms ignoreCase = true) ∧
    ∀ (specification : Specification) (tree : FileTree) (paths : List Path),
      ((specification.withMode .wholeWord).filterPaths tree paths).Sublist
        ((specification.withMode .contains).filterPaths tree paths) := by
  constructor
  · intro contents terms ignoreCase found
    exact containsAll_of_hasAllWords found
  · intro specification
    exact (Specification.narrows_wholeWord specification).filterPaths

/-- A final sigma stands in front of the blank. -/
theorem wholeWord_narrows_final_sigma :
    hasAllWords "ΟΔΟΣ ΑΣ" ["οδος", "ΑΣ"] true = true ∧
      containsAll "ΟΔΟΣ ΑΣ" ["οδος", "ΑΣ"] true = true := by
  have found : hasAllWords "ΟΔΟΣ ΑΣ" ["οδος", "ΑΣ"] true = true := by decide +kernel
  exact ⟨found, wholeWord_narrows.1 _ _ _ found⟩

end Content

namespace Specification

/-- A specification that looks for parts accepts whatever holds its search text as one term also if
it looks for the words of the search text, and keeps every file that it kept. -/
theorem multipleTerms_widen {specification : Specification}
    (contains : specification.text.mode = .contains) :
    (∀ contents, (specification.withMultipleTerms false).acceptsContents contents = true →
      (specification.withMultipleTerms true).acceptsContents contents = true) ∧
    ∀ tree paths, ((specification.withMultipleTerms false).filterPaths tree paths).Sublist
      ((specification.withMultipleTerms true).filterPaths tree paths) :=
  ⟨(narrows_oneTerm contains).contents, (narrows_oneTerm contains).filterPaths⟩

theorem multipleTerms_widen_final_sigma :
    ∃ specification : Specification, specification.text.mode = .contains ∧
      specification.searchText = " ΑΣ\u3000Β " ∧
      (specification.withMultipleTerms false).acceptsContents "x ας\u3000βγ" = true ∧
      (specification.withMultipleTerms true).acceptsContents "x ας\u3000βγ" = true := by
  let specification : Specification := { searchText := " ΑΣ\u3000Β " }
  have accepted :
      (specification.withMultipleTerms false).acceptsContents "x ας\u3000βγ" = true := by
    decide +kernel
  exact ⟨specification, rfl, rfl, accepted, (multipleTerms_widen rfl).1 _ accepted⟩

end Specification

end FileSearch
