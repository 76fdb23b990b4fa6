import FileSearch.Content.Filter
import FileSearch.Proofs.Unicode.LetterCase

/-!
# Searching without letter case

Whether contents that hold the search text as it is written also hold it when letter case does not
count. Words do, since each is lowercased for itself. Parts of contents do where the lowercase form
of a term does not depend on what stands around it in the contents, and only there.
-/

set_option autoImplicit false

namespace FileSearch

open Unicode (IsSteady)

theorem Text.occursIn_iff {needle cs : List Char} :
    occursIn needle cs = true ↔ needle <:+: cs := by
  induction cs with
  | nil => rw [occursIn, List.isEmpty_iff, List.infix_nil]
  | cons c cs ih =>
      rw [occursIn, Bool.or_eq_true, List.isPrefixOf_iff_prefix, ih, List.infix_cons_iff]

namespace Content

variable {contents term : String} {terms : List String}

theorem containsAll_iff {ignoreCase : Bool} : containsAll contents terms ignoreCase = true ↔
    ∀ term ∈ terms, comparable ignoreCase term <:+: comparable ignoreCase contents := by
  simp only [containsAll, List.all_eq_true, Text.occursIn_iff]

theorem hasAllWords_iff {ignoreCase : Bool} : hasAllWords contents terms ignoreCase = true ↔
    ∀ term ∈ terms, ∃ word ∈ Text.terms contents,
      comparable ignoreCase word = comparable ignoreCase term := by
  simp only [hasAllWords, List.all_eq_true, List.contains_iff_mem, List.mem_map]

theorem hasAllWords_ignoreCase (found : hasAllWords contents terms false = true) :
    hasAllWords contents terms true = true := by
  rw [hasAllWords_iff] at found ⊢
  intro term listed
  obtain ⟨word, inContents, same⟩ := found term listed
  exact ⟨word, inContents, congrArg Unicode.lowercaseChars same⟩

theorem containsAll_ignoreCase (steady : ∀ term ∈ terms, IsSteady term.toList)
    (found : containsAll contents terms false = true) : containsAll contents terms true = true := by
  rw [containsAll_iff] at found ⊢
  intro term listed
  exact (steady term listed).lowercaseChars_occurs (found term listed)

/-- A term that is not steady is lost in some contents. -/
theorem exists_contents_of_not_steady (unsteady : ¬ IsSteady term.toList) : ∃ contents,
    containsAll contents [term] false = true ∧ containsAll contents [term] true = false := by
  obtain ⟨whole, found, lost⟩ := Unicode.exists_lowercaseChars_lost unsteady
  refine ⟨String.ofList whole, ?_, Bool.eq_false_iff.mpr fun kept => lost ?_⟩
  · rw [containsAll_iff, List.forall_mem_singleton]
    simpa [comparable] using found
  · have occurs := containsAll_iff.mp kept term (List.mem_singleton_self term)
    simpa [comparable] using occurs

end Content

namespace Specification

/-- A specification whose search text is compared with or without letter case. -/
def withMatchCase (specification : Specification) (matchCase : Bool) : Specification :=
  { specification with text := { specification.text with matchCase := matchCase } }

/-- What the search text looks for is the same without letter case: a word, or a part of the
contents that is steady. -/
def IgnoresCaseSafely (specification : Specification) : Prop :=
  specification.text.mode = .wholeWord ∨ specification.text.mode = .contains ∧
    ∀ term ∈ specification.text.terms (Text.trim specification.searchText), IsSteady term.toList

variable {specification : Specification} {tree : FileTree} {path : Path}

theorem IgnoresCaseSafely.acceptsContents (safe : specification.IgnoresCaseSafely)
    {contents : String}
    (accepted : (specification.withMatchCase true).acceptsContents contents = true) :
    (specification.withMatchCase false).acceptsContents contents = true := by
  unfold Specification.acceptsContents at accepted ⊢
  cases safe with
  | inl word =>
      simp only [withMatchCase, word] at accepted ⊢
      exact Content.hasAllWords_ignoreCase accepted
  | inr part =>
      obtain ⟨contains, steady⟩ := part
      simp only [withMatchCase, contains] at accepted ⊢
      exact Content.containsAll_ignoreCase steady accepted

/-- What one specification accepts another accepts too, and both judge binary files alike. -/
structure Narrows (narrow wide : Specification) : Prop where
  binary : narrow.text.treatBinaryAsText = wide.text.treatBinaryAsText
  contents : ∀ contents, narrow.acceptsContents contents = true →
    wide.acceptsContents contents = true

variable {narrow wide : Specification}

theorem Narrows.acceptsFile (narrows : Narrows narrow wide)
    (accepted : narrow.acceptsFile tree path = true) : wide.acceptsFile tree path = true := by
  unfold Specification.acceptsFile at accepted ⊢
  obtain ⟨textual, found⟩ := Bool.and_eq_true_iff.mp accepted
  rw [narrows.binary] at textual
  refine Bool.and_eq_true_iff.mpr ⟨textual, ?_⟩
  cases read : tree.readLossy path with
  | error cause =>
      rw [read] at found
      cases found
  | ok contents =>
      rw [read] at found
      exact narrows.contents contents found

theorem Narrows.filterPaths (narrows : Narrows narrow wide) (tree : FileTree)
    (paths : List Path) :
    (narrow.filterPaths tree paths).Sublist (wide.filterPaths tree paths) := by
  apply List.monotone_filter_right paths
  intro path kept
  cases Bool.or_eq_true_iff.mp kept with
  | inl noFile => exact Bool.or_eq_true_iff.mpr (.inl noFile)
  | inr accepted => exact Bool.or_eq_true_iff.mpr (.inr (narrows.acceptsFile accepted))

theorem IgnoresCaseSafely.filterPaths (safe : specification.IgnoresCaseSafely) (tree : FileTree)
    (paths : List Path) : ((specification.withMatchCase true).filterPaths tree paths).Sublist
      ((specification.withMatchCase false).filterPaths tree paths) := by
  apply Narrows.filterPaths
  constructor
  · rfl
  · intro contents accepted
    exact safe.acceptsContents accepted

end Specification

namespace Content

/-- Without letter case no word is lost, and no part of the contents that is a steady term. A term
that is not steady is lost in some contents. So a specification that looks for words or for steady
terms keeps every file that it keeps with letter case. -/
theorem ignoreCase_keeps (terms : List String) :
    (∀ contents, hasAllWords contents terms false = true →
      hasAllWords contents terms true = true) ∧
    ((∀ term ∈ terms, IsSteady term.toList) → ∀ contents,
      containsAll contents terms false = true → containsAll contents terms true = true) ∧
    (∀ term ∈ terms, ¬ IsSteady term.toList → ∃ contents,
      containsAll contents [term] false = true ∧ containsAll contents [term] true = false) ∧
    ∀ specification : Specification,
      specification.text.terms (Text.trim specification.searchText) = terms →
      (specification.text.mode = .wholeWord ∨
        specification.text.mode = .contains ∧ ∀ term ∈ terms, IsSteady term.toList) →
      ∀ tree paths, ((specification.withMatchCase true).filterPaths tree paths).Sublist
        ((specification.withMatchCase false).filterPaths tree paths) := by
  refine ⟨fun contents => hasAllWords_ignoreCase,
    fun steady contents => containsAll_ignoreCase steady,
    fun term _ => exists_contents_of_not_steady, ?_⟩
  intro specification same safe
  rw [← same] at safe
  exact Specification.IgnoresCaseSafely.filterPaths safe

theorem ignoreCase_keeps_istanbul :
    (∀ term ∈ ["İSTAN", "aς"], IsSteady term.toList) ∧
      containsAll "İSTANBUL aς" ["İSTAN", "aς"] false = true ∧
      containsAll "İSTANBUL aς" ["İSTAN", "aς"] true = true := by
  have noSigma : ∀ term ∈ ["İSTAN", "aς"], 'Σ' ∉ term.toList := by decide
  have steady : ∀ term ∈ ["İSTAN", "aς"], IsSteady term.toList := fun term listed =>
    Unicode.isSteady_of_notMem (noSigma term listed)
  have found : containsAll "İSTANBUL aς" ["İSTAN", "aς"] false = true := by decide +kernel
  exact ⟨steady, found, (ignoreCase_keeps _).2.1 steady _ found⟩

/-- A capital sigma alone is lost where it ends a word. -/
theorem containsAll_lost_sigma :
    containsAll "aΣ" ["Σ"] false = true ∧ containsAll "aΣ" ["Σ"] true = false := by
  decide +kernel

end Content

end FileSearch
