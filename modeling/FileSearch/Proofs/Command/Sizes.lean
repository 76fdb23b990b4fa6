import FileSearch.Command.Criteria
import FileSearch.Proofs.Command.Wants

/-!
# Precedence of size options

Of the size options of a specification one level decides: the exact size, both bounds, one of them,
or the test for emptiness. The command asks for that level alone, so nothing that stands on another
level has a part in its words.
-/

set_option autoImplicit false

namespace FileSearch

open Text (trim)

namespace SizeOptions

/-- What decides about sizes, by precedence. -/
inductive Level where
  | exact
  | between
  | atLeast
  | atMost
  | empty
  | anySize
  deriving DecidableEq, Repr

/-- The first level that applies. -/
inductive Active (options : SizeOptions) : Level → Prop where
  | exact : options.exact.Applies → Active options .exact
  | between : ¬ options.exact.Applies → options.min.Applies → options.max.Applies →
      Active options .between
  | atLeast : ¬ options.exact.Applies → options.min.Applies → ¬ options.max.Applies →
      Active options .atLeast
  | atMost : ¬ options.exact.Applies → ¬ options.min.Applies → options.max.Applies →
      Active options .atMost
  | empty : ¬ options.exact.Applies → ¬ options.min.Applies → ¬ options.max.Applies →
      options.emptyEnabled = true → Active options .empty
  | anySize : ¬ options.exact.Applies → ¬ options.min.Applies → ¬ options.max.Applies →
      options.emptyEnabled = false → Active options .anySize

/-- The words in which a level asks for sizes. -/
inductive Level.Asks (options : SizeOptions) : Level → List String → Prop where
  | exact : Asks options .exact ["-size", trim options.exact.text]
  | between {least most : String} :
      Operand "+" options.min.text least → Operand "-" options.max.text most →
      Asks options .between ["-size", least, "-size", most]
  | atLeast {least : String} :
      Operand "+" options.min.text least → Asks options .atLeast ["-size", least]
  | atMost {most : String} :
      Operand "-" options.max.text most → Asks options .atMost ["-size", most]
  | empty : Asks options .empty ["-empty"]
  | anySize : Asks options .anySize []

/-- The texts of a level's bounds are the same in two records of options. -/
inductive Level.SameTexts (options others : SizeOptions) : Level → Prop where
  | exact : options.exact.text = others.exact.text → SameTexts options others .exact
  | between : options.min.text = others.min.text → options.max.text = others.max.text →
      SameTexts options others .between
  | atLeast : options.min.text = others.min.text → SameTexts options others .atLeast
  | atMost : options.max.text = others.max.text → SameTexts options others .atMost
  | empty : SameTexts options others .empty
  | anySize : SameTexts options others .anySize

/-- The words of the criteria about sizes. -/
def words (options : SizeOptions) : List String :=
  options.criteria.flatMap Command.Criterion.words

def zeroByteWords (options : SizeOptions) : List String :=
  if options.includeZeroByte then [] else ["!", "-size", "0"]

variable {options others : SizeOptions} {level other : Level} {bound : Switched}
  {sign text size : String} {clause : List String}

/-! ## Levels -/

theorem exists_active (options : SizeOptions) : ∃ level, options.Active level := by
  by_cases exact : options.exact.Applies
  · exact ⟨_, .exact exact⟩
  · by_cases least : options.min.Applies <;> by_cases most : options.max.Applies
    · exact ⟨_, .between exact least most⟩
    · exact ⟨_, .atLeast exact least most⟩
    · exact ⟨_, .atMost exact least most⟩
    · cases empty : options.emptyEnabled with
      | true => exact ⟨_, .empty exact least most empty⟩
      | false => exact ⟨_, .anySize exact least most empty⟩

theorem Active.unique (active : options.Active level) (also : options.Active other) :
    other = level := by
  cases active <;> cases also <;> simp_all

/-! ## Operands -/

theorem applies_iff : bound.Applies ↔ bound.enabled = true ∧ trim bound.text ≠ "" := by
  rw [Switched.Applies, Text.trim_ne_empty_iff]

theorem isSigned_iff : isSigned size = true ↔ HasSign size := by
  have first (sign : Char) : size.toList.head? = some sign ↔
      ∃ rest, size = String.singleton sign ++ rest := by
    rw [List.head?_eq_some_iff]
    constructor
    · intro begins
      obtain ⟨rest, split⟩ := begins
      refine ⟨String.ofList rest, ?_⟩
      rw [← String.toList_inj, split]
      simp
    · intro begins
      obtain ⟨rest, rfl⟩ := begins
      exact ⟨rest.toList, by simp⟩
  rw [isSigned, Bool.or_eq_true, beq_iff_eq, beq_iff_eq, first, first, ← exists_or]
  rfl

theorem exactSize?_of_applies (applies : options.exact.Applies) :
    options.exactSize? = some (trim options.exact.text) := by
  obtain ⟨enabled, solid⟩ := applies_iff.mp applies
  simp [exactSize?, enabled, solid]

theorem exactSize?_of_not_applies (absent : ¬ options.exact.Applies) :
    options.exactSize? = none := by
  rw [applies_iff, not_and, not_not] at absent
  simpa [exactSize?] using absent

theorem exists_bound? (applies : bound.Applies) (sign : String) :
    ∃ size, bound? bound sign = some size ∧ Operand sign bound.text size := by
  obtain ⟨enabled, solid⟩ := applies_iff.mp applies
  cases signed : isSigned (trim bound.text) with
  | true => exact ⟨_, by simp [bound?, enabled, solid, signed], .kept (isSigned_iff.mp signed)⟩
  | false =>
      have unsigned : ¬ HasSign (trim bound.text) := fun has => by
        rw [isSigned_iff.mpr has] at signed
        cases signed
      exact ⟨_, by simp [bound?, enabled, solid, signed], .signed unsigned⟩

theorem bound?_of_not_applies (absent : ¬ bound.Applies) (sign : String) :
    bound? bound sign = none := by
  rw [applies_iff, not_and, not_not] at absent
  simpa [bound?] using absent

theorem Operand.unique (operand : Operand sign text size) {again : String}
    (also : Operand sign text again) : again = size := by
  cases operand with
  | kept has =>
      cases also with
      | kept => rfl
      | signed hasNone => exact absurd has hasNone
  | signed hasNone =>
      cases also with
      | kept has => exact absurd has hasNone
      | signed => rfl

/-! ## Words -/

/-- One level's words, and those about empty files. -/
theorem Active.exists_asks (active : options.Active level) : ∃ clause,
    level.Asks options clause ∧ options.words = clause ++ options.zeroByteWords := by
  have zeroBytes : (if options.includeZeroByte then []
      else [Command.Criterion.mustNot (.unary "-size" "0")]).flatMap Command.Criterion.words =
      options.zeroByteWords := by
    unfold zeroByteWords
    cases options.includeZeroByte <;> rfl
  rw [words, criteria, List.flatMap_append, zeroBytes]
  cases active with
  | exact applies =>
      rw [exactSize?_of_applies applies]
      exact ⟨_, .exact, rfl⟩
  | between absent least most =>
      obtain ⟨low, lowFound, lower⟩ := exists_bound? least "+"
      obtain ⟨high, highFound, upper⟩ := exists_bound? most "-"
      rw [exactSize?_of_not_applies absent, lowFound, highFound]
      exact ⟨_, .between lower upper, rfl⟩
  | atLeast absent least unbounded =>
      obtain ⟨low, lowFound, lower⟩ := exists_bound? least "+"
      rw [exactSize?_of_not_applies absent, lowFound, bound?_of_not_applies unbounded]
      exact ⟨_, .atLeast lower, rfl⟩
  | atMost absent unbounded most =>
      obtain ⟨high, highFound, upper⟩ := exists_bound? most "-"
      rw [exactSize?_of_not_applies absent, bound?_of_not_applies unbounded, highFound]
      exact ⟨_, .atMost upper, rfl⟩
  | empty absent noLeast noMost enabled =>
      rw [exactSize?_of_not_applies absent, bound?_of_not_applies noLeast,
        bound?_of_not_applies noMost, enabled]
      exact ⟨_, .empty, rfl⟩
  | anySize absent noLeast noMost disabled =>
      rw [exactSize?_of_not_applies absent, bound?_of_not_applies noLeast,
        bound?_of_not_applies noMost, disabled]
      exact ⟨_, .anySize, rfl⟩

theorem Level.Asks.eq_of_sameTexts (asks : level.Asks options clause)
    (same : level.SameTexts options others) {again : List String}
    (also : level.Asks others again) : again = clause := by
  cases same with
  | exact texts =>
      cases asks
      cases also
      rw [texts]
  | between least most =>
      cases asks with
      | between lower upper =>
          cases also with
          | between lowerToo upperToo =>
              rw [← least] at lowerToo
              rw [← most] at upperToo
              rw [lower.unique lowerToo, upper.unique upperToo]
  | atLeast least =>
      cases asks with
      | atLeast lower =>
          cases also with
          | atLeast lowerToo =>
              rw [← least] at lowerToo
              rw [lower.unique lowerToo]
  | atMost most =>
      cases asks with
      | atMost upper =>
          cases also with
          | atMost upperToo =>
              rw [← most] at upperToo
              rw [upper.unique upperToo]
  | empty =>
      cases asks
      cases also
      rfl
  | anySize =>
      cases asks
      cases also
      rfl

/-- Exactly one level is active. The command asks for sizes in its words alone, and leaves empty
files out where they are not included. So options with the same active level, the same texts for
its bounds and the same choice about empty files have the same words, whatever else they say. -/
theorem words_by_level (options : SizeOptions) : ∃ level clause,
    (∀ other, options.Active other ↔ other = level) ∧ level.Asks options clause ∧
    options.words = clause ++ (if options.includeZeroByte then [] else ["!", "-size", "0"]) ∧
    ∀ others : SizeOptions, others.Active level → level.SameTexts options others →
      others.includeZeroByte = options.includeZeroByte → others.words = options.words := by
  obtain ⟨level, active⟩ := options.exists_active
  obtain ⟨clause, asks, written⟩ := active.exists_asks
  refine ⟨level, clause, ?only, asks, written, ?alike⟩
  case only =>
    intro other
    constructor
    · exact active.unique
    · intro same
      exact same ▸ active
  case alike =>
    intro others alsoActive same zeroBytes
    obtain ⟨again, asksToo, writtenToo⟩ := alsoActive.exists_asks
    rw [writtenToo, written, asks.eq_of_sameTexts same asksToo, zeroByteWords, zeroByteWords,
      zeroBytes]

/-- An exact size that is switched on but blank leaves both bounds active, signs are added to those
that have none, and the test for emptiness has no part. -/
theorem words_by_level_between : ∃ options others : SizeOptions,
    options.exact = ⟨true, " \t"⟩ ∧ options.min = ⟨true, " 10k"⟩ ∧ options.max = ⟨true, "-2M "⟩ ∧
    options.emptyEnabled = true ∧ others.exact = ⟨false, "5k"⟩ ∧ others.emptyEnabled = false ∧
    others.words = options.words ∧
    options.words = ["-size", "+10k", "-size", "-2M", "!", "-size", "0"] := by
  let bounded (exact : Switched) (empty : Bool) : SizeOptions :=
    { exact, min := ⟨true, " 10k"⟩, max := ⟨true, "-2M "⟩, emptyEnabled := empty
      includeZeroByte := false }
  have least : (Switched.mk true " 10k").Applies := applies_iff.mpr (by decide)
  have most : (Switched.mk true "-2M ").Applies := applies_iff.mpr (by decide)
  have active {exact : Switched} {empty : Bool} (absent : ¬ exact.Applies) :
      (bounded exact empty).Active .between := .between absent least most
  have blank : ¬ (Switched.mk true " \t").Applies := fun applies =>
    absurd (applies_iff.mp applies) (by decide)
  have off : ¬ (Switched.mk false "5k").Applies := fun applies =>
    absurd (applies_iff.mp applies) (by decide)
  obtain ⟨level, clause, only, -, -, alike⟩ := words_by_level (bounded ⟨true, " \t"⟩ true)
  obtain rfl := (only .between).mp (active blank)
  exact ⟨_, bounded ⟨false, "5k"⟩ false, rfl, rfl, rfl, rfl, rfl, rfl,
    alike _ (active off) (.between rfl rfl) rfl, by decide⟩

end SizeOptions

end FileSearch
