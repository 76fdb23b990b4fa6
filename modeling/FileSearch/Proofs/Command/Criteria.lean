import FileSearch.Command.Basic
import FileSearch.Proofs.Command.Grammar
import FileSearch.Proofs.Command.Sizes
import FileSearch.Proofs.Text.Split

/-!
# The criteria ask what is wanted

Each group of options makes criteria that hold for just the files it wants. Each test in them is a
primary that the grammar knows and no action.
-/

set_option autoImplicit false

namespace FileSearch

open Command (Primary Criterion)
open Text (HasWord ListsPattern trim)

variable {P : Criterion → Prop} {holds : Primary → Bool}

/-! ## Criteria -/

/-- A primary that the grammar knows, and that is no action. -/
structure Command.Primary.Quiet (primary : Primary) : Prop where
  complete : primary.Complete
  noAction : primary.word ∉ Command.Operands.actionWords

namespace Command.Primary

theorem quiet_bare {word : String} (listed : word ∈ Operands.bareWords)
    (noAction : word ∉ Operands.actionWords) : (bare word).Quiet :=
  ⟨complete_bare listed, noAction⟩

theorem quiet_unary {word : String} (listed : word ∈ Operands.unaryWords)
    (noAction : word ∉ Operands.actionWords) (operand : String) : (unary word operand).Quiet :=
  ⟨complete_unary listed operand, noAction⟩

end Command.Primary

namespace Command.Criterion

/-- What a criterion asks of a file, of which some primaries hold. -/
def Holds (holds : Primary → Bool) : Criterion → Prop
  | must test => holds test = true
  | mustNot test => holds test = false
  | anyOf tests => ∃ test ∈ tests, holds test = true

@[simp] theorem holds_must {test : Primary} : (must test).Holds holds ↔ holds test = true :=
  Iff.rfl

@[simp] theorem holds_mustNot {test : Primary} : (mustNot test).Holds holds ↔ holds test = false :=
  Iff.rfl

@[simp] theorem holds_anyOf_map {α : Type} {items : List α} {test : α → Primary} :
    (anyOf (items.map test)).Holds holds ↔ ∃ item ∈ items, holds (test item) = true := by
  simp [Holds]

def tests : Criterion → List Primary
  | must test => [test]
  | mustNot test => [test]
  | anyOf tests => tests

/-- A criterion that has tests, and only tests. -/
structure Sound (criterion : Criterion) : Prop where
  exists_test : criterion.tests ≠ []
  quiet : ∀ test ∈ criterion.tests, test.Quiet

theorem sound_must {test : Primary} (quiet : test.Quiet) : (must test).Sound :=
  ⟨List.cons_ne_nil _ _, by simpa [tests] using quiet⟩

theorem sound_mustNot {test : Primary} (quiet : test.Quiet) : (mustNot test).Sound :=
  ⟨List.cons_ne_nil _ _, by simpa [tests] using quiet⟩

theorem sound_anyOf {α : Type} {items : List α} {test : α → Primary}
    (quiet : ∀ item, (test item).Quiet) (exists_test : items.map test ≠ []) :
    (anyOf (items.map test)).Sound := by
  refine ⟨exists_test, ?_⟩
  intro primary listed
  obtain ⟨item, -, rfl⟩ := List.mem_map.mp listed
  exact quiet item

theorem forall_mem_flag {enabled : Bool} {word : String} :
    (∀ criterion ∈ flag enabled word, P criterion) ↔ (enabled = true → P (.must (.bare word))) := by
  cases enabled <;> simp [flag]

theorem forall_mem_alternatives {tests : List Primary} :
    (∀ criterion ∈ alternatives tests, P criterion) ↔ (tests ≠ [] → P (.anyOf tests)) := by
  cases tests <;> simp [alternatives]

/-- Alternatives ask for one of them, if there are any. -/
theorem alternatives_hold_iff {α : Type} {items : List α} {test : α → Primary} :
    (∀ criterion ∈ alternatives (items.map test), criterion.Holds holds) ↔
      ((∃ item, item ∈ items) → ∃ item ∈ items, holds (test item) = true) := by
  rw [forall_mem_alternatives, holds_anyOf_map, ne_eq, List.map_eq_nil_iff,
    List.eq_nil_iff_forall_not_mem, not_forall_not]

theorem forall_mem_if {enabled : Bool} {criteria : List Criterion} :
    (∀ criterion ∈ if enabled then criteria else [], P criterion) ↔
      (enabled = true → ∀ criterion ∈ criteria, P criterion) := by
  cases enabled <;> simp

theorem forall_mem_unless {disabled : Bool} {criteria : List Criterion} :
    (∀ criterion ∈ if disabled then [] else criteria, P criterion) ↔
      (disabled = false → ∀ criterion ∈ criteria, P criterion) := by
  cases disabled <;> simp

end Command.Criterion

open Command.Criterion
open Command.Primary (quiet_bare quiet_unary)

/-! ## Names and paths -/

theorem Switched.forall_mem_test {switched : Switched} {word : String} :
    (∀ criterion ∈ switched.test word, P criterion) ↔
      (switched.enabled = true → switched.text ≠ "" → P (.must (.unary word switched.text))) := by
  obtain ⟨enabled, text⟩ := switched
  by_cases empty : text = "" <;> cases enabled <;> simp [test, active?, empty]

theorem Switched.sound_test {word : String} (listed : word ∈ Command.Operands.unaryWords)
    (noAction : word ∉ Command.Operands.actionWords) (switched : Switched) :
    ∀ criterion ∈ switched.test word, criterion.Sound :=
  forall_mem_test.mpr fun _ _ => sound_must (quiet_unary listed noAction switched.text)

namespace NameOptions

variable {options : NameOptions}

theorem criteria_hold_iff :
    (∀ criterion ∈ options.criteria, criterion.Holds holds) ↔ options.Wants holds := by
  simp only [criteria, List.forall_mem_append, Switched.forall_mem_test, holds_must, wants_iff,
    Switched.Passes, and_assoc]

theorem sound_criteria : ∀ criterion ∈ options.criteria, criterion.Sound := by
  simp only [criteria, List.forall_mem_append, and_assoc]
  refine ⟨?_, ?_, ?_, ?_, ?_, ?_, ?_, ?_⟩ <;>
    exact Switched.sound_test (by decide) (by decide) _

end NameOptions

/-! ## Search texts -/

namespace TextOptions

variable {options : TextOptions} {searchText term : String} {test : Primary}

theorem looksFor_iff :
    options.LooksFor searchText term ↔
      trim searchText ≠ "" ∧ term ∈ options.terms (trim searchText) := by
  rw [terms, Text.terms_trim]
  constructor
  · intro looksFor
    cases looksFor with
    | whole single solid =>
        rw [single]
        exact ⟨Text.trim_ne_empty_iff.mpr solid, List.mem_singleton_self _⟩
    | word several hasWord =>
        rw [several]
        have listed : term ∈ Text.terms searchText := Text.mem_terms_iff.mpr hasWord
        refine ⟨fun blank => ?_, listed⟩
        rw [← Text.terms_trim, blank] at listed
        exact List.not_mem_nil listed
  · intro found
    obtain ⟨solid, listed⟩ := found
    cases several : options.allowMultipleTerms with
    | true =>
        rw [several] at listed
        exact .word several (Text.mem_terms_iff.mp listed)
    | false =>
        rw [several] at listed
        obtain rfl := List.mem_singleton.mp listed
        exact .whole several (Text.trim_ne_empty_iff.mp solid)

theorem testsFor_iff : options.TestsFor term test ↔ test = options.nameTest term := by
  unfold nameTest
  constructor
  · intro testsFor
    cases testsFor <;> simp [*]
  · rintro rfl
    cases mode : options.mode <;> cases matchCase : options.matchCase
    · exact .containsAnyCase mode matchCase
    · exact .contains mode matchCase
    · exact .wholeWordAnyCase mode matchCase
    · exact .wholeWord mode matchCase
    · exact .expressionAnyCase mode matchCase
    · exact .expression mode matchCase

theorem quiet_nameTest (term : String) : (options.nameTest term).Quiet := by
  unfold nameTest
  cases options.mode <;> cases options.matchCase <;> exact quiet_unary (by decide) (by decide) _

theorem forall_mem_criteria :
    (∀ criterion ∈ options.criteria searchText, P criterion) ↔
      (options.searchInFileNames = true → trim searchText ≠ "" →
        ∀ term ∈ options.terms (trim searchText), P (.must (options.nameTest term))) := by
  by_cases empty : trim searchText = "" <;> cases looked : options.searchInFileNames <;>
    simp [criteria, looked, empty]

theorem criteria_hold_iff :
    (∀ criterion ∈ options.criteria searchText, criterion.Holds holds) ↔
      options.Wants searchText holds := by
  simp only [forall_mem_criteria, holds_must, Wants, looksFor_iff, testsFor_iff, exists_eq_left,
    and_imp]
  exact forall_congr' fun _ => forall_comm

end TextOptions

/-! ## Times -/

/-- Windows end at the ages in days that presets stand for. -/
theorem Period.window_iff {period : Period} {age : String} :
    period.Window age ↔ ∃ days, period.days? = some days ∧ age = "-" ++ toString days := by
  constructor
  · intro window
    cases window <;> exact ⟨_, rfl, by decide⟩
  · rintro ⟨days, fixed, rfl⟩
    cases period <;> cases fixed <;> constructor

namespace TimeOptions

variable {options : TimeOptions}

theorem mem_presetTimes_iff {time : String} : time ∈ options.presetTimes ↔ options.Speaks time := by
  constructor
  · intro listed
    simp only [presetTimes, List.mem_append, List.mem_ite_nil_right, List.mem_singleton] at listed
    rcases listed with (⟨included, rfl⟩ | ⟨included, rfl⟩) | ⟨included, rfl⟩
    · exact .modified included
    · exact .created included
    · exact .accessed included
  · intro speaks
    cases speaks with
    | modified included => simp [presetTimes, included]
    | created included => simp [presetTimes, included]
    | accessed included => simp [presetTimes, included]

theorem Speaks.quiet {time : String} (speaks : options.Speaks time) (operand : String) :
    (Primary.unary ("-" ++ time ++ "time") operand).Quiet ∧
      (Primary.unary ("-newer" ++ time ++ "t") operand).Quiet := by
  cases speaks <;>
    exact ⟨quiet_unary (by decide) (by decide) operand, quiet_unary (by decide) (by decide) operand⟩

theorem forall_mem_rangeCriteria {time : String} :
    (∀ criterion ∈ options.rangeCriteria time, P criterion) ↔
      (trim options.customFrom ≠ "" →
        P (.must (.unary ("-newer" ++ time ++ "t") (trim options.customFrom)))) ∧
      (trim options.customTo ≠ "" →
        P (.mustNot (.unary ("-newer" ++ time ++ "t") (trim options.customTo)))) := by
  by_cases unbounded : trim options.customFrom = "" <;>
    by_cases endless : trim options.customTo = "" <;>
      simp [rangeCriteria, unbounded, endless]

theorem forall_mem_presetCriteria :
    (∀ criterion ∈ options.presetCriteria, P criterion) ↔
      (∀ age, options.preset.Window age → ∀ time, options.Speaks time →
        P (.must (.unary ("-" ++ time ++ "time") age))) ∧
      (options.preset = .customRange → ∀ time, options.Speaks time →
        ∀ criterion ∈ options.rangeCriteria time, P criterion) := by
  unfold presetCriteria
  cases window : options.preset.days? with
  | some days =>
      have fixed : options.preset ≠ .customRange := by
        intro custom
        rw [custom] at window
        cases window
      simp [fixed, mem_presetTimes_iff, Period.window_iff, window]
  | none =>
      by_cases custom : options.preset = .customRange
      · simp only [custom, if_true, List.mem_flatMap, mem_presetTimes_iff, Period.window_iff]
        grind
      · simp [custom, Period.window_iff, window]

theorem criteria_hold_iff :
    (∀ criterion ∈ options.criteria, criterion.Holds holds) ↔ options.Wants holds := by
  simp only [criteria, List.forall_mem_append, Switched.forall_mem_test, forall_mem_presetCriteria,
    forall_mem_rangeCriteria, holds_must, holds_mustNot, wants_iff, Switched.Passes, and_assoc]
  grind

theorem sound_criteria : ∀ criterion ∈ options.criteria, criterion.Sound := by
  simp only [criteria, List.forall_mem_append, forall_mem_presetCriteria, forall_mem_rangeCriteria,
    and_assoc]
  refine ⟨?window, ?range, ?_, ?_, ?_, ?_, ?_, ?_, ?_, ?_, ?_, ?_, ?_, ?_, ?_⟩
  case window => exact fun _ _ _ speaks => sound_must (speaks.quiet _).1
  case range =>
    intro _ time speaks
    exact ⟨fun _ => sound_must (speaks.quiet _).2, fun _ => sound_mustNot (speaks.quiet _).2⟩
  all_goals exact Switched.sound_test (by decide) (by decide) _

end TimeOptions

/-! ## Sizes -/

namespace SizeOptions

variable {options : SizeOptions} {bound : Switched} {sign : String} {Q : String → Prop}

theorem exactSize?_eq_none_iff : options.exactSize? = none ↔ ¬ options.exact.Applies := by
  constructor
  · intro absent applies
    rw [exactSize?_of_applies applies] at absent
    cases absent
  · exact exactSize?_of_not_applies

theorem bound?_eq_none_iff : bound? bound sign = none ↔ ¬ bound.Applies := by
  constructor
  · intro absent applies
    obtain ⟨size, found, -⟩ := exists_bound? applies sign
    rw [found] at absent
    cases absent
  · exact fun absent => bound?_of_not_applies absent sign

theorem forall_exactSize?_iff :
    (∀ size, options.exactSize? = some size → Q size) ↔
      (options.exact.Applies → Q (trim options.exact.text)) := by
  by_cases applies : options.exact.Applies
  · simp [exactSize?_of_applies applies, applies]
  · simp [exactSize?_of_not_applies applies, applies]

theorem forall_bound?_iff :
    (∀ size, bound? bound sign = some size → Q size) ↔
      (bound.Applies → ∃ size, Operand sign bound.text size ∧ Q size) := by
  by_cases applies : bound.Applies
  · obtain ⟨size, found, operand⟩ := exists_bound? applies sign
    rw [found]
    constructor
    · exact fun passes _ => ⟨size, operand, passes size rfl⟩
    · intro passes other same
      obtain rfl := Option.some.inj same
      obtain ⟨again, also, passesAgain⟩ := passes applies
      rwa [operand.unique also] at passesAgain
  · simp [bound?_of_not_applies applies, applies]

theorem forall_mem_criteria :
    (∀ criterion ∈ options.criteria, P criterion) ↔
      (∀ size, options.exactSize? = some size → P (.must (.unary "-size" size))) ∧
      (options.exactSize? = none →
        ∀ size, bound? options.min "+" = some size → P (.must (.unary "-size" size))) ∧
      (options.exactSize? = none →
        ∀ size, bound? options.max "-" = some size → P (.must (.unary "-size" size))) ∧
      (options.exactSize? = none → bound? options.min "+" = none →
        bound? options.max "-" = none → options.emptyEnabled = true → P (.must (.bare "-empty"))) ∧
      (options.includeZeroByte = false → P (.mustNot (.unary "-size" "0"))) := by
  simp only [criteria, List.forall_mem_append, forall_mem_unless, List.forall_mem_singleton]
  cases options.exactSize? with
  | some exact => simp
  | none =>
      cases bound? options.min "+" <;> cases bound? options.max "-" <;>
        simp [forall_mem_flag, and_assoc]

theorem criteria_hold_iff :
    (∀ criterion ∈ options.criteria, criterion.Holds holds) ↔ options.Wants holds := by
  simp only [forall_mem_criteria, holds_must, holds_mustNot, forall_exactSize?_iff,
    forall_bound?_iff, exactSize?_eq_none_iff, bound?_eq_none_iff, wants_iff]

theorem sound_criteria : ∀ criterion ∈ options.criteria, criterion.Sound := by
  have size (operand : String) : (Primary.unary "-size" operand).Quiet :=
    quiet_unary (by decide) (by decide) operand
  exact forall_mem_criteria.mpr ⟨fun _ _ => sound_must (size _), fun _ _ _ => sound_must (size _),
    fun _ _ _ => sound_must (size _),
    fun _ _ _ _ => sound_must (quiet_bare (by decide) (by decide)),
    fun _ => sound_mustNot (size _)⟩

end SizeOptions

/-! ## Kinds of files -/

namespace TypeOptions

variable {options : TypeOptions}

theorem mem_letters_iff {text : String} {kind : Char} :
    kind ∈ letters text ↔ ListsKind text kind := by
  rw [letters, List.mem_filter, Bool.and_eq_true, Bool.not_eq_true', bne_iff_ne, listsKind_iff]

theorem criteria_hold_iff :
    (∀ criterion ∈ options.criteria, criterion.Holds holds) ↔ options.Wants holds := by
  simp only [criteria, letterCriteria, List.forall_mem_append, forall_mem_if,
    alternatives_hold_iff, mem_letters_iff, Text.mem_patterns_iff, wants_iff, IsListed, and_assoc]

theorem sound_criteria : ∀ criterion ∈ options.criteria, criterion.Sound := by
  simp only [criteria, letterCriteria, List.forall_mem_append, forall_mem_if,
    forall_mem_alternatives]
  refine ⟨⟨fun _ => sound_anyOf ?types, fun _ => sound_anyOf ?xtypes⟩,
    fun _ => sound_anyOf ?extensions⟩
  case types => exact fun _ => quiet_unary (by decide) (by decide) _
  case xtypes => exact fun _ => quiet_unary (by decide) (by decide) _
  case extensions =>
    intro _
    cases options.extensionCaseInsensitive <;> exact quiet_unary (by decide) (by decide) _

end TypeOptions

/-! ## Permissions and owners -/

namespace OwnershipOptions

variable {options : OwnershipOptions}

theorem marked_iff {bits : String} :
    options.Marked bits ↔ bits = options.permissionMatch.mark ++ options.permissions.text := by
  constructor
  · intro marked
    cases marked <;> simp [*, BitComparison.mark]
  · rintro rfl
    cases mark : options.permissionMatch with
    | exact =>
        rw [BitComparison.mark, String.empty_append]
        exact .exact mark
    | allBits => exact .allBits mark
    | anyBit => exact .anyBit mark

theorem forall_mem_permissions :
    (∀ criterion ∈ options.permissions.active?.toList.map fun bits =>
        Criterion.must (.unary "-perm" (options.permissionMatch.mark ++ bits)), P criterion) ↔
      (options.permissions.enabled = true → options.permissions.text ≠ "" →
        P (.must (.unary "-perm" (options.permissionMatch.mark ++ options.permissions.text)))) := by
  by_cases empty : options.permissions.text = "" <;> cases on : options.permissions.enabled <;>
    simp [Switched.active?, empty, on]

theorem criteria_hold_iff :
    (∀ criterion ∈ options.criteria, criterion.Holds holds) ↔ options.Wants holds := by
  simp only [criteria, List.forall_mem_append, Switched.forall_mem_test, forall_mem_flag,
    forall_mem_permissions, holds_must, wants_iff, Switched.Passes, marked_iff, exists_eq_left,
    and_assoc]

theorem sound_criteria : ∀ criterion ∈ options.criteria, criterion.Sound := by
  simp only [criteria, List.forall_mem_append, forall_mem_flag, forall_mem_permissions, and_assoc]
  refine ⟨?_, ?_, ?_, ?permissions, ?user, ?uid, ?group, ?gid, ?_, ?_⟩
  case permissions => exact fun _ _ => sound_must (quiet_unary (by decide) (by decide) _)
  case user | uid | group | gid => exact Switched.sound_test (by decide) (by decide) _
  all_goals exact fun _ => sound_must (quiet_bare (by decide) (by decide))

end OwnershipOptions

theorem PathTest.word_iff {test : PathTest} {word : String} :
    test.Word word ↔ word = test.flag := by
  constructor
  · intro isWord
    cases isWord <;> rfl
  · rintro rfl
    cases test <;> constructor

theorem PathTest.quiet_flag (test : PathTest) (pattern : String) :
    (Primary.unary test.flag pattern).Quiet := by
  cases test <;> exact quiet_unary (by decide) (by decide) pattern

/-! ## Specifications -/

namespace Specification

variable {specification : Specification}

theorem forall_mem_criteria :
    (∀ criterion ∈ specification.criteria, P criterion) ↔
      (specification.includeHidden = false → ∀ criterion ∈ visible, P criterion) ∧
      (∀ criterion ∈ named specification.includePatterns specification.excludePatterns,
        P criterion) ∧
      (specification.enableNames = true → ∀ criterion ∈ specification.names.criteria,
        P criterion) ∧
      (specification.enableText = true →
        ∀ criterion ∈ specification.text.criteria specification.searchText, P criterion) ∧
      (specification.enableTimes = true → ∀ criterion ∈ specification.times.criteria,
        P criterion) ∧
      (specification.enableSizes = true → ∀ criterion ∈ specification.sizes.criteria,
        P criterion) ∧
      (specification.enableTypes = true → ∀ criterion ∈ specification.types.criteria,
        P criterion) ∧
      (specification.enableOwnership = true → ∀ criterion ∈ specification.ownership.criteria,
        P criterion) := by
  simp only [criteria, List.forall_mem_append, forall_mem_if, forall_mem_unless, and_assoc]

/-- The criteria of a specification hold for just the files that it wants. -/
theorem criteria_hold_iff :
    (∀ criterion ∈ specification.criteria, criterion.Holds holds) ↔ specification.Wants holds := by
  simp only [forall_mem_criteria, NameOptions.criteria_hold_iff, TextOptions.criteria_hold_iff,
    TimeOptions.criteria_hold_iff, SizeOptions.criteria_hold_iff, TypeOptions.criteria_hold_iff,
    OwnershipOptions.criteria_hold_iff, wants_iff, named, visible, List.forall_mem_append,
    alternatives_hold_iff, Text.mem_patterns_iff, List.forall_mem_map, List.forall_mem_cons,
    holds_mustNot, List.not_mem_nil, false_implies, implies_true, and_true, and_assoc]

theorem sound_criteria : ∀ criterion ∈ specification.criteria, criterion.Sound := by
  have name (pattern : String) : (Primary.unary "-name" pattern).Quiet :=
    quiet_unary (by decide) (by decide) pattern
  have path (pattern : String) : (Primary.unary "-path" pattern).Quiet :=
    quiet_unary (by decide) (by decide) pattern
  refine forall_mem_criteria.mpr ⟨?visible, ?named, fun _ => NameOptions.sound_criteria, ?text,
    fun _ => TimeOptions.sound_criteria, fun _ => SizeOptions.sound_criteria,
    fun _ => TypeOptions.sound_criteria, fun _ => OwnershipOptions.sound_criteria⟩
  case visible =>
    intro _ criterion listed
    simp only [visible, List.mem_cons, List.not_mem_nil, or_false] at listed
    rcases listed with rfl | rfl
    · exact sound_mustNot (name _)
    · exact sound_mustNot (path _)
  case named =>
    rw [named, List.forall_mem_append, forall_mem_alternatives, List.forall_mem_map]
    exact ⟨sound_anyOf name, fun pattern _ => sound_mustNot (name pattern)⟩
  case text =>
    exact fun _ => TextOptions.forall_mem_criteria.mpr fun _ _ term _ =>
      sound_must (TextOptions.quiet_nameTest term)

theorem quiet_of_prune? {test : Primary} (found : specification.prune? = some test) :
    test.Quiet := by
  unfold prune? at found
  split at found
  · obtain ⟨pattern, -, rfl⟩ := Option.map_eq_some_iff.mp found
    exact PathTest.quiet_flag _ pattern
  · cases found

end Specification

end FileSearch
