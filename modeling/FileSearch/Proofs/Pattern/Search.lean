import FileSearch.Pattern.Search
import Mathlib.Data.Finset.Card
import Mathlib.Logic.Function.Iterate

/-!
# What the search for a pattern finds

A pattern describes the stretches between two places of a text by its parts. The search follows sets
of places through a pattern, and is exact: a place is in the resulting set if and only if a stretch
that the pattern describes ends there and begins in the given set. Repetitions need no more rounds
than the text has places, since each round but the last adds one.
-/

set_option autoImplicit false

namespace FileSearch.Pattern

/-- The second place is reached from the first by a number of steps of a relation. -/
inductive Rounds (relation : Nat → Nat → Prop) : Nat → Nat → Nat → Prop where
  | start {place : Nat} : Rounds relation 0 place place
  | round {count first middle last : Nat} :
      relation first middle → Rounds relation count middle last →
      Rounds relation (count + 1) first last

/-- The stretch of a text from the first place to the second is as a pattern asks. A repetition that
asks for more rounds than it allows is one of just as many as it asks for. -/
def Spans (text : List Char) : TextPattern → Nat → Nat → Prop
  | .empty, first, last => first = last
  | .step set, first, last =>
    last = first + 1 ∧ ∃ c, text[first]? = some c ∧ set.contains c = true
  | .check asked, first, last =>
    first = last ∧ ∃ place, (places text)[first]? = some place ∧ asked.holds place = true
  | .sequence front back, first, last => ∃ middle, Spans text front first middle ∧
    Spans text back middle last
  | .either left right, first, last => Spans text left first last ∨ Spans text right first last
  | .repeated pattern least most, first, last => ∃ count, least ≤ count ∧
    (∀ bound ∈ most, count ≤ max least bound) ∧ Rounds (Spans text pattern) count first last

variable {text : List Char} {relation also : Nat → Nat → Prop} {step behind : Places → Places}
  {size count first last place : Nat}

/-! ## Rounds -/

theorem rounds_add_iff {more : Nat} : Rounds relation (count + more) first last ↔
    ∃ middle, Rounds relation count first middle ∧ Rounds relation more middle last := by
  induction count generalizing first with
  | zero =>
      rw [Nat.zero_add]
      constructor
      · intro rounds
        exact ⟨first, .start, rounds⟩
      · intro parts
        obtain ⟨middle, front, back⟩ := parts
        cases front with
        | start => exact back
  | succ count ih =>
      rw [Nat.add_right_comm]
      constructor
      · intro rounds
        cases rounds with
        | round related others =>
            obtain ⟨middle, front, back⟩ := ih.mp others
            exact ⟨middle, .round related front, back⟩
      · intro parts
        obtain ⟨middle, front, back⟩ := parts
        cases front with
        | round related others => exact .round related (ih.mpr ⟨middle, others, back⟩)

theorem rounds_from_iff {least : Nat} (allowed : Nat → Prop) :
    (∃ middle, Rounds relation least first middle ∧
        ∃ more, allowed more ∧ Rounds relation more middle last) ↔
      ∃ count, least ≤ count ∧ allowed (count - least) ∧ Rounds relation count first last := by
  constructor
  · intro parts
    obtain ⟨middle, front, more, enough, back⟩ := parts
    refine ⟨least + more, Nat.le_add_right least more, ?_, rounds_add_iff.mpr ⟨middle, front, back⟩⟩
    rwa [Nat.add_sub_cancel_left]
  · intro whole
    obtain ⟨count, enough, few, rounds⟩ := whole
    obtain ⟨more, rfl⟩ := Nat.exists_eq_add_of_le enough
    rw [Nat.add_sub_cancel_left] at few
    obtain ⟨middle, front, back⟩ := rounds_add_iff.mp rounds
    exact ⟨middle, front, more, few, back⟩

/-- Rounds that may stand still are fewer rounds that do not. -/
theorem rounds_reflexive_iff :
    Rounds (fun first last => first = last ∨ relation first last) count first last ↔
      ∃ fewer ≤ count, Rounds relation fewer first last := by
  constructor
  · intro rounds
    induction rounds with
    | start => exact ⟨0, Nat.le_refl 0, .start⟩
    | round related _ ih =>
        obtain ⟨fewer, bounded, others⟩ := ih
        cases related with
        | inl still =>
            subst still
            exact ⟨fewer, Nat.le_succ_of_le bounded, others⟩
        | inr moved => exact ⟨fewer + 1, Nat.succ_le_succ bounded, .round moved others⟩
  · intro moving
    obtain ⟨fewer, bounded, rounds⟩ := moving
    obtain ⟨rest, rfl⟩ := Nat.exists_eq_add_of_le bounded
    refine rounds_add_iff.mpr ⟨last, ?_, ?_⟩
    · induction rounds with
      | start => exact .start
      | round related _ ih => exact .round (.inr related) (ih (Nat.le_add_right _ _))
    · clear rounds
      induction rest with
      | zero => exact .start
      | succ rest ih => exact .round (.inl rfl) (ih (Nat.le_add_right _ _))

theorem Rounds.lt_of_lt (bounded : ∀ first last, relation first last → first < size → last < size)
    (rounds : Rounds relation count first last) (begins : first < size) : last < size := by
  induction rounds with
  | start => exact begins
  | round related _ ih => exact ih (bounded _ _ related begins)

/-! ## Sets of places -/

namespace Places

variable {left right places : Places}

theorem ext_contains (same : ∀ place, left.contains place = right.contains place) :
    left = right := by
  cases left
  cases right
  exact congrArg Places.mk (Nat.eq_of_testBit_eq same)

theorem contains_none (place : Nat) : none.contains place = false :=
  Nat.zero_testBit place

theorem contains_union (place : Nat) :
    (left.union right).contains place = (left.contains place || right.contains place) :=
  Nat.testBit_or _ _ _

theorem contains_inter (place : Nat) :
    (left.inter right).contains place = (left.contains place && right.contains place) :=
  Nat.testBit_and _ _ _

theorem contains_next_iff : places.next.contains last = true ↔
    ∃ first, places.contains first = true ∧ last = first + 1 := by
  rw [contains, next, Nat.testBit_shiftLeft, Bool.and_eq_true, decide_eq_true_iff]
  constructor
  · intro shifted
    obtain ⟨positive, found⟩ := shifted
    exact ⟨last - 1, found, (Nat.sub_add_cancel positive).symm⟩
  · intro reached
    obtain ⟨first, found, rfl⟩ := reached
    exact ⟨Nat.le_add_left 1 first, found⟩

theorem contains_ofFlags (flags : List Bool) (place : Nat) :
    (ofFlags flags).contains place = flags[place]?.getD false := by
  induction flags generalizing place with
  | nil => exact contains_none place
  | cons flag flags ih =>
      cases place with
      | zero => cases flag <;> simp [ofFlags, contains, Nat.testBit_zero]
      | succ place =>
          have half : (2 * (ofFlags flags).bits + flag.toNat) / 2 = (ofFlags flags).bits := by
            have digit := Bool.toNat_le flag
            omega
          rw [List.getElem?_cons_succ, ← ih, ofFlags, contains, Nat.testBit_succ, half, contains]

theorem exists_contains_of_ne_none (some : places ≠ none) :
    ∃ place, places.contains place = true := by
  by_contra nowhere
  refine some (ext_contains fun place => ?_)
  rw [contains_none]
  exact Bool.eq_false_iff.mpr fun contained => nowhere ⟨place, contained⟩

/-- A set of places of a text that has `size` places. -/
def Within (size : Nat) (places : Places) : Prop :=
  ∀ place, places.contains place = true → place < size

end Places

/-! ## Steps that follow a relation -/

/-- From any set of places, a step leads to those that a relation leads to from one of the set. -/
structure Follows (size : Nat) (step : Places → Places) (relation : Nat → Nat → Prop) : Prop where
  contains_iff : ∀ places : Places, places.Within size → ∀ last,
    (step places).contains last = true ↔
      ∃ first, places.contains first = true ∧ relation first last
  bounded : ∀ first last, relation first last → first < size → last < size

/-- A set of places and those that a step leads to. -/
def grow (step : Places → Places) (places : Places) : Places :=
  places.union (step places)

theorem contains_grow {places : Places} (contained : places.contains place = true) :
    (grow step places).contains place = true := by
  rw [grow, Places.contains_union, contained, Bool.true_or]

theorem iterate_eq (step : Places → Places) (count : Nat) (places : Places) :
    iterate step count places = step^[count] places := by
  induction count generalizing places with
  | zero => rfl
  | succ count ih =>
      rw [iterate, Function.iterate_succ_apply]
      split
      · rename_i still
        rw [still, Function.iterate_fixed still]
      · rw [ih]

theorem accumulate_eq (step : Places → Places) (count : Nat) (places : Places) :
    accumulate step count places = (grow step)^[count] places := by
  rw [← iterate_eq]
  induction count generalizing places with
  | zero => rfl
  | succ count ih =>
      rw [accumulate, iterate, ih]
      rfl

namespace Follows

variable {places : Places}

theorem within (follows : Follows size step relation) (inside : places.Within size) :
    (step places).Within size := by
  intro last reached
  obtain ⟨first, contained, related⟩ := (follows.contains_iff places inside last).mp reached
  exact follows.bounded first last related (inside first contained)

theorem congr (follows : Follows size step relation)
    (same : ∀ first last, relation first last ↔ also first last) : Follows size step also := by
  have equal : relation = also := funext₂ fun first last => propext (same first last)
  exact equal ▸ follows

theorem standing (size : Nat) : Follows size id fun first last => first = last where
  contains_iff := by simp
  bounded := fun _ _ still begins => still ▸ begins

theorem comp (follows : Follows size step relation) (after : Follows size behind also) :
    Follows size (fun places => behind (step places))
      (fun first last => ∃ middle, relation first middle ∧ also middle last) where
  contains_iff := by
    intro places inside last
    rw [after.contains_iff _ (follows.within inside)]
    constructor
    · intro found
      obtain ⟨middle, reached, related⟩ := found
      obtain ⟨first, contained, before⟩ := (follows.contains_iff places inside middle).mp reached
      exact ⟨first, contained, middle, before, related⟩
    · intro found
      obtain ⟨first, contained, middle, before, related⟩ := found
      exact ⟨middle, (follows.contains_iff places inside middle).mpr ⟨first, contained, before⟩,
        related⟩
  bounded := by
    intro first last found begins
    obtain ⟨middle, before, related⟩ := found
    exact after.bounded middle last related (follows.bounded first middle before begins)

theorem union (follows : Follows size step relation) (other : Follows size behind also) :
    Follows size (fun places => (step places).union (behind places))
      (fun first last => relation first last ∨ also first last) where
  contains_iff := by
    intro places inside last
    rw [Places.contains_union, Bool.or_eq_true, follows.contains_iff places inside,
      other.contains_iff places inside, ← exists_or]
    simp only [and_or_left]
  bounded := by
    intro first last related begins
    cases related with
    | inl left => exact follows.bounded first last left begins
    | inr right => exact other.bounded first last right begins

theorem iterated (follows : Follows size step relation) (count : Nat) :
    Follows size (step^[count]) (Rounds relation count) := by
  induction count with
  | zero =>
      refine (standing size).congr fun first last => ?_
      constructor
      · intro still
        subst still
        exact .start
      · intro rounds
        cases rounds with
        | start => rfl
  | succ count ih =>
      refine (follows.comp ih).congr fun first last => ?_
      constructor
      · intro found
        obtain ⟨middle, related, rounds⟩ := found
        exact .round related rounds
      · intro rounds
        cases rounds with
        | round related others => exact ⟨_, related, others⟩

theorem growing (follows : Follows size step relation) :
    Follows size (grow step) fun first last => first = last ∨ relation first last :=
  (standing size).union follows

theorem accumulated (follows : Follows size step relation) (count : Nat) :
    Follows size (accumulate step count)
      fun first last => ∃ fewer ≤ count, Rounds relation fewer first last := by
  have grown : accumulate step count = (grow step)^[count] :=
    funext (accumulate_eq step count)
  rw [grown]
  exact (follows.growing.iterated count).congr fun _ _ => rounds_reflexive_iff

/-! ## Closures -/

/-- The places of a set below a bound. -/
def members (size : Nat) (places : Places) : Finset Nat :=
  (Finset.range size).filter fun place => places.contains place = true

theorem members_ssubset (follows : Follows size step relation) (inside : places.Within size)
    (grows : grow step places ≠ places) :
    members size places ⊂ members size (grow step places) := by
  have larger : (grow step places).Within size := follows.growing.within inside
  refine Finset.ssubset_iff_subset_ne.mpr ⟨?kept, fun same => grows (Places.ext_contains ?equal)⟩
  case kept =>
    intro place member
    obtain ⟨below, contained⟩ := Finset.mem_filter.mp member
    exact Finset.mem_filter.mpr ⟨below, contains_grow contained⟩
  case equal =>
    intro place
    refine Bool.eq_iff_iff.mpr ⟨fun reached => ?_, contains_grow⟩
    have member : place ∈ members size (grow step places) :=
      Finset.mem_filter.mpr ⟨Finset.mem_range.mpr (larger place reached), reached⟩
    rw [← same] at member
    exact (Finset.mem_filter.mp member).2

/-- Each round of growing adds a place, until one adds none. -/
theorem grow_progress (follows : Follows size step relation) (inside : places.Within size)
    (count : Nat) :
    grow step ((grow step)^[count] places) = (grow step)^[count] places ∨
      count < (members size (grow step ((grow step)^[count] places))).card := by
  have within : ((grow step)^[count] places).Within size :=
    (follows.growing.iterated count).within inside
  by_cases still : grow step ((grow step)^[count] places) = (grow step)^[count] places
  · exact .inl still
  · have more := Finset.card_lt_card (follows.members_ssubset within still)
    refine .inr (Nat.lt_of_le_of_lt ?_ more)
    cases count with
    | zero => exact Nat.zero_le _
    | succ count =>
        rw [Function.iterate_succ_apply'] at still ⊢
        cases follows.grow_progress inside count with
        | inl stopped => exact absurd (congrArg (grow step) stopped) still
        | inr reached => exact reached

/-- There are only `size` places that can be added. -/
theorem grow_stable (follows : Follows size step relation) (inside : places.Within size) :
    grow step ((grow step)^[size] places) = (grow step)^[size] places := by
  cases follows.grow_progress inside size with
  | inl still => exact still
  | inr crowded =>
      have few := Finset.card_filter_le (Finset.range size) fun place =>
        (grow step ((grow step)^[size] places)).contains place = true
      rw [Finset.card_range] at few
      exact absurd crowded (Nat.not_lt_of_le few)

theorem closure (follows : Follows size step relation) :
    Follows size (accumulate step size)
      fun first last => ∃ count, Rounds relation count first last where
  contains_iff := by
    intro places inside last
    rw [(follows.accumulated size).contains_iff places inside last]
    constructor
    · intro few
      obtain ⟨first, contained, count, -, rounds⟩ := few
      exact ⟨first, contained, count, rounds⟩
    · intro many
      obtain ⟨first, contained, count, rounds⟩ := many
      -- More rounds than there are places lead nowhere else.
      have longer : accumulate step (count + size) places = accumulate step size places := by
        rw [accumulate_eq, accumulate_eq, Function.iterate_add_apply,
          Function.iterate_fixed (follows.grow_stable inside)]
      rw [← (follows.accumulated size).contains_iff places inside last, ← longer,
        (follows.accumulated (count + size)).contains_iff places inside last]
      exact ⟨first, contained, count, Nat.le_add_right count size, rounds⟩
  bounded := by
    intro first last found begins
    obtain ⟨count, rounds⟩ := found
    exact rounds.lt_of_lt follows.bounded begins

end Follows

/-! ## Patterns on a text -/

theorem getElem?_placesAfter (before : Option Char) (text : List Char) (place : Nat) :
    (placesAfter before text)[place]?.map Place.after =
      if place ≤ text.length then some text[place]? else none := by
  induction text generalizing before place with
  | nil => cases place <;> simp [placesAfter]
  | cons c rest ih =>
      cases place with
      | zero => simp [placesAfter]
      | succ place => simpa [placesAfter] using ih (some c) place

theorem contains_places_iff (allows : Place → Bool) :
    (Places.ofFlags ((places text).map allows)).contains place = true ↔
      ∃ here, (places text)[place]? = some here ∧ allows here = true := by
  rw [Places.contains_ofFlags, List.getElem?_map]
  cases (places text)[place]? <;> simp

theorem exists_place_iff : (∃ here, (places text)[place]? = some here) ↔ place ≤ text.length := by
  have after := getElem?_placesAfter none text place
  rw [← Option.isSome_iff_exists, ← Option.isSome_map, places, after]
  split <;> simp_all

/-- The characters that a step passes are those behind the places that it leads away from. -/
theorem contains_stepPlaces_iff (set : CharSet) :
    (Places.ofFlags ((places text).map fun here => set.containsSome here.after)).contains place =
      true ↔ ∃ c, text[place]? = some c ∧ set.contains c = true := by
  have after := getElem?_placesAfter none text place
  rw [contains_places_iff]
  constructor
  · intro passed
    obtain ⟨here, found, passes⟩ := passed
    rw [← places, found, Option.map_some] at after
    split at after
    · rw [Option.some.inj after] at passes
      exact (Option.any_eq_true _ _).mp passes
    · cases after
  · intro passed
    obtain ⟨c, listed, passes⟩ := passed
    have inside := (List.getElem?_eq_some_iff.mp listed).1
    rw [if_pos (Nat.le_of_lt inside), listed, ← places] at after
    obtain ⟨here, found, follows⟩ := Option.map_eq_some_iff.mp after
    exact ⟨here, found, by rw [follows]; exact passes⟩

theorem follows_step (set : CharSet) :
    Follows (text.length + 1) (ends (text.length + 1) (onText (.step set) text))
      (Spans text (.step set)) where
  contains_iff := by
    intro starts _ last
    simp only [onText, map, ends, Places.contains_next_iff, Places.contains_inter, Bool.and_eq_true,
      contains_stepPlaces_iff, Spans]
    constructor
    · intro found
      obtain ⟨first, ⟨contained, passes⟩, next⟩ := found
      exact ⟨first, contained, next, passes⟩
    · intro found
      obtain ⟨first, contained, next, passes⟩ := found
      exact ⟨first, ⟨contained, passes⟩, next⟩
  bounded := by
    intro first last found _
    obtain ⟨rfl, c, listed, -⟩ := found
    exact Nat.succ_lt_succ (List.getElem?_eq_some_iff.mp listed).1

theorem follows_check (asked : Check) :
    Follows (text.length + 1) (ends (text.length + 1) (onText (.check asked) text))
      (Spans text (.check asked)) where
  contains_iff := by
    intro starts _ last
    simp only [onText, map, ends, Places.contains_inter, Bool.and_eq_true, contains_places_iff,
      Spans]
    constructor
    · intro found
      obtain ⟨contained, holds⟩ := found
      exact ⟨last, contained, rfl, holds⟩
    · intro found
      obtain ⟨first, contained, rfl, holds⟩ := found
      exact ⟨contained, holds⟩
  bounded := fun _ _ found begins => found.1 ▸ begins

/-- The search leads from a set of places to the ends of the stretches that a pattern describes. -/
theorem follows_ends (pattern : TextPattern) (text : List Char) :
    Follows (text.length + 1) (ends (text.length + 1) (onText pattern text))
      (Spans text pattern) := by
  induction pattern with
  | empty => exact .standing _
  | step set => exact follows_step set
  | check asked => exact follows_check asked
  | sequence front back frontIH backIH => exact frontIH.comp backIH
  | either left right leftIH rightIH => exact leftIH.union rightIH
  | repeated pattern least most ih =>
      have front : Follows (text.length + 1) (iterate (ends (text.length + 1) (onText pattern text))
          least) (Rounds (Spans text pattern) least) := by
        rw [funext (iterate_eq _ least)]
        exact ih.iterated least
      cases most with
      | none =>
          refine (front.comp ih.closure).congr fun first last => ?_
          have whole := @rounds_from_iff (Spans text pattern) first last least fun _ => True
          simpa [Spans] using whole
      | some bound =>
          refine (front.comp (ih.accumulated (bound - least))).congr fun first last => ?_
          rw [rounds_from_iff (· ≤ bound - least), Spans]
          simp only [Option.mem_some_iff, forall_eq']
          refine exists_congr fun count => and_congr_right fun enough => and_congr_left fun _ => ?_
          omega

/-- A pattern is found exactly if it describes some stretch of the text. -/
theorem isFoundIn_iff {pattern : TextPattern} : pattern.isFoundIn text = true ↔
    ∃ first last, first ≤ text.length ∧ Spans text pattern first last := by
  have everywhere (place : Nat) :
      (Places.ofFlags ((places text).map fun _ => true)).contains place = true ↔
        place ≤ text.length := by
    rw [contains_places_iff, ← exists_place_iff]
    simp
  have inside : (Places.ofFlags ((places text).map fun _ => true)).Within (text.length + 1) :=
    fun place contained => Nat.lt_succ_of_le ((everywhere place).mp contained)
  have reached := (follows_ends pattern text).contains_iff _ inside
  simp only [everywhere] at reached
  rw [isFoundIn, bne_iff_ne]
  constructor
  · intro some
    obtain ⟨last, contained⟩ := Places.exists_contains_of_ne_none some
    obtain ⟨first, begins, spans⟩ := (reached last).mp contained
    exact ⟨first, last, begins, spans⟩
  · intro found nothing
    obtain ⟨first, last, begins, spans⟩ := found
    have contained := (reached last).mpr ⟨first, begins, spans⟩
    rw [nothing, Places.contains_none] at contained
    cases contained

end FileSearch.Pattern
