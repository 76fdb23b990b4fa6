import FileSearch.Files.Path
import Mathlib.Data.List.DropRight
import Mathlib.Data.List.Basic

/-!
# Names and paths

What a path says is the list of its names: slashes that follow each other count once, and a name
that is joined to a path comes last. A name is cut at its last point and nowhere else.
-/

set_option autoImplicit false

namespace FileSearch.Path

/-- The names in a path. -/
def names (path : Path) : List Bytes :=
  (path.splitOnP (· == slash)).filter fun name => !name.isEmpty

/-- A path without the slashes at its end. -/
def withoutSlashes (path : Path) : Path :=
  (path.reverse.dropWhile (· == slash)).reverse

/-- Names of files: what can be looked up in a directory and is no step in place or upwards. -/
structure IsName (name : Bytes) : Prop where
  ne_nil : name ≠ []
  ne_point : name ≠ [point]
  ne_points : name ≠ [point, point]
  slash_notMem : slash ∉ name
  nul_notMem : 0 ∉ name

/-! ## Names -/

theorem names_nil : names [] = [] := by
  rw [names, List.splitOnP_nil]
  rfl

theorem names_append_slash (front back : Path) :
    names (front ++ slash :: back) = names front ++ names back := by
  have separates : (slash == slash) = true := beq_self_eq_true slash
  have split := List.splitOnP_append_cons (p := (· == slash)) front back separates
  rw [names, split, List.filter_append]
  rfl

theorem names_of_slashes {path : Path} (slashes : ∀ c ∈ path, c = slash) : names path = [] := by
  induction path with
  | nil => exact names_nil
  | cons c rest ih =>
      obtain ⟨rfl, others⟩ := List.forall_mem_cons.mp slashes
      rw [← List.nil_append (slash :: rest), names_append_slash, names_nil, ih others,
        List.append_nil]

theorem names_append_of_slashes (front : Path) {back : Path} (slashes : ∀ c ∈ back, c = slash) :
    names (front ++ back) = names front := by
  cases back with
  | nil => rw [List.append_nil]
  | cons c rest =>
      obtain ⟨rfl, others⟩ := List.forall_mem_cons.mp slashes
      rw [names_append_slash, names_of_slashes others, List.append_nil]

theorem names_of_notMem {name : Bytes} (solid : name ≠ []) (single : slash ∉ name) :
    names name = [name] := by
  have whole : ∀ c ∈ name, (c == slash) = false := by
    intro c member
    exact beq_eq_false_iff_ne.mpr fun same => single (same ▸ member)
  rw [names, List.splitOnP_eq_singleton whole]
  exact List.filter_cons_of_pos (by simpa using solid)

theorem IsName.names {name : Bytes} (isName : IsName name) : names name = [name] :=
  names_of_notMem isName.ne_nil isName.slash_notMem

theorem steps_of_getLast? {path : Path} (ends : path.getLast? ≠ some slash) :
    steps path = names path :=
  if_neg (by simpa using ends)

/-- The steps of a path are its names, before a step in place if a slash ends it. -/
theorem steps_eq_or (path : Path) :
    steps path = names path ∨ steps path = names path ++ [[point]] := by
  by_cases closed : path.getLast? = some slash
  · exact .inr (if_pos (beq_iff_eq.mpr closed))
  · exact .inl (steps_of_getLast? closed)

/-! ## Slashes at the end -/

theorem exists_eq_withoutSlashes_append (path : Path) :
    ∃ slashes, path = withoutSlashes path ++ slashes ∧ ∀ c ∈ slashes, c = slash := by
  refine ⟨path.rtakeWhile (· == slash), ?_, ?_⟩
  · exact (List.rdropWhile_append_rtakeWhile (p := (· == slash))).symm
  · intro c member
    exact beq_iff_eq.mp (List.mem_rtakeWhile_imp (p := (· == slash)) member)

theorem names_withoutSlashes (path : Path) : names (withoutSlashes path) = names path := by
  obtain ⟨slashes, split, allSlashes⟩ := exists_eq_withoutSlashes_append path
  conv_rhs => rw [split, names_append_of_slashes _ allSlashes]

theorem getLast?_withoutSlashes (path : Path) : (withoutSlashes path).getLast? ≠ some slash := by
  change (path.rdropWhile (· == slash)).getLast? ≠ some slash
  intro last
  by_cases empty : path.rdropWhile (· == slash) = []
  · rw [empty] at last
    cases last
  · rw [List.getLast?_eq_some_getLast empty, Option.some.injEq] at last
    exact List.rdropWhile_last_not _ path empty (beq_iff_eq.mpr last)

theorem steps_withoutSlashes (path : Path) : steps (withoutSlashes path) = names path := by
  rw [steps_of_getLast? (getLast?_withoutSlashes path), names_withoutSlashes]

theorem isAbsolute_append {front : Path} (solid : front ≠ []) (back : Path) :
    isAbsolute (front ++ back) = isAbsolute front := by
  cases front with
  | nil => exact absurd rfl solid
  | cons c rest => rfl

theorem isAbsolute_withoutSlashes {path : Path} (solid : withoutSlashes path ≠ []) :
    isAbsolute (withoutSlashes path) = isAbsolute path := by
  obtain ⟨slashes, split, -⟩ := exists_eq_withoutSlashes_append path
  conv_rhs => rw [split, isAbsolute_append solid]

/-! ## Names behind paths -/

theorem IsName.isAbsolute {name : Bytes} (isName : IsName name) : isAbsolute name = false := by
  cases name with
  | nil => rfl
  | cons c rest =>
      refine beq_eq_false_iff_ne.mpr fun same => isName.slash_notMem ?_
      rw [List.head?_cons, Option.some.injEq] at same
      exact same ▸ List.mem_cons_self

theorem IsName.getLast?_ne {name : Bytes} (isName : IsName name) :
    name.getLast? ≠ some slash :=
  fun last => isName.slash_notMem (List.mem_of_getLast? last)

/-- A name is joined to a path as it is, or with a slash before it. -/
theorem join_eq {base : Path} (solid : base ≠ []) {name : Bytes} (isName : IsName name) :
    (base.getLast? = some slash ∧ base.join name = base ++ name) ∨
      base.join name = base ++ slash :: name := by
  unfold join
  rw [isName.isAbsolute, List.isEmpty_eq_false_iff.mpr solid, Bool.or_self,
    if_neg Bool.false_ne_true]
  by_cases closed : base.getLast? = some slash
  · exact .inl ⟨closed, if_pos (beq_iff_eq.mpr closed)⟩
  · exact .inr (if_neg (by simpa using closed))

theorem names_join {base : Path} (solid : base ≠ []) {name : Bytes} (isName : IsName name) :
    names (base.join name) = names base ++ [name] := by
  rcases join_eq solid isName with ⟨closed, joined⟩ | joined
  · obtain ⟨front, rfl⟩ := List.getLast?_eq_some_iff.mp closed
    rw [joined, List.append_assoc, List.singleton_append, names_append_slash, names_append_slash,
      isName.names, names_nil, List.append_nil]
  · rw [joined, names_append_slash, isName.names]

theorem steps_join {base : Path} (solid : base ≠ []) {name : Bytes} (isName : IsName name) :
    steps (base.join name) = names base ++ [name] := by
  rw [steps_of_getLast?, names_join solid isName]
  rcases join_eq solid isName with ⟨-, joined⟩ | joined
  · rw [joined, List.getLast?_append_of_ne_nil _ isName.ne_nil]
    exact isName.getLast?_ne
  · rw [joined, List.getLast?_append_of_ne_nil _ (List.cons_ne_nil _ _),
      ← List.singleton_append, List.getLast?_append_of_ne_nil _ isName.ne_nil]
    exact isName.getLast?_ne

theorem isAbsolute_join {base : Path} (solid : base ≠ []) {name : Bytes} (isName : IsName name) :
    isAbsolute (base.join name) = isAbsolute base := by
  rcases join_eq solid isName with ⟨-, joined⟩ | joined <;> rw [joined, isAbsolute_append solid]

theorem join_ne_nil {base : Path} (solid : base ≠ []) {name : Bytes} (isName : IsName name) :
    base.join name ≠ [] := by
  rcases join_eq solid isName with ⟨-, joined⟩ | joined <;> rw [joined] <;>
    exact List.append_ne_nil_of_left_ne_nil solid _

theorem nul_notMem_join {base : Path} (textual : 0 ∉ base) {name : Bytes} (isName : IsName name) :
    0 ∉ base.join name := by
  have noSlash : (0 : UInt8) ≠ slash := by decide
  by_cases solid : base = []
  · rw [solid, join, List.isEmpty_nil, Bool.or_true, if_pos rfl]
    exact isName.nul_notMem
  · rcases join_eq solid isName with ⟨-, joined⟩ | joined <;> rw [joined] <;>
      simp [textual, isName.nul_notMem, noSlash]

theorem length_join_le (base : Path) {name : Bytes} (isName : IsName name) :
    (base.join name).length ≤ base.length + 1 + name.length := by
  by_cases solid : base = []
  · rw [solid, join, List.isEmpty_nil, Bool.or_true, if_pos rfl]
    omega
  · rcases join_eq solid isName with ⟨-, joined⟩ | joined <;> rw [joined] <;>
      simp only [List.length_append, List.length_cons] <;> omega

theorem le_length_join (base : Path) {name : Bytes} (isName : IsName name) :
    base.length ≤ (base.join name).length := by
  by_cases solid : base = []
  · rw [solid]
    exact Nat.zero_le _
  · rcases join_eq solid isName with ⟨-, joined⟩ | joined <;> rw [joined] <;> simp

/-! ## Parents -/

/-- Nothing but slashes and steps in place is taken off the end of a path. -/
theorem names_of_trimReversed {reversed : Path} (trimmed : trimReversed reversed = [] ∨
    trimReversed reversed = [slash]) :
    reversed = [] ∨ (reversed.getLast? = some slash ∧
      ∀ name ∈ names reversed.reverse, name = [point]) := by
  fun_induction trimReversed reversed with
  | case1 => exact .inl rfl
  | case2 c rest closed empty =>
      obtain rfl := List.isEmpty_iff.mp empty
      obtain rfl := beq_iff_eq.mp closed
      refine .inr ⟨rfl, ?_⟩
      rw [List.reverse_singleton, names_of_slashes (by simp)]
      simp
  | case3 c rest closed solid ih =>
      obtain rfl := beq_iff_eq.mp closed
      rcases ih trimmed with rfl | ⟨last, points⟩
      · exact absurd rfl solid
      · rw [List.reverse_cons, names_append_of_slashes _ (by simp)]
        exact .inr ⟨by rw [List.getLast?_cons, last]; rfl, points⟩
  | case4 c _ d before inPlace empty =>
      obtain rfl := List.isEmpty_iff.mp empty
      obtain ⟨rfl, rfl⟩ : c = point ∧ d = slash := by simpa using inPlace
      exact .inr ⟨rfl, by decide⟩
  | case5 c _ d before inPlace nonempty ih =>
      obtain ⟨rfl, rfl⟩ : c = point ∧ d = slash := by simpa using inPlace
      rcases ih trimmed with rfl | ⟨last, points⟩
      · exact absurd rfl nonempty
      · have split : (point :: slash :: before).reverse = before.reverse ++ slash :: [point] := by
          simp
        have single : names [point] = [[point]] :=
          names_of_notMem (List.cons_ne_nil _ _) (by decide)
        rw [split, names_append_slash, single]
        refine .inr ⟨by rw [List.getLast?_cons, List.getLast?_cons, last]; rfl, ?_⟩
        intro name member
        rcases List.mem_append.mp member with front | back
        · exact points name front
        · exact List.mem_singleton.mp back
  | case6 c _ d before _ => simp at trimmed
  | case7 c solid =>
      rcases trimmed with empty | same
      · cases empty
      · cases same
        exact absurd rfl solid

/-- A path without a parent is empty or stays where it begins, at the root. -/
theorem of_parent?_eq_none {path : Path} (topmost : path.parent? = none) :
    path = [] ∨ (path.isAbsolute = true ∧ ∀ name ∈ names path, name = [point]) := by
  unfold parent? at topmost
  simp only [Bool.or_eq_true, List.isEmpty_iff, beq_iff_eq, ite_eq_left_iff, reduceCtorEq,
    imp_false, Classical.not_not] at topmost
  rcases names_of_trimReversed topmost with empty | ⟨last, points⟩
  · exact .inl (List.reverse_eq_nil_iff.mp empty)
  · rw [List.getLast?_reverse] at last
    rw [List.reverse_reverse] at points
    exact .inr ⟨beq_iff_eq.mpr last, points⟩

theorem trimReversed_suffix (reversed : Path) : trimReversed reversed <:+ reversed := by
  fun_induction trimReversed reversed with
  | case1 => exact List.suffix_refl _
  | case2 c rest closed empty =>
      obtain rfl := beq_iff_eq.mp closed
      obtain rfl := List.isEmpty_iff.mp empty
      exact List.suffix_refl _
  | case3 c rest _ _ ih => exact ih.trans (List.suffix_cons c rest)
  | case4 c _ d before inPlace empty =>
      obtain ⟨-, rfl⟩ : c = point ∧ d = slash := by simpa using inPlace
      rw [List.isEmpty_iff.mp empty]
      exact List.suffix_cons c [slash]
  | case5 c _ d before _ _ ih => exact ih.trans ⟨[c, d], rfl⟩
  | case6 => exact List.suffix_refl _
  | case7 => exact List.suffix_refl _

theorem head?_trimReversed (reversed : Path) :
    trimReversed reversed = [slash] ∨ (trimReversed reversed).head? ≠ some slash := by
  fun_induction trimReversed reversed with
  | case1 => simp
  | case2 => exact .inl rfl
  | case3 _ _ _ _ ih => exact ih
  | case4 => exact .inl rfl
  | case5 _ _ _ _ _ _ ih => exact ih
  | case6 c solid d before _ => exact .inr (by simpa using solid)
  | case7 c solid => exact .inr (by simpa using solid)

/-- The names of a path are those of its front and steps in place. -/
theorem exists_names_trimReversed (reversed : Path) :
    ∃ points, names reversed.reverse = names (trimReversed reversed).reverse ++ points := by
  fun_induction trimReversed reversed with
  | case1 => exact ⟨[], rfl⟩
  | case2 c rest closed empty =>
      rw [beq_iff_eq.mp closed, List.isEmpty_iff.mp empty]
      exact ⟨[], (List.append_nil _).symm⟩
  | case3 c rest closed _ ih =>
      obtain rfl := beq_iff_eq.mp closed
      rw [List.reverse_cons, names_append_of_slashes _ (by simp)]
      exact ih
  | case4 c _ d before inPlace empty =>
      obtain ⟨rfl, rfl⟩ : c = point ∧ d = slash := by simpa using inPlace
      rw [List.isEmpty_iff.mp empty]
      exact ⟨[[point]], by decide⟩
  | case5 c _ d before inPlace _ ih =>
      obtain ⟨rfl, rfl⟩ : c = point ∧ d = slash := by simpa using inPlace
      obtain ⟨points, same⟩ := ih
      have split : (point :: slash :: before).reverse = before.reverse ++ slash :: [point] := by
        simp
      rw [split, names_append_slash, same, List.append_assoc]
      exact ⟨_, rfl⟩
  | case6 => exact ⟨[], (List.append_nil _).symm⟩
  | case7 => exact ⟨[], (List.append_nil _).symm⟩

theorem names_ne_nil {path : Path} {c : UInt8} (member : c ∈ path) (solid : c ≠ slash) :
    names path ≠ [] := by
  by_cases separated : slash ∈ path
  · obtain ⟨front, back, split, single⟩ := List.eq_append_cons_of_mem separated
    have shorter : back.length < path.length := by
      rw [split, List.length_append, List.length_cons]
      omega
    rw [split, List.mem_append, List.mem_cons, or_iff_right solid] at member
    rw [split, names_append_slash]
    rcases member with inFront | inBack
    · rw [names_of_notMem (List.ne_nil_of_mem inFront) single]
      exact List.cons_ne_nil _ _
    · exact List.append_ne_nil_of_right_ne_nil _ (names_ne_nil inBack solid)
  · rw [names_of_notMem (List.ne_nil_of_mem member) separated]
    exact List.cons_ne_nil _ _
termination_by path.length

/-- A path is its parent with a name behind it, and slashes and steps in place. -/
theorem exists_names_parent? {path parent : Path} (isParent : path.parent? = some parent) :
    parent <+: path ∧ (parent ≠ [] → ∃ more, names path = names parent ++ more ∧ more ≠ []) := by
  have trimmed := trimReversed_suffix path.reverse
  have first := head?_trimReversed path.reverse
  unfold parent? at isParent
  generalize trimReversed path.reverse = reversed at trimmed first isParent
  obtain ⟨⟨solid, noRoot⟩, rfl⟩ : (reversed ≠ [] ∧ reversed ≠ [slash]) ∧
      (trimReversed (reversed.dropWhile (· != slash))).reverse = parent := by
    simpa using isParent
  have split : reversed.takeWhile (· != slash) ++ reversed.dropWhile (· != slash) = reversed :=
    List.takeWhile_append_dropWhile
  obtain ⟨points, names⟩ := exists_names_trimReversed (reversed.dropWhile (· != slash))
  obtain ⟨junk, whole⟩ := trimmed
  constructor
  · rw [← List.reverse_suffix, List.reverse_reverse, ← whole]
    exact ((trimReversed_suffix _).trans (List.dropWhile_suffix _)).trans
      (List.suffix_append junk reversed)
  · intro above
    obtain ⟨c, name, rfl⟩ := List.exists_cons_of_ne_nil solid
    have noSlash : c ≠ slash := by simpa [noRoot] using first
    have last := List.head?_dropWhile_not (· != slash) (c :: name)
    cases behind : (c :: name).dropWhile (· != slash) with
    | nil =>
        rw [behind] at above
        exact absurd rfl above
    | cons d rest =>
        rw [behind] at last split names
        obtain rfl : d = slash := by simpa using last
        rw [List.reverse_cons, names_append_of_slashes _ (by simp)] at names
        have inFront : c ∈ (c :: name).takeWhile (· != slash) := by simp [noSlash]
        generalize (c :: name).takeWhile (· != slash) = front at split inFront
        have reversed : path = rest.reverse ++ slash :: (front.reverse ++ junk.reverse) := by
          rw [← List.reverse_inj, ← whole, ← split]
          simp
        have member : c ∈ front.reverse ++ junk.reverse :=
          List.mem_append_left _ (List.mem_reverse.mpr inFront)
        -- What is cut off for the parent has a byte in it that is no slash, hence a name.
        refine ⟨points ++ _, ?_, List.append_ne_nil_of_right_ne_nil _ (names_ne_nil member noSlash)⟩
        rw [reversed, names_append_slash, names, List.append_assoc]

/-! ## Extensions -/

theorem splitExtension_append {stem ending : Bytes} (solid : stem ≠ []) (single : point ∉ ending) :
    splitExtension (stem ++ point :: ending) = (stem, some ending) := by
  have reversed : (stem ++ point :: ending).reverse = ending.reverse ++ point :: stem.reverse := by
    simp
  have others : ∀ c ∈ ending.reverse, (c != point) = true := by
    intro c member
    exact bne_iff_ne.mpr fun same => single (same ▸ List.mem_reverse.mp member)
  have front : (ending.reverse ++ point :: stem.reverse).takeWhile (· != point) =
      ending.reverse := by
    rw [List.takeWhile_append_of_pos others, List.takeWhile_cons_of_neg (by decide),
      List.append_nil]
  have back : (ending.reverse ++ point :: stem.reverse).dropWhile (· != point) =
      point :: stem.reverse := by
    rw [List.dropWhile_append_of_pos others, List.dropWhile_cons_of_neg (by decide)]
  unfold splitExtension
  dsimp only
  rw [reversed, front, back, List.drop_one, List.tail_cons, List.reverse_reverse,
    List.reverse_reverse, if_neg (by simpa using solid)]

theorem eq_of_splitExtension {name stem ending : Bytes}
    (split : splitExtension name = (stem, some ending)) :
    name = stem ++ point :: ending ∧ stem ≠ [] := by
  unfold splitExtension at split
  dsimp only at split
  split at split
  · cases split
  · next solid =>
      obtain ⟨rfl, rfl⟩ : _ ∧ _ := by simpa only [Prod.mk.injEq, Option.some.injEq] using split
      have parts := List.takeWhile_append_dropWhile (p := (· != point)) (l := name.reverse)
      cases behind : name.reverse.dropWhile (· != point) with
      | nil =>
          rw [behind] at solid
          exact absurd rfl solid
      | cons c before =>
          have head := List.head?_dropWhile_not (· != point) name.reverse
          rw [behind] at head solid parts
          obtain rfl : c = point := by simpa using head
          rw [List.drop_one, List.tail_cons] at solid ⊢
          refine ⟨?_, by simpa using solid⟩
          have restored := congrArg List.reverse parts
          rw [List.reverse_reverse, List.reverse_append, List.reverse_cons, List.append_assoc,
            List.singleton_append] at restored
          exact restored.symm

end FileSearch.Path
