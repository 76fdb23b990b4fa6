import Mathlib.Data.List.Basic

/-!
# Lookups in lists of entries

What is found under a key after entries have been left out, changed or added, where the list says
for each key what it stands for.
-/

set_option autoImplicit false

namespace FileSearch.Lookup

variable {Key Value : Type} [BEq Key] [LawfulBEq Key] {entries : List (Key × Value)} {key : Key}

theorem lookup_filter (entries : List (Key × Value)) (keeps : Key → Bool) (key : Key) :
    (entries.filter fun entry => keeps entry.1).lookup key =
      if keeps key then entries.lookup key else none := by
  induction entries with
  | nil => simp only [List.filter_nil, List.lookup_nil, ite_self]
  | cons entry rest ih =>
      obtain ⟨name, value⟩ := entry
      rw [List.filter_cons]
      by_cases same : key = name
      · subst same
        cases kept : keeps key <;> simp [kept, ih]
      · have different : (key == name) = false := beq_eq_false_iff_ne.mpr same
        split <;> simp [List.lookup_cons, different, ih]

theorem lookup_map (change : Key → Value → Value) (entries : List (Key × Value)) (key : Key) :
    (entries.map fun entry => (entry.1, change entry.1 entry.2)).lookup key =
      (entries.lookup key).map (change key) := by
  induction entries with
  | nil => rfl
  | cons entry rest ih =>
      obtain ⟨name, value⟩ := entry
      rw [List.map_cons, List.lookup_cons, List.lookup_cons, ih]
      cases same : key == name with
      | true =>
          rw [beq_iff_eq.mp same]
          rfl
      | false => rfl

theorem lookup_eq_none (absent : key ∉ entries.map Prod.fst) : entries.lookup key = none := by
  rw [List.lookup_eq_none_iff]
  intro entry member
  have different : key ≠ entry.1 := fun same => absent (same ▸ List.mem_map_of_mem member)
  exact bne_iff_ne.mpr different

theorem lookup_append_singleton (absent : key ∉ entries.map Prod.fst) (value : Value) :
    (entries ++ [(key, value)]).lookup key = some value := by
  rw [List.lookup_append, lookup_eq_none absent, Option.none_or, List.lookup_cons_self]

end FileSearch.Lookup
