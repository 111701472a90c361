import StagedFlow.Bag

/-!
# What bags hold

A bag holds the value that was put in last under a key; other keys do not matter.
-/

namespace StagedFlow.Bag

variable {K : Type} {V : K → Type} [DecidableEq K]

theorem find?_append (key : K) (entries rest : List ((key : K) × V key)) :
    find? key (entries ++ rest) = (find? key entries).or (find? key rest) := by
  induction entries with
  | nil => rfl
  | cons entry entries ih =>
    rw [List.cons_append, find?, find?]
    by_cases h : entry.1 = key
    · rw [dif_pos h, dif_pos h, Option.some_or]
    · rw [dif_neg h, dif_neg h, ih]

theorem find?_filter_self (key : K) (entries : List ((key : K) × V key)) :
    find? key (entries.filter fun entry => entry.1 != key) = none := by
  induction entries with
  | nil => rfl
  | cons entry entries ih =>
    by_cases h : entry.1 = key
    · rw [List.filter_cons_of_neg (by simp [h]), ih]
    · rw [List.filter_cons_of_pos (by simp [h]), find?, dif_neg h, ih]

theorem find?_filter_of_ne {key other : K} (hne : key ≠ other)
    (entries : List ((key : K) × V key)) :
    find? key (entries.filter fun entry => entry.1 != other) = find? key entries := by
  induction entries with
  | nil => rfl
  | cons entry entries ih =>
    by_cases h : entry.1 = other
    · rw [List.filter_cons_of_neg (by simp [h]), ih, find?,
        dif_neg (fun heq => hne (heq.symm.trans h))]
    · rw [List.filter_cons_of_pos (by simp [h]), find?, find?, ih]

@[simp]
theorem get?_insert_self (bag : Bag K V) (key : K) (v : V key) :
    (bag.insert key v).get? key = some v := by
  rw [get?, insert, find?_append, erase, find?_filter_self, Option.none_or, find?, dif_pos rfl]

@[simp]
theorem get?_insert_of_ne (bag : Bag K V) {key other : K} (v : V other) (hne : key ≠ other) :
    (bag.insert other v).get? key = bag.get? key := by
  rw [get?, insert, find?_append, erase, find?_filter_of_ne hne, find?, dif_neg hne.symm, find?,
    Option.or_none]
  rfl

@[simp]
theorem get?_erase_of_ne (bag : Bag K V) {key other : K} (hne : key ≠ other) :
    (bag.erase other).get? key = bag.get? key :=
  find?_filter_of_ne hne bag.entries

@[simp]
theorem get?_erase_self (bag : Bag K V) (key : K) : (bag.erase key).get? key = none :=
  find?_filter_self key bag.entries

@[simp]
theorem get?_empty (key : K) : (empty : Bag K V).get? key = none := rfl

theorem mem_of_find? {key : K} {v : V key} {entries : List ((key : K) × V key)}
    (h : find? key entries = some v) : ⟨key, v⟩ ∈ entries := by
  induction entries with
  | nil => cases h
  | cons entry rest ih =>
    rw [find?] at h
    split at h
    case isTrue heq =>
      subst heq
      cases h
      exact List.mem_cons_self
    case isFalse => exact List.mem_cons_of_mem _ (ih h)

theorem mem_of_get? {bag : Bag K V} {key : K} {v : V key} (h : bag.get? key = some v) :
    ⟨key, v⟩ ∈ bag.entries :=
  mem_of_find? h

theorem contains_eq_isSome (bag : Bag K V) (key : K) :
    bag.contains key = (bag.get? key).isSome := by
  rw [contains, get?]
  induction bag.entries with
  | nil => rfl
  | cons entry entries ih =>
    rw [List.any_cons, find?, ih]
    by_cases h : entry.1 = key
    · rw [dif_pos h, beq_iff_eq.mpr h, Bool.true_or, Option.isSome_some]
    · rw [dif_neg h, beq_eq_false_iff_ne.mpr h, Bool.false_or]

end StagedFlow.Bag
