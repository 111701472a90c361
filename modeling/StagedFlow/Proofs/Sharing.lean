import Mathlib.Data.List.Basic
import StagedFlow.Forks
import StagedFlow.Proofs.Bags

/-!
# Forks keep apart

Bags that share cells look like bags that share nothing. What carries this is the count: a cell
counts at least as many holders as there are, so that a bag that finds itself the only holder can
change the value in its place without another one seeing it.
-/

namespace StagedFlow

section Places

variable {α : Type}

theorem getD_append_singleton (items : List α) (a d : α) (i : Nat) :
    (items ++ [a]).getD i d = if i = items.length then a else items.getD i d := by
  rw [List.getD_eq_getElem?_getD, List.getD_eq_getElem?_getD, List.getElem?_append]
  split
  case isTrue hlt => rw [if_neg (Nat.ne_of_lt hlt)]
  case isFalse hge =>
    split
    case isTrue heq => simp [heq]
    case isFalse hne =>
      rw [List.getElem?_eq_none (by simp; omega), List.getElem?_eq_none (by omega)]

theorem getD_set (items : List α) (a d : α) (b i : Nat) :
    (items.set b a).getD i d = if i = b ∧ b < items.length then a else items.getD i d := by
  rw [List.getD_eq_getElem?_getD, List.getD_eq_getElem?_getD, List.getElem?_set]
  by_cases hi : b = i
  · subst hi
    by_cases hlt : b < items.length <;> simp [hlt]
  · simp [hi, Ne.symm hi]

theorem getD_modify (items : List α) (f : α → α) (d : α) (b i : Nat) :
    (items.modify b f).getD i d =
      if i = b ∧ b < items.length then f (items.getD i d) else items.getD i d := by
  rw [List.getD_eq_getElem?_getD, List.getD_eq_getElem?_getD, List.getElem?_modify]
  by_cases hi : b = i
  · subst hi
    by_cases hlt : b < items.length <;> simp [hlt]
  · simp [hi, Ne.symm hi]

theorem getD_modify_congr {items items' : List α} {d : α} {i : Nat} (hi : i < items.length)
    (hi' : i < items'.length) (h : items.getD i d = items'.getD i d) (f : α → α) (b : Nat) :
    (items.modify b f).getD i d = (items'.modify b f).getD i d := by
  rw [getD_modify, getD_modify, h]
  by_cases heq : i = b
  · subst heq
    rw [if_pos ⟨rfl, hi⟩, if_pos ⟨rfl, hi'⟩]
  · rw [if_neg fun hboth => heq hboth.1, if_neg fun hboth => heq hboth.1]

end Places

variable {K : Type} {V : K → Type}

inductive ForkStep (K : Type) (V : K → Type) where
  | fork (b : Nat)
  | insert (b : Nat) (key : K) (v : V key)
  | edit (b : Nat) (key : K) (f : V key → V key)
  | forget (b : Nat) (key : K)

namespace Forks

def total (bags : List (Bag K fun _ => Nat)) (place : Nat) : Nat :=
  (bags.flatMap Bag.entries).countP fun entry => entry.2 == place

theorem total_append_singleton (bags : List (Bag K fun _ => Nat)) (bag : Bag K fun _ => Nat)
    (place : Nat) : total (bags ++ [bag]) place = total bags place + uses bag place := by
  rw [total, List.flatMap_append, List.countP_append, List.flatMap_singleton]
  rfl

theorem total_cons (bag : Bag K fun _ => Nat) (bags : List (Bag K fun _ => Nat)) (place : Nat) :
    total (bag :: bags) place = uses bag place + total bags place := by
  rw [total, List.flatMap_cons, List.countP_append]
  rfl

theorem total_set (bags : List (Bag K fun _ => Nat)) (bag : Bag K fun _ => Nat) {b : Nat}
    (hb : b < bags.length) (place : Nat) :
    total (bags.set b bag) place + uses (bags.getD b .empty) place =
      total bags place + uses bag place := by
  induction bags generalizing b with
  | nil => cases hb
  | cons first rest ih =>
    cases b with
    | zero =>
      rw [List.set_cons_zero, List.getD_cons_zero, total_cons, total_cons]
      omega
    | succ b =>
      have hrest := ih (Nat.lt_of_succ_lt_succ hb)
      rw [List.set_cons_succ, List.getD_cons_succ, total_cons, total_cons]
      omega

theorem uses_le_total {bags : List (Bag K fun _ => Nat)} {bag : Bag K fun _ => Nat}
    (h : bag ∈ bags) (place : Nat) : uses bag place ≤ total bags place :=
  (List.sublist_flatten_of_mem (List.mem_map_of_mem h)).countP_le

/-- Cells stay in their places with their values; only their holders change. -/
def Stays (cells later : List (Cell K V)) : Prop :=
  ∀ (place : Nat) (cell : Cell K V), cells[place]? = some cell → ∃ holders,
    later[place]? = some { cell with holders }

/-- Cells count their holders, and bags hold cells of the right keys. -/
structure Sound (forks : Forks K V) : Prop where
  counted : ∀ place cell, forks.cells[place]? = some cell →
    total forks.bags place ≤ cell.holders
  typed : ∀ bag ∈ forks.bags, ∀ entry ∈ bag.entries, ∃ cell,
    forks.cells[entry.2]? = some cell ∧ cell.key = entry.1

variable {forks : Forks K V}

theorem held_mem_or_eq (forks : Forks K V) (b : Nat) :
    forks.held b ∈ forks.bags ∨ forks.held b = .empty := by
  rw [held, List.getD_eq_getElem?_getD]
  cases hget : forks.bags[b]? with
  | none => exact .inr rfl
  | some bag => exact .inl (List.mem_of_getElem? hget)

theorem held_of_le {b : Nat} (h : forks.bags.length ≤ b) : forks.held b = .empty := by
  rw [held, List.getD_eq_getElem?_getD, List.getElem?_eq_none h]
  rfl

namespace Sound

theorem typed_held (hs : forks.Sound) (b : Nat) {entry : (_ : K) × Nat}
    (hentry : entry ∈ (forks.held b).entries) :
    ∃ cell, forks.cells[entry.2]? = some cell ∧ cell.key = entry.1 := by
  rcases held_mem_or_eq forks b with hmem | hempty
  · exact hs.typed _ hmem entry hentry
  · rw [hempty] at hentry
    cases hentry

theorem typed_of_stays (hs : forks.Sound) {later : List (Cell K V)} (h : Stays forks.cells later)
    {bag : Bag K fun _ => Nat} (hbag : bag ∈ forks.bags ∨ bag = forks.held b)
    {entry : (_ : K) × Nat} (hentry : entry ∈ bag.entries) :
    ∃ cell, later[entry.2]? = some cell ∧ cell.key = entry.1 := by
  have hcell : ∃ cell, forks.cells[entry.2]? = some cell ∧ cell.key = entry.1 := by
    rcases hbag with hbag | rfl
    · exact hs.typed bag hbag entry hentry
    · exact hs.typed_held b hentry
  obtain ⟨cell, hcell, hkey⟩ := hcell
  obtain ⟨holders, hlater⟩ := h _ _ hcell
  exact ⟨_, hlater, hkey⟩

/-- Where there is no cell, none is held. -/
theorem total_eq_zero (hs : forks.Sound) {place : Nat} (h : forks.cells.length ≤ place) :
    total forks.bags place = 0 := by
  refine List.countP_eq_zero.mpr fun entry hentry heq => ?_
  obtain ⟨bag, hbag, hentry⟩ := List.mem_flatMap.mp hentry
  obtain ⟨cell, hcell, -⟩ := hs.typed bag hbag entry hentry
  rw [beq_iff_eq.mp heq, List.getElem?_eq_none h] at hcell
  cases hcell

end Sound

theorem stays_fork (forks : Forks K V) (b : Nat) : Stays forks.cells (forks.fork b).cells := by
  intro place cell hcell
  exact ⟨cell.holders + uses (forks.held b) place, by simp [fork, hcell]⟩

theorem held_fork (forks : Forks K V) (b b' : Nat) :
    (forks.fork b).held b' = if b' = forks.bags.length then forks.held b else forks.held b' :=
  getD_append_singleton forks.bags (forks.held b) .empty b'

theorem Sound.fork (hs : forks.Sound) (b : Nat) : (forks.fork b).Sound where
  counted place cell hcell := by
    rw [Forks.fork, List.getElem?_mapIdx, Option.map_eq_some_iff] at hcell
    obtain ⟨old, hold, rfl⟩ := hcell
    rw [Forks.fork, total_append_singleton]
    exact Nat.add_le_add_right (hs.counted place old hold) _
  typed bag hbag entry hentry :=
    hs.typed_of_stays (stays_fork forks b)
      ((List.mem_append.mp hbag).imp_right List.mem_singleton.mp) hentry

variable [DecidableEq K]

/-! ### What a bag has -/

def look (forks : Forks K V) (b : Nat) (key : K) : Option (V key) :=
  ((forks.held b).get? key).bind (forks.valueAt? key)

theorem look_of_le {b : Nat} (h : forks.bags.length ≤ b) (key : K) : forks.look b key = none := by
  rw [look, held_of_le h, Bag.get?_empty, Option.bind_none]

theorem lt_length_of_get? {b : Nat} {key : K} {place : Nat}
    (h : (forks.held b).get? key = some place) : b < forks.bags.length := by
  by_contra hge
  rw [held_of_le (Nat.le_of_not_lt hge)] at h
  cases h

namespace Sound

/-- A key of a bag leads to a cell with a value of that key. -/
theorem exists_cell (hs : forks.Sound) {b : Nat} {key : K} {place : Nat}
    (h : (forks.held b).get? key = some place) :
    ∃ cell v, forks.cells[place]? = some cell ∧ cell.key = key ∧ cell.value? key = some v := by
  obtain ⟨cell, hcell, hkey⟩ := hs.typed_held b (Bag.mem_of_get? h)
  dsimp only at hcell hkey
  subst hkey
  exact ⟨cell, cell.value, hcell, rfl, dif_pos rfl⟩

/-- What a bag has does not depend on the holders of its cells. -/
theorem look_of_stays (hs : forks.Sound) {later : Forks K V} (h : Stays forks.cells later.cells)
    {b b' : Nat} {key : K} (hheld : (later.held b').get? key = (forks.held b).get? key) :
    later.look b' key = forks.look b key := by
  rw [look, look, hheld]
  cases hplace : (forks.held b).get? key with
  | none => rfl
  | some place =>
    obtain ⟨cell, -, hcell, -⟩ := hs.exists_cell hplace
    obtain ⟨holders, hlater⟩ := h place cell hcell
    simp only [Option.bind_some, valueAt?, hcell, hlater]
    rfl

/-- The view of a bag shows what the bag has. -/
theorem get?_view (hs : forks.Sound) (b : Nat) (key : K) :
    (forks.view b).get? key = forks.look b key := by
  have hfind : ∀ entries : List ((_ : K) × Nat),
      (∀ entry ∈ entries, ∃ cell, forks.cells[entry.2]? = some cell ∧ cell.key = entry.1) →
      Bag.find? key (entries.filterMap fun entry =>
          (forks.valueAt? entry.1 entry.2).map fun v => (⟨entry.1, v⟩ : (key : K) × V key)) =
        (Bag.find? key entries).bind (forks.valueAt? key) := by
    intro entries
    induction entries with
    | nil => exact fun _ => rfl
    | cons entry rest ih =>
      intro htyped
      obtain ⟨⟨cell, hcell, hkey⟩, hrest⟩ := List.forall_mem_cons.mp htyped
      obtain ⟨other, place⟩ := entry
      dsimp only at hcell hkey
      subst hkey
      have hvalue : forks.valueAt? cell.key place = some cell.value := by
        rw [valueAt?, hcell, Option.bind_some, Cell.value?, dif_pos rfl]
      rw [List.filterMap_cons_some (by rw [hvalue]; rfl), Bag.find?, Bag.find?]
      by_cases heq : cell.key = key
      · subst heq
        rw [dif_pos rfl, dif_pos rfl, Option.bind_some, hvalue]
      · rw [dif_neg heq, dif_neg heq, ih hrest]
  exact hfind _ fun entry hentry => hs.typed_held b hentry

end Sound

theorem look_fork (hs : forks.Sound) (b b' : Nat) (key : K) :
    (forks.fork b).look b' key =
      if b' = forks.bags.length then forks.look b key else forks.look b' key := by
  split
  case isTrue heq =>
    exact hs.look_of_stays (stays_fork forks b) (by rw [held_fork, if_pos heq])
  case isFalse hne =>
    exact hs.look_of_stays (stays_fork forks b) (by rw [held_fork, if_neg hne])

theorem uses_pos {bag : Bag K fun _ => Nat} {key : K} {place : Nat}
    (h : bag.get? key = some place) : 0 < uses bag place :=
  List.countP_pos_iff.mpr ⟨⟨key, place⟩, Bag.mem_of_get? h, beq_self_eq_true place⟩

theorem uses_erase_le (bag : Bag K fun _ => Nat) (key : K) (place : Nat) :
    uses (bag.erase key) place ≤ uses bag place :=
  List.filter_sublist.countP_le

/-- A bag that gives up a value holds its cell less often. -/
theorem uses_erase_lt {bag : Bag K fun _ => Nat} {key : K} {place : Nat}
    (h : bag.get? key = some place) : uses (bag.erase key) place < uses bag place := by
  have hgone : 0 < (bag.entries.filter fun entry => !(entry.1 != key)).countP
      fun entry => entry.2 == place :=
    List.countP_pos_iff.mpr ⟨⟨key, place⟩, List.mem_filter.mpr ⟨Bag.mem_of_get? h, by simp⟩,
      beq_self_eq_true place⟩
  rw [uses, uses, List.countP_eq_countP_filter_add bag.entries _ fun entry => entry.1 != key]
  exact Nat.lt_add_of_pos_right hgone

/-- A cell that counts one holder is held by one bag, under one key. -/
theorem Sound.alone (hs : forks.Sound) {b b' : Nat} {key other : K} {place : Nat} {cell : Cell K V}
    (hcell : forks.cells[place]? = some cell) (hone : cell.holders = 1)
    (h : (forks.held b).get? key = some place) (h' : (forks.held b').get? other = some place) :
    b' = b ∧ other = key := by
  have hkey : other = key := by
    obtain ⟨cell₁, -, hcell₁, hkey₁, -⟩ := hs.exists_cell h
    obtain ⟨cell₂, -, hcell₂, hkey₂, -⟩ := hs.exists_cell h'
    rw [hcell₁] at hcell₂
    cases hcell₂
    exact hkey₂.symm.trans hkey₁
  refine ⟨?_, hkey⟩
  by_contra hne
  -- Without the bag `b` nobody would hold the cell, yet `b'` does.
  have hb := lt_length_of_get? h
  have htotal : _ + uses (forks.held b) place = _ := total_set forks.bags .empty hb place
  have hmem : forks.held b' ∈ forks.bags.set b .empty := by
    have hget : (forks.bags.set b .empty)[b']? = some (forks.held b') := by
      rw [List.getElem?_set_ne (Ne.symm hne), held, List.getD_eq_getElem?_getD,
        List.getElem?_eq_getElem (lt_length_of_get? h'), Option.getD_some]
    exact List.mem_of_getElem? hget
  have hle := uses_le_total hmem place
  have hcounted := hs.counted place cell hcell
  have hpos := uses_pos h
  have hpos' := uses_pos h'
  have hempty : uses (.empty : Bag K fun _ => Nat) place = 0 := rfl
  omega

theorem forget_of_some {b : Nat} {key : K} {place : Nat}
    (h : (forks.held b).get? key = some place) :
    forks.forget b key =
      { cells := forks.cells.modify place fun cell => { cell with holders := cell.holders - 1 }
        bags := forks.bags.set b ((forks.held b).erase key) } := by
  rw [forget, h]

theorem forget_of_none {b : Nat} {key : K} (h : (forks.held b).get? key = none) :
    forks.forget b key = forks := by
  rw [forget, h]

theorem length_forget (forks : Forks K V) (b : Nat) (key : K) :
    (forks.forget b key).bags.length = forks.bags.length := by
  rw [forget]
  split
  · exact List.length_set
  · rfl

theorem stays_forget (forks : Forks K V) (b : Nat) (key : K) :
    Stays forks.cells (forks.forget b key).cells := by
  intro place cell hcell
  cases hheld : (forks.held b).get? key with
  | none => exact ⟨cell.holders, by rw [forget_of_none hheld, hcell]⟩
  | some other =>
    rw [forget_of_some hheld, List.getElem?_modify, hcell]
    by_cases heq : other = place
    · exact ⟨cell.holders - 1, by simp [heq]⟩
    · exact ⟨cell.holders, by simp [heq]⟩

theorem Sound.forget (hs : forks.Sound) (b : Nat) (key : K) : (forks.forget b key).Sound := by
  cases hheld : (forks.held b).get? key with
  | none => rwa [forget_of_none hheld]
  | some place =>
    have hstays := stays_forget forks b key
    rw [forget_of_some hheld] at hstays ⊢
    constructor
    case counted =>
      intro p cell hcell
      have htotal : _ + uses (forks.held b) p = _ :=
        total_set forks.bags ((forks.held b).erase key) (lt_length_of_get? hheld) p
      have hle := uses_erase_le (forks.held b) key p
      rw [List.getElem?_modify, Option.map_eq_map, Option.map_eq_some_iff] at hcell
      obtain ⟨old, hold, rfl⟩ := hcell
      have hcounted := hs.counted p old hold
      show total (forks.bags.set b _) p ≤ _
      split
      case isTrue heq =>
        have hlt := uses_erase_lt (heq ▸ hheld)
        show _ ≤ old.holders - 1
        omega
      case isFalse => omega
    case typed =>
      intro bag hbag entry hentry
      rcases List.mem_or_eq_of_mem_set hbag with hbag | rfl
      · exact hs.typed_of_stays (b := b) hstays (.inl hbag) hentry
      · exact hs.typed_of_stays hstays (.inr rfl) (List.mem_of_mem_filter hentry)

theorem look_forget_self (forks : Forks K V) (b : Nat) (key : K) :
    (forks.forget b key).look b key = none := by
  cases hheld : (forks.held b).get? key with
  | none => rw [forget_of_none hheld, look, hheld, Option.bind_none]
  | some place =>
    rw [forget_of_some hheld, look, held, getD_set, if_pos ⟨rfl, lt_length_of_get? hheld⟩,
      Bag.get?_erase_self, Option.bind_none]

theorem look_forget_of_ne (hs : forks.Sound) {b b' : Nat} {key other : K}
    (hne : b' ≠ b ∨ other ≠ key) : (forks.forget b key).look b' other = forks.look b' other := by
  refine hs.look_of_stays (stays_forget forks b key) ?_
  cases hheld : (forks.held b).get? key with
  | none => rw [forget_of_none hheld]
  | some place =>
    rw [forget_of_some hheld, held, getD_set]
    split
    case isTrue heq => rw [heq.1, Bag.get?_erase_of_ne _ (hne.resolve_left (absurd heq.1))]
    case isFalse => rfl

theorem stays_put (forks : Forks K V) (b : Nat) (key : K) (v : V key) :
    Stays forks.cells (forks.put b key v).cells := by
  intro place cell hcell
  have hlt := (List.getElem?_eq_some_iff.mp hcell).1
  exact ⟨cell.holders, by rw [put, List.getElem?_append_left hlt, hcell]⟩

theorem uses_insert (bag : Bag K fun _ => Nat) (key : K) (place p : Nat) :
    uses (bag.insert key place) p = uses (bag.erase key) p + if place = p then 1 else 0 := by
  simp [uses, Bag.insert, List.countP_append, List.countP_cons]

theorem Sound.put (hs : forks.Sound) (b : Nat) (key : K) (v : V key) :
    (forks.put b key v).Sound := by
  constructor
  case counted =>
    intro p cell hcell
    have htotal : total (forks.put b key v).bags p ≤
        total forks.bags p + if forks.cells.length = p then 1 else 0 := by
      by_cases hb : b < forks.bags.length
      · have hset : _ + uses (forks.held b) p = _ :=
          total_set forks.bags ((forks.held b).insert key forks.cells.length) hb p
        rw [uses_insert] at hset
        have hle := uses_erase_le (forks.held b) key p
        show total (forks.bags.set b _) p ≤ _
        omega
      · show total (forks.bags.set b _) p ≤ _
        rw [List.set_eq_of_length_le (Nat.le_of_not_lt hb)]
        exact Nat.le_add_right _ _
    rw [Forks.put, List.getElem?_append] at hcell
    split at hcell
    case isTrue hlt =>
      have hcounted := hs.counted p cell hcell
      rw [if_neg (Nat.ne_of_gt hlt)] at htotal
      omega
    case isFalse hge =>
      have hholders : cell.holders = 1 := by
        obtain ⟨-, rfl⟩ := List.getElem?_eq_some_iff.mp hcell
        rw [List.getElem_singleton]
      rw [hs.total_eq_zero (Nat.le_of_not_lt hge)] at htotal
      split at htotal <;> omega
  case typed =>
    intro bag hbag entry hentry
    rcases List.mem_or_eq_of_mem_set hbag with hbag | rfl
    · exact hs.typed_of_stays (b := b) (stays_put forks b key v) (.inl hbag) hentry
    · rcases List.mem_append.mp hentry with hentry | hentry
      · exact hs.typed_of_stays (stays_put forks b key v) (.inr rfl) (List.mem_of_mem_filter hentry)
      · rw [List.mem_singleton.mp hentry]
        exact ⟨⟨key, v, 1⟩, List.getElem?_concat_length, rfl⟩

theorem look_put_self (forks : Forks K V) {b : Nat} (hb : b < forks.bags.length) (key : K)
    (v : V key) : (forks.put b key v).look b key = some v := by
  rw [look, put, held, getD_set, if_pos ⟨rfl, hb⟩, Bag.get?_insert_self, Option.bind_some, valueAt?,
    List.getElem?_concat_length, Option.bind_some, Cell.value?, dif_pos rfl]

theorem look_put_of_ne (hs : forks.Sound) {b b' : Nat} {key other : K} (v : V key)
    (hne : b' ≠ b ∨ other ≠ key) : (forks.put b key v).look b' other = forks.look b' other := by
  refine hs.look_of_stays (stays_put forks b key v) ?_
  rw [put, held, getD_set]
  split
  case isTrue heq => rw [heq.1, Bag.get?_insert_of_ne _ _ (hne.resolve_left (absurd heq.1))]
  case isFalse => rfl

theorem Sound.insert (hs : forks.Sound) (b : Nat) (key : K) (v : V key) :
    (forks.insert b key v).Sound :=
  (hs.forget b key).put b key v

theorem length_insert (forks : Forks K V) (b : Nat) (key : K) (v : V key) :
    (forks.insert b key v).bags.length = forks.bags.length :=
  List.length_set.trans (length_forget forks b key)

theorem look_insert_self (forks : Forks K V) {b : Nat} (hb : b < forks.bags.length) (key : K)
    (v : V key) : (forks.insert b key v).look b key = some v :=
  look_put_self _ (by rwa [length_forget]) key v

theorem look_insert_of_ne (hs : forks.Sound) {b b' : Nat} {key other : K} (v : V key)
    (hne : b' ≠ b ∨ other ≠ key) : (forks.insert b key v).look b' other = forks.look b' other := by
  rw [insert, look_put_of_ne (hs.forget b key) v hne, look_forget_of_ne hs hne]

theorem edit_of_none (hs : forks.Sound) {b : Nat} {key : K} (h : forks.look b key = none)
    (f : V key → V key) : forks.edit b key f = forks := by
  cases hheld : (forks.held b).get? key with
  | none => rw [edit, hheld]
  | some place =>
    obtain ⟨cell, v, hcell, -, hv⟩ := hs.exists_cell hheld
    rw [look, hheld, Option.bind_some, valueAt?, hcell, Option.bind_some, hv] at h
    cases h

/-- A value is changed in its cell if nobody else holds that; else the bag gets a new one. -/
theorem edit_of_some (hs : forks.Sound) {b : Nat} {key : K} {v : V key}
    (h : forks.look b key = some v) (f : V key → V key) :
    (∃ place cell, (forks.held b).get? key = some place ∧ forks.cells[place]? = some cell ∧
      cell.key = key ∧ cell.holders = 1 ∧
      forks.edit b key f = { forks with cells := forks.cells.set place ⟨key, f v, 1⟩ }) ∨
    forks.edit b key f = forks.insert b key (f v) := by
  cases hheld : (forks.held b).get? key with
  | none =>
    rw [look, hheld] at h
    cases h
  | some place =>
    obtain ⟨cell, w, hcell, hkey, hw⟩ := hs.exists_cell hheld
    rw [look, hheld, Option.bind_some, valueAt?, hcell, Option.bind_some] at h
    by_cases hone : cell.holders = 1
    · refine .inl ⟨place, cell, rfl, hcell, hkey, hone, ?_⟩
      rw [edit, hheld]
      simp only [hcell, Cell.change, h, hone, if_true]
    · refine .inr ?_
      rw [edit, hheld]
      simp only [hcell, if_neg hone, h]

theorem Sound.edit (hs : forks.Sound) (b : Nat) (key : K) (f : V key → V key) :
    (forks.edit b key f).Sound := by
  cases hlook : forks.look b key with
  | none => rwa [edit_of_none hs hlook]
  | some v =>
    obtain ⟨place, cell, -, hcell, hkey, hone, hedit⟩ | hedit := edit_of_some hs hlook f
    · have hlt := (List.getElem?_eq_some_iff.mp hcell).1
      rw [hedit]
      constructor
      case counted =>
        intro p new hnew
        rw [List.getElem?_set, if_pos hlt] at hnew
        split at hnew
        case isTrue heq =>
          cases hnew
          exact hone ▸ hs.counted p cell (heq ▸ hcell)
        case isFalse => exact hs.counted p new hnew
      case typed =>
        intro bag hbag entry hentry
        obtain ⟨old, hold, holdKey⟩ := hs.typed bag hbag entry hentry
        by_cases heq : place = entry.2
        · rw [← heq, hcell] at hold
          cases hold
          exact ⟨⟨key, f v, 1⟩, by rw [← heq, List.getElem?_set_self hlt], hkey.symm.trans holdKey⟩
        · exact ⟨old, by rw [List.getElem?_set_ne heq, hold], holdKey⟩
    · rw [hedit]
      exact hs.insert b key (f v)

theorem length_edit (hs : forks.Sound) (b : Nat) (key : K) (f : V key → V key) :
    (forks.edit b key f).bags.length = forks.bags.length := by
  cases hlook : forks.look b key with
  | none => rw [edit_of_none hs hlook]
  | some v =>
    obtain ⟨place, cell, -, -, -, -, hedit⟩ | hedit := edit_of_some hs hlook f
    · rw [hedit]
    · rw [hedit, length_insert]

theorem look_edit_self (hs : forks.Sound) (b : Nat) (key : K) (f : V key → V key) :
    (forks.edit b key f).look b key = (forks.look b key).map f := by
  cases hlook : forks.look b key with
  | none => rw [edit_of_none hs hlook, hlook, Option.map_none]
  | some v =>
    obtain ⟨place, cell, hheld, hcell, -, -, hedit⟩ | hedit := edit_of_some hs hlook f
    · have hlt := (List.getElem?_eq_some_iff.mp hcell).1
      rw [hedit]
      show ((forks.held b).get? key).bind _ = _
      rw [hheld, Option.bind_some, valueAt?, List.getElem?_set_self hlt, Option.bind_some,
        Cell.value?, dif_pos rfl, Option.map_some]
    · have hb : b < forks.bags.length := by
        by_contra hge
        rw [look_of_le (Nat.le_of_not_lt hge)] at hlook
        cases hlook
      rw [hedit, look_insert_self forks hb, Option.map_some]

theorem look_edit_of_ne (hs : forks.Sound) {b b' : Nat} {key other : K} (f : V key → V key)
    (hne : b' ≠ b ∨ other ≠ key) : (forks.edit b key f).look b' other = forks.look b' other := by
  cases hlook : forks.look b key with
  | none => rw [edit_of_none hs hlook]
  | some v =>
    obtain ⟨place, cell, hheld, hcell, -, hone, hedit⟩ | hedit := edit_of_some hs hlook f
    · rw [hedit]
      show ((forks.held b').get? other).bind _ = _
      rw [look]
      cases hheld' : (forks.held b').get? other with
      | none => rfl
      | some p =>
        have hplace : place ≠ p := by
          rintro rfl
          obtain ⟨hb, hkey⟩ := hs.alone hcell hone hheld hheld'
          exact hne.elim (absurd hb) (absurd hkey)
        rw [Option.bind_some, Option.bind_some, valueAt?, valueAt?, List.getElem?_set_ne hplace]
    · rw [hedit, look_insert_of_ne hs (f v) hne]

end Forks

/-! ### Bags that share nothing -/

namespace ForkStep

variable [DecidableEq K]

def shared (forks : Forks K V) : ForkStep K V → Forks K V
  | fork b => forks.fork b
  | insert b key v => forks.insert b key v
  | edit b key f => forks.edit b key f
  | forget b key => forks.forget b key

def apart (bags : List (Bag K V)) : ForkStep K V → List (Bag K V)
  | fork b => bags ++ [bags.getD b .empty]
  | insert b key v => bags.modify b fun bag => bag.insert key v
  | edit b key f => bags.modify b fun bag =>
    match bag.get? key with
    | some v => bag.insert key (f v)
    | none => bag
  | forget b key => bags.modify b fun bag => bag.erase key

def bag : ForkStep K V → Nat
  | fork b => b
  | insert b _ _ => b
  | edit b _ _ => b
  | forget b _ => b

theorem length_le_apart (bags : List (Bag K V)) (step : ForkStep K V) :
    bags.length ≤ (step.apart bags).length := by
  cases step <;> simp [apart]

theorem getD_apart {bags : List (Bag K V)} {step : ForkStep K V} {b : Nat} (hb : b < bags.length)
    (hne : b ≠ step.bag) : (step.apart bags).getD b .empty = bags.getD b .empty := by
  cases step with
  | fork other => rw [apart, getD_append_singleton, if_neg (Nat.ne_of_lt hb)]
  | insert other key v => rw [apart, getD_modify, if_neg fun h => hne h.1]
  | edit other key f => rw [apart, getD_modify, if_neg fun h => hne h.1]
  | forget other key => rw [apart, getD_modify, if_neg fun h => hne h.1]

/-- Steps at other bags leave a bag as it is. -/
theorem getD_foldl_apart {bags : List (Bag K V)} {steps : List (ForkStep K V)} {b : Nat}
    (hb : b < bags.length) (hne : ∀ step ∈ steps, b ≠ step.bag) :
    (steps.foldl apart bags).getD b .empty = bags.getD b .empty := by
  induction steps generalizing bags with
  | nil => rfl
  | cons step rest ih =>
    obtain ⟨hstep, hrest⟩ := List.forall_mem_cons.mp hne
    rw [List.foldl_cons, ih (Nat.lt_of_lt_of_le hb (length_le_apart bags step)) hrest,
      getD_apart hb hstep]

/-- A step at a bag leads from equal bags to equal bags. -/
theorem getD_apart_congr {bags bags' : List (Bag K V)} {b : Nat} (hb : b < bags.length)
    (hb' : b < bags'.length) (h : bags.getD b .empty = bags'.getD b .empty)
    (step : ForkStep K V) :
    (step.apart bags).getD b .empty = (step.apart bags').getD b .empty := by
  cases step with
  | fork other =>
    rw [apart, apart, getD_append_singleton, getD_append_singleton, if_neg (Nat.ne_of_lt hb),
      if_neg (Nat.ne_of_lt hb'), h]
  | insert other key v => exact getD_modify_congr hb hb' h _ other
  | edit other key f => exact getD_modify_congr hb hb' h _ other
  | forget other key => exact getD_modify_congr hb hb' h _ other

/-- What becomes of a bag is what its own steps make of it. -/
theorem getD_foldl_own {bags bags' : List (Bag K V)} {b : Nat} (hb : b < bags.length)
    (hb' : b < bags'.length) (h : bags.getD b .empty = bags'.getD b .empty)
    (steps : List (ForkStep K V)) :
    (steps.foldl apart bags).getD b .empty =
      ((steps.filter fun step => step.bag == b).foldl apart bags').getD b .empty := by
  induction steps generalizing bags bags' with
  | nil => exact h
  | cons step rest ih =>
    have hlater := Nat.lt_of_lt_of_le hb (length_le_apart bags step)
    by_cases hown : step.bag = b
    · rw [List.filter_cons_of_pos (by simpa using hown)]
      exact ih hlater (Nat.lt_of_lt_of_le hb' (length_le_apart bags' step))
        (getD_apart_congr hb hb' h step)
    · rw [List.filter_cons_of_neg (by simpa using hown)]
      exact ih hlater hb' ((getD_apart hb (Ne.symm hown)).trans h)

end ForkStep

namespace Forks

variable [DecidableEq K]

/-- Bags that share cells look like others that share nothing. -/
structure Shows (forks : Forks K V) (bags : List (Bag K V)) : Prop where
  sound : forks.Sound
  length : forks.bags.length = bags.length
  look : ∀ b key, forks.look b key = (bags.getD b .empty).get? key

namespace Shows

variable {forks : Forks K V} {bags : List (Bag K V)}

theorem start : (Forks.start : Forks K V).Shows [.empty] where
  sound := ⟨nofun, by simp [Forks.start, Bag.empty]⟩
  length := rfl
  look b key := by
    cases b <;> rfl

theorem fork (h : forks.Shows bags) (b : Nat) :
    (forks.fork b).Shows (bags ++ [bags.getD b .empty]) where
  sound := h.sound.fork b
  length := by simp [Forks.fork, h.length]
  look b' key := by
    rw [look_fork h.sound, getD_append_singleton, h.length]
    split
    · exact h.look b key
    · exact h.look b' key

/-- A step at one key of one bag is right if it is right there and changes nothing else. -/
theorem at_key (h : forks.Shows bags) {later : Forks K V} (hsound : later.Sound)
    (hlength : later.bags.length = forks.bags.length) (b : Nat) (key : K)
    (f : Bag K V → Bag K V)
    (hself : b < forks.bags.length → later.look b key = (f (bags.getD b .empty)).get? key)
    (hother : ∀ b' other, b' ≠ b ∨ other ≠ key → later.look b' other = forks.look b' other)
    (hf : ∀ bag other, other ≠ key → (f bag).get? other = bag.get? other) :
    later.Shows (bags.modify b f) where
  sound := hsound
  length := by rw [hlength, h.length, List.length_modify]
  look b' other := by
    rw [getD_modify, ← h.length]
    split
    case isTrue heq =>
      obtain ⟨rfl, hb⟩ := heq
      by_cases hkey : other = key
      · subst hkey
        exact hself hb
      · rw [hf _ _ hkey, ← h.look, hother _ _ (.inr hkey)]
    case isFalse hne =>
      rw [← h.look]
      by_cases hb : b' = b
      · have hge : forks.bags.length ≤ b' := by
          subst hb
          exact Nat.le_of_not_lt fun hlt => hne ⟨rfl, hlt⟩
        rw [look_of_le hge, look_of_le (hlength ▸ hge)]
      · exact hother _ _ (.inl hb)

theorem forget (h : forks.Shows bags) (b : Nat) (key : K) :
    (forks.forget b key).Shows (bags.modify b fun bag => bag.erase key) :=
  h.at_key (h.sound.forget b key) (length_forget forks b key) b key _
    (fun _ => by rw [look_forget_self, Bag.get?_erase_self])
    (fun _ _ hne => look_forget_of_ne h.sound hne)
    fun bag _ hne => bag.get?_erase_of_ne hne

theorem insert (h : forks.Shows bags) (b : Nat) (key : K) (v : V key) :
    (forks.insert b key v).Shows (bags.modify b fun bag => bag.insert key v) :=
  h.at_key (h.sound.insert b key v) (length_insert forks b key v) b key _
    (fun hb => by rw [look_insert_self forks hb, Bag.get?_insert_self])
    (fun _ _ hne => look_insert_of_ne h.sound v hne)
    fun bag _ hne => bag.get?_insert_of_ne v hne

theorem edit (h : forks.Shows bags) (b : Nat) (key : K) (f : V key → V key) :
    (forks.edit b key f).Shows (bags.modify b fun bag =>
      match bag.get? key with
      | some v => bag.insert key (f v)
      | none => bag) := by
  refine h.at_key (h.sound.edit b key f) (length_edit h.sound b key f) b key _ (fun _ => ?_)
    (fun _ _ hne => look_edit_of_ne h.sound f hne) fun bag other hne => ?_
  · rw [look_edit_self h.sound, h.look]
    cases hget : (bags.getD b .empty).get? key with
    | none => rw [hget]; rfl
    | some v => rw [Bag.get?_insert_self]; rfl
  · cases bag.get? key with
    | none => rfl
    | some v => exact bag.get?_insert_of_ne _ hne

theorem step (h : forks.Shows bags) (step : ForkStep K V) :
    (step.shared forks).Shows (step.apart bags) := by
  cases step with
  | fork b => exact h.fork b
  | insert b key v => exact h.insert b key v
  | edit b key f => exact h.edit b key f
  | forget b key => exact h.forget b key

theorem foldl (h : forks.Shows bags) (steps : List (ForkStep K V)) :
    (steps.foldl ForkStep.shared forks).Shows (steps.foldl ForkStep.apart bags) := by
  induction steps generalizing forks bags with
  | nil => exact h
  | cons step rest ih => exact ih (h.step step)

end Shows

/-- Whatever is done to others meanwhile, a bag has what its own steps make of it. -/
theorem get?_view_own (before during : List (ForkStep K V)) {b : Nat}
    (hb : b < (before.foldl ForkStep.shared .start).bags.length) (key : K) :
    let forks := before.foldl ForkStep.shared .start
    ((during.foldl ForkStep.shared forks).view b).get? key =
      (((during.filter fun step => step.bag == b).foldl ForkStep.shared forks).view b).get?
        key := by
  intro forks
  have hforks := Shows.start.foldl before
  have hall := hforks.foldl during
  have hown := hforks.foldl (during.filter fun step => step.bag == b)
  rw [hforks.length] at hb
  rw [hall.sound.get?_view, hown.sound.get?_view, hall.look, hown.look]
  exact congrArg (Bag.get? · key) (ForkStep.getD_foldl_own hb hb rfl during)

/-- Whatever is done to a fork and to others, the next fork of a bag is what the bag was. -/
theorem get?_view_fork_again (before during : List (ForkStep K V)) {b : Nat}
    (hb : b < (before.foldl ForkStep.shared .start).bags.length)
    (hne : ∀ step ∈ during, b ≠ step.bag) (key : K) :
    let forks := before.foldl ForkStep.shared .start
    let after := during.foldl ForkStep.shared (forks.fork b)
    ((after.fork b).view after.bags.length).get? key = (forks.view b).get? key := by
  intro forks after
  have hforks := Shows.start.foldl before
  have hafter := (hforks.fork b).foldl during
  have hlt : b < ((before.foldl ForkStep.apart [.empty]) ++
      [(before.foldl ForkStep.apart [.empty]).getD b .empty]).length := by
    rw [List.length_append, ← hforks.length]
    exact Nat.lt_add_right 1 hb
  rw [(hafter.sound.fork b).get?_view, look_fork hafter.sound, if_pos rfl, hafter.look,
    ForkStep.getD_foldl_apart hlt hne, getD_append_singleton,
    if_neg (by rw [← hforks.length]; exact Nat.ne_of_lt hb), ← hforks.look,
    hforks.sound.get?_view]

end Forks

end StagedFlow
