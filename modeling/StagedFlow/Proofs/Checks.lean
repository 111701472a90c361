import Mathlib.Data.List.Forall2

/-!
# Checks one after another

A list of checks passes if each of them does, and gives what they give, in their order. If it
fails, it fails as the first check that fails does.
-/

namespace StagedFlow

variable {ε α β : Type}

theorem map_eq_ok_iff {result : Except ε α} {f : α → β} {b : β} :
    result.map f = .ok b ↔ ∃ a, result = .ok a ∧ f a = b := by
  cases result <;> simp [Except.map]

theorem map_eq_error_iff {result : Except ε α} {f : α → β} {e : ε} :
    result.map f = .error e ↔ result = .error e := by
  cases result <;> simp [Except.map]

theorem mapM_eq_ok_iff (f : α → Except ε β) (items : List α) (results : List β) :
    items.mapM f = .ok results ↔ List.Forall₂ (fun a b => f a = .ok b) items results := by
  induction items generalizing results with
  | nil =>
    rw [List.mapM_nil, List.forall₂_nil_left_iff]
    exact ⟨fun h => (Except.ok.inj h).symm, fun h => congrArg Except.ok h.symm⟩
  | cons a rest ih =>
    rw [List.mapM_cons, List.forall₂_cons_left_iff]
    constructor
    · intro h
      cases ha : f a with
      | error e => rw [ha] at h; cases h
      | ok b =>
        cases hrest : rest.mapM f with
        | error e => rw [ha, hrest] at h; cases h
        | ok bs =>
          rw [ha, hrest] at h
          exact ⟨b, bs, rfl, (ih bs).mp hrest, (Except.ok.inj h).symm⟩
    · rintro ⟨b, bs, ha, hrest, rfl⟩
      rw [ha, (ih bs).mpr hrest]
      rfl

/-- Checks that each pass, pass. -/
theorem exists_mapM_eq_ok {f : α → Except ε β} {items : List α}
    (h : ∀ a ∈ items, ∃ b, f a = .ok b) :
    ∃ results, List.Forall₂ (fun a b => f a = .ok b) items results := by
  induction items with
  | nil => exact ⟨[], .nil⟩
  | cons a rest ih =>
    obtain ⟨b, hb⟩ := h a List.mem_cons_self
    obtain ⟨bs, hbs⟩ := ih fun a ha => h a (List.mem_cons_of_mem _ ha)
    exact ⟨b :: bs, .cons hb hbs⟩

theorem exists_mapM_eq_ok_iff {f : α → Except ε β} {items : List α} :
    (∃ results, items.mapM f = .ok results) ↔ ∀ a ∈ items, ∃ b, f a = .ok b := by
  simp only [mapM_eq_ok_iff]
  refine ⟨?_, exists_mapM_eq_ok⟩
  rintro ⟨results, h⟩
  induction h with
  | nil => exact List.forall_mem_nil _
  | cons hfirst _ ih => exact List.forall_mem_cons.mpr ⟨⟨_, hfirst⟩, ih⟩

/-- An item of a list is its first one or comes later. -/
theorem exists_cons_eq_append {P : List α → α → Prop} (first : α) (rest : List α) :
    (∃ before a after, first :: rest = before ++ a :: after ∧ P before a) ↔
      P [] first ∨ ∃ before a after, rest = before ++ a :: after ∧ P (first :: before) a := by
  constructor
  · rintro ⟨before, a, after, hsplit, h⟩
    cases before with
    | nil =>
      cases hsplit
      exact .inl h
    | cons b before =>
      cases hsplit
      exact .inr ⟨before, a, after, rfl, h⟩
  · rintro (h | ⟨before, a, after, rfl, h⟩)
    · exact ⟨[], first, rest, rfl, h⟩
    · exact ⟨first :: before, a, after, rfl, h⟩

def IsFirst (P : α → Prop) (items : List α) (a : α) : Prop :=
  ∃ before after, items = before ++ a :: after ∧ P a ∧ ∀ b ∈ before, ¬ P b

namespace IsFirst

variable {P : α → Prop} {items : List α} {a : α}

theorem not_nil : ¬ IsFirst P [] a := by
  rintro ⟨before, after, hsplit, -⟩
  cases before <;> cases hsplit

theorem mem (h : IsFirst P items a) : a ∈ items := by
  obtain ⟨before, after, rfl, -⟩ := h
  exact List.mem_append_right _ List.mem_cons_self

theorem holds (h : IsFirst P items a) : P a := by
  obtain ⟨-, -, -, ha, -⟩ := h
  exact ha

theorem cons_iff {b : α} : IsFirst P (b :: items) a ↔ P b ∧ a = b ∨ ¬ P b ∧ IsFirst P items a := by
  constructor
  · rintro ⟨before, after, hsplit, ha, hbefore⟩
    cases before with
    | nil =>
      cases hsplit
      exact .inl ⟨ha, rfl⟩
    | cons c before =>
      cases hsplit
      obtain ⟨hb, hbefore⟩ := List.forall_mem_cons.mp hbefore
      exact .inr ⟨hb, before, after, rfl, ha, hbefore⟩
  · rintro (⟨hb, rfl⟩ | ⟨hb, before, after, rfl, ha, hbefore⟩)
    · exact ⟨[], items, rfl, hb, List.forall_mem_nil _⟩
    · exact ⟨b :: before, after, rfl, ha, List.forall_mem_cons.mpr ⟨hb, hbefore⟩⟩

theorem eq {b : α} (h : IsFirst P items a) (hb : IsFirst P items b) : a = b := by
  induction items with
  | nil => exact absurd h not_nil
  | cons c rest ih =>
    rcases cons_iff.mp h with ⟨hc, rfl⟩ | ⟨hc, h⟩ <;>
      rcases cons_iff.mp hb with ⟨hother, rfl⟩ | ⟨hother, hb⟩
    · rfl
    · exact absurd hc hother
    · exact absurd hother hc
    · exact ih h hb

/-- What a search finds. -/
theorem find?_eq_some_iff (p : α → Bool) :
    items.find? p = some a ↔ IsFirst (p · = true) items a := by
  rw [List.find?_eq_some_iff_append]
  simp only [Bool.not_eq_true', Bool.not_eq_true, IsFirst]
  exact ⟨fun ⟨ha, before, after, hsplit, hbefore⟩ => ⟨before, after, hsplit, ha, hbefore⟩,
    fun ⟨before, after, hsplit, ha, hbefore⟩ => ⟨ha, before, after, hsplit, hbefore⟩⟩

end IsFirst

theorem mapM_cons_eq_error_iff (f : α → Except ε β) (a : α) (rest : List α) (e : ε) :
    (a :: rest).mapM f = .error e ↔
      f a = .error e ∨ (∃ b, f a = .ok b) ∧ rest.mapM f = .error e := by
  rw [List.mapM_cons]
  cases f a with
  | error e' => simp [bind, Except.bind]
  | ok b => cases rest.mapM f <;> simp [bind, Except.bind, pure, Except.pure]

theorem mapM_eq_error_iff (f : α → Except ε β) (items : List α) (e : ε) :
    items.mapM f = .error e ↔
      ∃ a, IsFirst (fun a => ∃ e, f a = .error e) items a ∧ f a = .error e := by
  induction items with
  | nil => exact ⟨nofun, fun ⟨_, hfirst, _⟩ => absurd hfirst IsFirst.not_nil⟩
  | cons a rest ih =>
    have hok : (∃ b, f a = .ok b) ↔ ¬ ∃ e, f a = .error e := by
      cases f a <;> simp
    rw [mapM_cons_eq_error_iff, hok, ih]
    simp only [IsFirst.cons_iff]
    constructor
    · rintro (ha | ⟨ha, b, hfirst, hb⟩)
      · exact ⟨a, .inl ⟨⟨e, ha⟩, rfl⟩, ha⟩
      · exact ⟨b, .inr ⟨ha, hfirst⟩, hb⟩
    · rintro ⟨b, ⟨-, rfl⟩ | ⟨ha, hfirst⟩, hb⟩
      · exact .inl hb
      · exact .inr ⟨ha, b, hfirst, hb⟩

end StagedFlow
