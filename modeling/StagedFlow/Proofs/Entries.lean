import Mathlib.Data.List.Nodup
import StagedFlow.Record.Basic

/-!
# What reads as a record

A record is read from an object, or from a list that gives its fields in their order. Either way
the value comes to a list of entries. A strict record is one that refuses entries which it does not
know, and whose fields may be missing from an object where they may be missing from a list. It
accepts the same entries in both forms, and keeps all of them.
-/

namespace StagedFlow

/-- The entries of a value: the fields of an object, or the items of a list under names in their
order, of which none may be left without a name. -/
def Json.entries? (names : List String) : Json → Option (List (String × Json))
  | .obj fields => some fields
  | .arr items => if items.length ≤ names.length then some (names.zip items) else none
  | _ => none

theorem Json.exists_lookup_iff (name : String) (entries : List (String × Json)) :
    (∃ v, lookup name entries = some v) ↔ name ∈ entries.map Prod.fst := by
  induction entries with
  | nil => exact ⟨nofun, nofun⟩
  | cons entry rest ih =>
    obtain ⟨key, v⟩ := entry
    rw [lookup, List.map_cons, List.mem_cons, ← ih]
    by_cases hkey : key = name
    · simp [hkey]
    · simp [hkey, Ne.symm hkey]

theorem map_fst_zip_eq_take {α β : Type} (as : List α) (bs : List β) :
    (as.zip bs).map Prod.fst = as.take bs.length := by
  induction as generalizing bs with
  | nil => simp
  | cons a as ih => cases bs <;> simp [ih]

namespace Record

/-- The record refuses what it does not know, has distinct fields, and a field has a default exactly
if it may be missing. -/
structure Strict (record : Record) : Prop where
  closed : record.closed = true
  nodup : (record.fields.map Field.name).Nodup
  defaults : ∀ field ∈ record.fields, field.optional = field.hasDefault

structure Accepts (record : Record) (entries : List (String × Json)) : Prop where
  known : ∀ entry ∈ entries, ∃ field ∈ record.fields,
    field.name = entry.1 ∧ field.check entry.2 = none
  complete : ∀ field ∈ record.fields, field.optional = false →
    ∃ v, Json.lookup field.name entries = some v

theorem accepts_iff (record : Record) (entries : List (String × Json)) :
    record.Accepts entries ↔
      (∀ entry ∈ entries, ∃ field ∈ record.fields,
        field.name = entry.1 ∧ field.check entry.2 = none) ∧
      ∀ field ∈ record.fields, field.optional = false →
        ∃ v, Json.lookup field.name entries = some v :=
  ⟨fun h => ⟨h.known, h.complete⟩, fun h => ⟨h.1, h.2⟩⟩

variable {record : Record} {entries result : List (String × Json)}

namespace Strict

theorem eq_of_name (h : record.Strict) {field other : Field} (hfield : field ∈ record.fields)
    (hother : other ∈ record.fields) (hname : field.name = other.name) : field = other :=
  List.inj_on_of_nodup_map h.nodup hfield hother hname

theorem find?_eq_some_iff (h : record.Strict) {name : String} {field : Field} :
    record.find? name = some field ↔ field ∈ record.fields ∧ field.name = name := by
  constructor
  · intro hfind
    exact ⟨List.mem_of_find?_eq_some hfind, by simpa using List.find?_some hfind⟩
  · rintro ⟨hfield, rfl⟩
    cases hfind : record.find? field.name with
    | none => exact absurd (beq_self_eq_true _) (List.find?_eq_none.mp hfind field hfield)
    | some other =>
      have hname : other.name = field.name := by simpa using List.find?_some hfind
      rw [h.eq_of_name (List.mem_of_find?_eq_some hfind) hfield hname]

theorem firstFault?_eq_none_iff (h : record.Strict) :
    record.firstFault? entries = none ↔ ∀ entry ∈ entries, ∃ field ∈ record.fields,
      field.name = entry.1 ∧ field.check entry.2 = none := by
  induction entries with
  | nil => exact iff_of_true rfl (List.forall_mem_nil _)
  | cons entry rest ih =>
    obtain ⟨name, v⟩ := entry
    rw [List.forall_mem_cons, ← ih, firstFault?]
    cases hfind : record.find? name with
    | none =>
      refine ⟨fun hfault => ?_, fun ⟨⟨field, hfield, hname, _⟩, _⟩ => ?_⟩
      · simp only [h.closed, if_true] at hfault
        cases hfault
      · rw [h.find?_eq_some_iff.mpr ⟨hfield, hname⟩] at hfind
        cases hfind
    | some field =>
      obtain ⟨hfield, hname⟩ := h.find?_eq_some_iff.mp hfind
      have hpasses : (∃ other ∈ record.fields, other.name = name ∧ other.check v = none) ↔
          field.check v = none := by
        constructor
        · rintro ⟨other, hother, heq, hcheck⟩
          rwa [h.eq_of_name hfield hother (hname.trans heq.symm)]
        · intro hcheck
          exact ⟨field, hfield, hname, hcheck⟩
      rw [hpasses]
      cases hcheck : field.check v with
      | none => simp [hcheck]
      | some fault => simp [hcheck]

theorem readObject_eq_ok_iff (h : record.Strict) :
    record.readObject entries = .ok result ↔ record.Accepts entries ∧ result = entries := by
  rw [readObject]
  cases hfault : record.firstFault? entries with
  | some fault =>
    refine ⟨nofun, fun hok => ?_⟩
    rw [h.firstFault?_eq_none_iff.mpr hok.1.known] at hfault
    cases hfault
  | none =>
    have hknown := h.firstFault?_eq_none_iff.mp hfault
    have hkept : record.known entries = entries := List.filter_eq_self.mpr fun entry hentry => by
      obtain ⟨field, hfield, hname, -⟩ := hknown entry hentry
      rw [h.find?_eq_some_iff.mpr ⟨hfield, hname⟩]
      rfl
    rw [hkept]
    cases hmissing : record.fields.find? fun field =>
        !field.optional && (Json.lookup field.name entries).isNone with
    | some field =>
      refine ⟨nofun, fun hok => ?_⟩
      have hgone : field.optional = false ∧ Json.lookup field.name entries = none := by
        simpa using List.find?_some hmissing
      obtain ⟨v, hv⟩ := hok.1.complete field (List.mem_of_find?_eq_some hmissing) hgone.1
      rw [hgone.2] at hv
      cases hv
    | none =>
      have hcomplete : record.Accepts entries := ⟨hknown, fun field hfield hoptional => by
        have hthere := List.find?_eq_none.mp hmissing field hfield
        exact Option.ne_none_iff_exists'.mp (by simpa [hoptional] using hthere)⟩
      exact ⟨fun hok => ⟨hcomplete, (Except.ok.inj hok).symm⟩, fun ⟨_, heq⟩ => by rw [heq]⟩

end Strict

theorem readItems_eq_ok_iff (what : String) (size total i : Nat) (fields : List Field)
    (items : List Json) :
    readItems what size total i fields items = .ok result ↔
      items.length ≤ fields.length ∧ result = (fields.map Field.name).zip items ∧
        (∀ pair ∈ fields.zip items, pair.1.check pair.2 = none) ∧
          ∀ field ∈ fields.drop items.length, field.hasDefault = true := by
  induction fields generalizing i items result with
  | nil =>
    cases items with
    | nil =>
      rw [readItems, Except.ok.injEq, eq_comm]
      simp
    | cons v rest => simp [readItems]
  | cons field fields ih =>
    cases items with
    | nil =>
      rw [readItems]
      cases hdefault : field.hasDefault with
      | true => simp [ih, hdefault]
      | false => simp [hdefault]
    | cons v rest =>
      rw [readItems]
      cases hcheck : field.check v with
      | some fault => simp [hcheck]
      | none =>
        constructor
        · intro hok
          cases hrest : readItems what size total (i + 1) fields rest with
          | error fault =>
            rw [hrest] at hok
            cases hok
          | ok more =>
            rw [hrest] at hok
            obtain ⟨hlength, rfl, hchecks, hdefaults⟩ := (ih (i + 1) rest).mp hrest
            exact ⟨Nat.succ_le_succ hlength, (Except.ok.inj hok).symm,
              List.forall_mem_cons.mpr ⟨hcheck, hchecks⟩, hdefaults⟩
        · rintro ⟨hlength, rfl, hchecks, hdefaults⟩
          have hrest := (ih (i + 1) rest).mpr ⟨Nat.le_of_succ_le_succ hlength, rfl,
            (List.forall_mem_cons.mp hchecks).2, hdefaults⟩
          simp only [hrest]
          rfl

/-- Under their names, the items of a list are accepted if each of them passes its check and those
that are left out have defaults. -/
theorem Strict.accepts_zip_iff (h : record.Strict) {items : List Json} :
    record.Accepts ((record.fields.map Field.name).zip items) ↔
      (∀ pair ∈ record.fields.zip items, pair.1.check pair.2 = none) ∧
        ∀ field ∈ record.fields.drop items.length, field.hasDefault = true := by
  have hnames : (record.fields.map Field.name).zip items =
      (record.fields.zip items).map fun pair => (pair.1.name, pair.2) := by
    rw [List.zip_map_left]
    rfl
  have hthere (name : String) :
      (∃ v, Json.lookup name ((record.fields.map Field.name).zip items) = some v) ↔
        name ∈ (record.fields.take items.length).map Field.name := by
    rw [Json.exists_lookup_iff, map_fst_zip_eq_take, List.map_take]
  constructor
  · rintro ⟨hknown, hcomplete⟩
    refine ⟨fun pair hpair => ?_, fun field hfield => ?_⟩
    · obtain ⟨field, hfield, hname, hcheck⟩ := hknown (pair.1.name, pair.2) (by
        rw [hnames]
        exact List.mem_map_of_mem hpair)
      rwa [h.eq_of_name hfield (List.of_mem_zip hpair).1 hname] at hcheck
    · have hmem := List.mem_of_mem_drop hfield
      rw [← h.defaults field hmem]
      by_contra hoptional
      have hname := (hthere field.name).mp (hcomplete field hmem (by simpa using hoptional))
      have hnodup := h.nodup
      rw [← List.take_append_drop items.length record.fields, List.map_append] at hnodup
      exact List.disjoint_of_nodup_append hnodup hname (List.mem_map_of_mem hfield)
  · rintro ⟨hchecks, hdefaults⟩
    refine ⟨fun entry hentry => ?_, fun field hfield hoptional => (hthere field.name).mpr ?_⟩
    · rw [hnames] at hentry
      obtain ⟨pair, hpair, rfl⟩ := List.mem_map.mp hentry
      exact ⟨pair.1, (List.of_mem_zip hpair).1, rfl, hchecks pair hpair⟩
    · rw [← List.take_append_drop items.length record.fields, List.mem_append] at hfield
      rcases hfield with hfield | hfield
      · exact List.mem_map_of_mem hfield
      · have hdefault := hdefaults field hfield
        rw [← h.defaults field (List.mem_of_mem_drop hfield), hoptional] at hdefault
        cases hdefault

/-! ### Both forms -/

/-- A strict record is read from the entries that it accepts, whatever their form. -/
theorem Strict.read_eq_ok_iff (h : record.Strict) (v : Json) :
    record.read v = .ok entries ↔
      v.entries? (record.fields.map Field.name) = some entries ∧ record.Accepts entries := by
  cases v with
  | obj fields =>
    rw [read, h.readObject_eq_ok_iff, Json.entries?, Option.some.injEq]
    constructor
    · rintro ⟨haccepts, rfl⟩
      exact ⟨rfl, haccepts⟩
    · rintro ⟨rfl, haccepts⟩
      exact ⟨haccepts, rfl⟩
  | arr items =>
    rw [read, readItems_eq_ok_iff, Json.entries?, List.length_map]
    by_cases hlength : items.length ≤ record.fields.length
    · rw [if_pos hlength, Option.some.injEq, and_iff_right hlength, ← h.accepts_zip_iff]
      constructor
      · rintro ⟨rfl, haccepts⟩
        exact ⟨rfl, haccepts⟩
      · rintro ⟨rfl, haccepts⟩
        exact ⟨rfl, haccepts⟩
    · rw [if_neg hlength]
      exact iff_of_false (fun hok => hlength hok.1) (by simp)
  | null | bool _ | num _ | str _ =>
    exact iff_of_false (by rintro ⟨⟩) (by rintro ⟨⟨⟩, -⟩)

theorem check_eq_none_iff (record : Record) (v : Json) :
    record.check v = none ↔ ∃ entries, record.read v = .ok entries := by
  rw [check]
  cases record.read v <;> simp

end Record

end StagedFlow
