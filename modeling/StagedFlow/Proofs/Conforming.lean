import Mathlib.Algebra.Order.Ring.Rat
import Mathlib.Tactic.Positivity
import StagedFlow.Demo.Tools
import StagedFlow.Proofs.Envelopes

/-!
# What the demo's tools take and give

Each type of the demo's tools is described twice. One description is the schema, which is published
and which values are checked against. The other one is how the type is read or written. The two are
brought together here by what both say of the fields of an object: which of them have to be there,
and what those are that are there. Fields beyond that matter to neither. A list is another matter:
it may be read as its fields in their order, but no schema of the demo takes one.
-/

namespace StagedFlow

/-- An object gives none of its names twice, as is so for all objects that are kept as maps. -/
def Json.Distinct (v : Json) : Prop := ∀ fields, v = .obj fields → (fields.map Prod.fst).Nodup

namespace Schema

variable {follow : Url → List String → Json → List Violation} {source v : Json}
  {path required : List String} {named : List (String × Schema)}

/-- A value that is written as a root schema stands for a schema. -/
def StandsFor (root : Json) (schema : Schema) : Prop :=
  ∃ catalog, Catalog.make (Draft.ofSchema root) root = .ok catalog ∧
    read catalog.draft catalog.base [] catalog.root = .ok schema

def text (source : Json) : Schema := .object source [.type [.string] false]

def natural (source : Json) : Schema :=
  .object source [.type [.integer] false, .limit .minimum (.int 0)]

def fieldsOf (source : Json) (required : List String) (named : List (String × Schema)) : Schema :=
  .object source [.required required, .type [.object] false, .properties named]

/-- What a schema asks for without references is what its root asks for. -/
theorem validate_eq_nil_iff {root : Json} {schema : Schema} {P : Prop} (h : StandsFor root schema)
    (hschema : ∀ follow, violations follow schema [] v = [] ↔ P) : validate root v = [] ↔ P := by
  obtain ⟨catalog, hmake, hread⟩ := h
  rw [validate, hmake]
  simp only [Catalog.violations, hread]
  cases catalog.volume * (volume v + 1) with
  | zero => exact hschema _
  | succ depth => exact hschema _

/-! What each of the keywords asks for. -/

theorem violations_object_nil : violations follow (.object source []) path v = [] := rfl

theorem violations_object_cons_iff {keyword : Keyword} {rest : List Keyword} :
    violations follow (.object source (keyword :: rest)) path v = [] ↔
      keywordViolations follow keyword path v = [] ∧
        violations follow (.object source rest) path v = [] :=
  List.append_eq_nil_iff

theorem type_iff {type : JsonType} :
    keywordViolations follow (.type [type] false) path v = [] ↔ type.accepts false v = true := by
  -- The check is a recursion over schemas that are nested; its equations hold by computation.
  change (if [type].any (·.accepts false v) then [] else [⟨path, _⟩]) = ([] : List Violation) ↔ _
  simp

theorem required_iff {fields : List (String × Json)} :
    keywordViolations follow (.required required) path (.obj fields) = [] ↔
      ∀ name ∈ required, ∃ w, Json.lookup name fields = some w := by
  change ((required.filter fun name => (Json.lookup name fields).isNone).map _) = [] ↔ _
  simp [Option.ne_none_iff_exists']

theorem limit_iff {limit : Limit} {n bound : Number} :
    keywordViolations follow (.limit limit bound) path (.num n) = [] ↔
      breaks limit n bound = false := by
  change (if breaks limit n bound then [⟨path, _⟩] else []) = ([] : List Violation) ↔ _
  cases breaks limit n bound <;> simp

theorem properties_iff {fields : List (String × Json)} :
    keywordViolations follow (.properties named) path (.obj fields) = [] ↔
      ∀ entry ∈ named, ∀ w, Json.lookup entry.1 fields = some w →
        violations follow entry.2 (path ++ [entry.1]) w = [] := by
  change eachNamed follow named path fields = [] ↔ _
  induction named with
  | nil => exact iff_of_true rfl (List.forall_mem_nil _)
  | cons entry rest ih =>
    obtain ⟨name, schema⟩ := entry
    rw [List.forall_mem_cons, ← ih]
    refine List.append_eq_nil_iff.trans (and_congr_left fun _ => ?_)
    cases Json.lookup name fields <;> simp

theorem violations_text_iff : violations follow (text source) path v = [] ↔ ∃ s, v = .str s := by
  rw [text, violations_object_cons_iff, type_iff]
  cases v <;> simp [JsonType.accepts, violations_object_nil]

theorem violations_natural (n : Nat) :
    violations follow (natural source) path (.nat n) = [] := by
  have hminimum : breaks .minimum (.int n) (.int 0) = false := by
    rw [breaks, Number.value, Number.value, zero_mul, decide_eq_false_iff_not, not_lt]
    positivity
  rw [natural, violations_object_cons_iff, violations_object_cons_iff]
  exact ⟨type_iff.mpr rfl, limit_iff.mpr hminimum, violations_object_nil⟩

theorem violations_fieldsOf_iff :
    violations follow (fieldsOf source required named) path v = [] ↔ ∃ fields, v = .obj fields ∧
      (∀ name ∈ required, ∃ w, Json.lookup name fields = some w) ∧
      ∀ entry ∈ named, ∀ w, Json.lookup entry.1 fields = some w →
        violations follow entry.2 (path ++ [entry.1]) w = [] := by
  simp only [fieldsOf, violations_object_cons_iff, type_iff, violations_object_nil, and_true]
  cases v with
  | obj fields => simp [required_iff, properties_iff, JsonType.accepts]
  | _ => simp [JsonType.accepts]

structure Texts (required names : List String) (fields : List (String × Json)) : Prop where
  complete : ∀ name ∈ required, ∃ w, Json.lookup name fields = some w
  texts : ∀ name ∈ names, ∀ w, Json.lookup name fields = some w → ∃ s, w = .str s

theorem Texts.exists_str {names : List String} {fields : List (String × Json)}
    (h : Texts required names fields) {name : String} (hrequired : name ∈ required)
    (hname : name ∈ names) : ∃ s, Json.lookup name fields = some (.str s) := by
  obtain ⟨w, hlookup⟩ := h.complete name hrequired
  obtain ⟨s, rfl⟩ := h.texts name hname w hlookup
  exact ⟨s, hlookup⟩

def textsOf (source : Json) (required : List String) (texts : List (String × Json)) : Schema :=
  fieldsOf source required (texts.map fun field => (field.1, text field.2))

theorem violations_textsOf_iff {texts : List (String × Json)} :
    violations follow (textsOf source required texts) path v = [] ↔
      ∃ fields, v = .obj fields ∧ Texts required (texts.map Prod.fst) fields := by
  rw [textsOf, violations_fieldsOf_iff]
  refine exists_congr fun fields => and_congr_right fun _ => ?_
  simp only [List.forall_mem_map, violations_text_iff]
  exact ⟨fun ⟨hcomplete, htexts⟩ => ⟨hcomplete, List.forall_mem_map.mpr htexts⟩,
    fun h => ⟨h.complete, List.forall_mem_map.mp h.texts⟩⟩

end Schema

theorem Json.lookup_of_mem {entry : String × Json} {fields : List (String × Json)}
    (hnodup : (fields.map Prod.fst).Nodup) (hmem : entry ∈ fields) :
    lookup entry.1 fields = some entry.2 := by
  obtain ⟨w, hlookup⟩ := (exists_lookup_iff entry.1 fields).mpr (List.mem_map_of_mem hmem)
  have hsame : (entry.1, w) = entry :=
    List.inj_on_of_nodup_map hnodup (mem_of_lookup hlookup) hmem rfl
  rw [hlookup, ← hsame]

theorem Json.stringAt_of_lookup {name s : String} {fields : List (String × Json)}
    (h : lookup name fields = some (.str s)) : stringAt name fields = s := by
  rw [stringAt, h]
  rfl

namespace Record

variable {record : Record} {fields : List (String × Json)}

structure Textual (record : Record) : Prop where
  opens : record.closed = false
  check_eq : ∀ field ∈ record.fields, field.check = Check.string

def required (record : Record) : List String :=
  (record.fields.filter fun field => !field.optional).map Field.name

theorem isSome_find?_iff (name : String) :
    (record.find? name).isSome = true ↔ name ∈ record.fields.map Field.name := by
  simp [find?]

theorem lookup_known {name : String} (hname : name ∈ record.fields.map Field.name) :
    Json.lookup name (record.known fields) = Json.lookup name fields := by
  have hfound := (isSome_find?_iff name).mpr hname
  induction fields with
  | nil => rfl
  | cons entry rest ih =>
    obtain ⟨key, v⟩ := entry
    rw [known] at ih ⊢
    by_cases hkey : key = name
    · subst hkey
      simp [hfound, Json.lookup]
    · cases hfind : (record.find? key).isSome <;> simp [hfind, Json.lookup, hkey, ih]

theorem stringAt_known {name : String} (hname : name ∈ record.fields.map Field.name) :
    Json.stringAt name (record.known fields) = Json.stringAt name fields := by
  rw [Json.stringAt, lookup_known hname, Json.stringAt]

namespace Textual

/-- Only texts pass, under the names of the record. -/
theorem firstFault?_eq_none_iff (h : record.Textual) :
    record.firstFault? fields = none ↔ ∀ entry ∈ fields,
      entry.1 ∈ record.fields.map Field.name → ∃ s, entry.2 = .str s := by
  induction fields with
  | nil => exact iff_of_true rfl (List.forall_mem_nil _)
  | cons entry rest ih =>
    obtain ⟨name, v⟩ := entry
    rw [List.forall_mem_cons, ← ih, firstFault?, ← isSome_find?_iff]
    cases hfind : record.find? name with
    | none => simp [h.opens]
    | some field =>
      have hcheck := h.check_eq field (List.mem_of_find?_eq_some hfind)
      simp only [hcheck, Option.isSome_some, true_implies, ← Check.string_eq_none_iff]
      cases Check.string v <;> simp

/-- The record is read from an object just if its texts are there. -/
theorem read_obj_eq_ok_iff (h : record.Textual) (hnodup : (fields.map Prod.fst).Nodup)
    {result : List (String × Json)} :
    record.read (.obj fields) = .ok result ↔
      Schema.Texts record.required (record.fields.map Field.name) fields ∧
        result = record.known fields := by
  have hfault : record.firstFault? fields = none ↔
      ∀ name ∈ record.fields.map Field.name, ∀ w, Json.lookup name fields = some w →
        ∃ s, w = .str s := by
    rw [h.firstFault?_eq_none_iff]
    constructor
    · intro hall name hname w hlookup
      exact hall (name, w) (Json.mem_of_lookup hlookup) hname
    · intro hall entry hentry hname
      exact hall entry.1 hname entry.2 (Json.lookup_of_mem hnodup hentry)
  have hmissing : (record.fields.find? fun field =>
      !field.optional && (Json.lookup field.name fields).isNone) = none ↔
        ∀ name ∈ record.required, ∃ w, Json.lookup name fields = some w := by
    rw [required, List.forall_mem_map]
    simp [List.find?_eq_none, Option.ne_none_iff_exists']
  rw [read, readObject]
  constructor
  · intro hread
    cases hfirst : record.firstFault? fields with
    | some fault => simp [hfirst] at hread
    | none =>
      simp only [hfirst] at hread
      split at hread
      · cases hread
      case h_2 hnone =>
        exact ⟨⟨hmissing.mp hnone, hfault.mp hfirst⟩, (Except.ok.inj hread).symm⟩
  · rintro ⟨⟨hcomplete, htexts⟩, rfl⟩
    rw [hfault.mpr htexts, hmissing.mpr hcomplete]

end Textual

end Record

/-! ### Both descriptions -/

/-- A schema and a record say the same of the texts in an object. -/
structure Describes (root : Json) (record : Record) : Prop where
  textual : record.Textual
  standsFor : ∃ source texts, texts.map Prod.fst = record.fields.map Field.name ∧
    Schema.StandsFor root (.textsOf source record.required texts)

namespace Describes

variable {root v : Json} {record : Record}

/-- What the schema takes are objects of texts. -/
theorem validate_eq_nil_iff (h : Describes root record) :
    Schema.validate root v = [] ↔ ∃ fields, v = .obj fields ∧
      Schema.Texts record.required (record.fields.map Field.name) fields := by
  obtain ⟨source, texts, hnames, hstands⟩ := h.standsFor
  rw [← hnames]
  exact Schema.validate_eq_nil_iff hstands fun _ => Schema.violations_textsOf_iff

/-- What the schema takes are the objects that the record is read from. -/
theorem validate_eq_nil_iff_read (h : Describes root record) (hdistinct : v.Distinct) :
    Schema.validate root v = [] ↔
      ∃ fields, v = .obj fields ∧ record.read v = .ok (record.known fields) := by
  rw [h.validate_eq_nil_iff]
  refine exists_congr fun fields => and_congr_right fun hfields => ?_
  rw [hfields, h.textual.read_obj_eq_ok_iff (hdistinct fields hfields)]
  exact (and_iff_left rfl).symm

end Describes

namespace Demo

theorem describes_wordCountParams :
    Describes WordCountParams.schema WordCountParams.record where
  textual := ⟨rfl, by simp [WordCountParams.record, Field.required]⟩
  standsFor := ⟨_, [("text", _)], rfl, _, rfl, rfl⟩

theorem describes_createNoteParams :
    Describes CreateNoteParams.schema CreateNoteParams.record where
  textual := ⟨rfl, by simp [CreateNoteParams.record, Field.required, Field.defaulted]⟩
  standsFor := ⟨_, [("title", _), ("body", _)], rfl, _, rfl, rfl⟩

/-- Whatever the schema takes is read, and the text is the one that was given. -/
theorem WordCountParams.exists_read {v : Json} (hdistinct : v.Distinct)
    (hvalid : Schema.validate schema v = []) :
    ∃ params, read v = .ok params ∧ v.field? "text" = some (.str params.text) := by
  have hdescribes := describes_wordCountParams
  obtain ⟨fields, rfl, hread⟩ := (hdescribes.validate_eq_nil_iff_read hdistinct).mp hvalid
  obtain ⟨htexts, -⟩ := (hdescribes.textual.read_obj_eq_ok_iff (hdistinct fields rfl)).mp hread
  obtain ⟨text, htext⟩ : ∃ s, Json.lookup "text" fields = some (.str s) :=
    htexts.exists_str (by decide) (by decide)
  refine ⟨⟨text⟩, ?_, htext⟩
  rw [read, hread, Except.map, Record.stringAt_known (by decide), Json.stringAt_of_lookup htext]

/-- Whatever the schema takes is read; a body that is not there is empty. -/
theorem CreateNoteParams.exists_read {v : Json} (hdistinct : v.Distinct)
    (hvalid : Schema.validate schema v = []) :
    ∃ params, read v = .ok params ∧ v.field? "title" = some (.str params.title) ∧
      (v.field? "body" = some (.str params.body) ∨ v.field? "body" = none ∧ params.body = "") := by
  have hdescribes := describes_createNoteParams
  obtain ⟨fields, rfl, hread⟩ := (hdescribes.validate_eq_nil_iff_read hdistinct).mp hvalid
  obtain ⟨htexts, -⟩ := (hdescribes.textual.read_obj_eq_ok_iff (hdistinct fields rfl)).mp hread
  obtain ⟨title, htitle⟩ : ∃ s, Json.lookup "title" fields = some (.str s) :=
    htexts.exists_str (by decide) (by decide)
  refine ⟨⟨title, Json.stringAt "body" fields⟩, ?_, htitle, ?_⟩
  · rw [read, hread, Except.map, Record.stringAt_known (by decide),
      Record.stringAt_known (by decide), Json.stringAt_of_lookup htitle]
  · cases hgiven : Json.lookup "body" fields with
    | none => exact .inr ⟨hgiven, by rw [Json.stringAt, hgiven]; rfl⟩
    | some w =>
      obtain ⟨body, rfl⟩ := htexts.texts "body" (by decide) w hgiven
      exact .inl (hgiven.trans (by rw [Json.stringAt_of_lookup hgiven]))

/-- What is written of a count is what its schema asks for. -/
theorem WordCount.validate_toJson (count : WordCount) :
    Schema.validate schema count.toJson = [] := by
  have hstands : Schema.StandsFor schema (.fieldsOf schema ["words", "chars"]
      [("words", .natural (countSchema "Number of whitespace-separated words.")),
       ("chars", .natural (countSchema "Number of characters."))]) := ⟨_, rfl, rfl⟩
  refine (Schema.validate_eq_nil_iff hstands fun follow => iff_true_intro ?_).mpr trivial
  refine Schema.violations_fieldsOf_iff.mpr ⟨_, rfl, ?_, ?_⟩
  · simp [Json.lookup]
  · simp [Json.lookup, Schema.violations_natural]

theorem Note.validate_toJson (note : Note) : Schema.validate schema note.toJson = [] := by
  have hstands : Schema.StandsFor schema (.textsOf schema ["id", "title", "body"]
      [("id", Schema.typed "string" "Id derived from the call."),
       ("title", Schema.typed "string" "Note title."),
       ("body", Schema.typed "string" "Note body.")]) := ⟨_, rfl, rfl⟩
  refine (Schema.validate_eq_nil_iff hstands fun _ => Schema.violations_textsOf_iff).mpr ?_
  exact ⟨_, rfl, by simp [Json.lookup], by simp [Json.lookup]⟩

end Demo

end StagedFlow
