import StagedFlow.Proofs.DirectCall

/-!
# Results that are read back

What a tool call answers is written with its empty parts left out, and read with defaults for what
is missing. All of a result comes back in this way but one thing. A structured `null` is written,
since only absent content is left out; its reader takes it for content that is absent.
-/

namespace StagedFlow

variable {X L : Type}

@[simp]
theorem TextBlock.read_toJson (block : TextBlock) : TextBlock.read block.toJson = .ok block := rfl

/-- An object of known fields that pass their checks is read as it is, if no field is wanting. -/
theorem Record.read_obj_of_known {record : Record} {entries : List (String × Json)}
    (hknown : ∀ entry ∈ entries, ∃ field,
      record.find? entry.1 = some field ∧ field.check entry.2 = none)
    (hcomplete : ∀ field ∈ record.fields, field.optional = false →
      (Json.lookup field.name entries).isSome) :
    record.read (.obj entries) = .ok entries := by
  have hfault : record.firstFault? entries = none := by
    clear hcomplete
    induction entries with
    | nil => rfl
    | cons entry rest ih =>
      obtain ⟨⟨field, hfind, hcheck⟩, hrest⟩ := List.forall_mem_cons.mp hknown
      simp only [Record.firstFault?, hfind, hcheck]
      exact ih hrest
  have hmissing : (record.fields.find? fun field =>
      !field.optional && (Json.lookup field.name entries).isNone) = none := by
    rw [List.find?_eq_none]
    intro field hfield
    cases hoptional : field.optional with
    | true => simp
    | false => simp [Option.isSome_iff_ne_none.mp (hcomplete field hfield hoptional)]
  have hall : record.known entries = entries := by
    rw [Record.known, List.filter_eq_self]
    intro entry hentry
    obtain ⟨field, hfind, -⟩ := hknown entry hentry
    rw [hfind]
    rfl
  rw [Record.read, Record.readObject, hfault, hmissing, hall]

namespace CallResult

variable (result : CallResult)

/-- The result as its reader has it: a structured `null` is none. -/
def withoutNull : CallResult :=
  { result with structured := result.structured.filter fun v => !v.isNull }

def entries : List (String × Json) :=
  [("content", .arr (result.content.map TextBlock.toJson))]
    ++ result.structured.toList.map (("structuredContent", ·))
    ++ (if result.metadata.isEmpty then [] else [("_meta", .obj result.metadata)])
    ++ [("isError", .bool result.isError)]

theorem toJson_eq : result.toJson = .obj result.entries := by
  rw [toJson, entries]
  cases result.structured <;> rfl

theorem check_content (blocks : List TextBlock) :
    Check.list TextBlock.check (.arr (blocks.map TextBlock.toJson)) = none := by
  rw [Check.list, List.findSome?_eq_none_iff]
  intro v hv
  obtain ⟨block, -, rfl⟩ := List.mem_map.mp hv
  rfl

theorem exists_field_of_mem_entries {entry : String × Json} (h : entry ∈ result.entries) :
    ∃ field, record.find? entry.1 = some field ∧ field.check entry.2 = none := by
  simp only [entries, List.mem_append, List.mem_singleton, List.mem_map] at h
  obtain ((rfl | ⟨v, -, rfl⟩) | hmeta) | rfl := h
  case inl.inl.inl => exact ⟨_, rfl, check_content result.content⟩
  case inl.inl.inr => exact ⟨_, rfl, rfl⟩
  case inr => exact ⟨_, rfl, rfl⟩
  case inl.inr =>
    split at hmeta
    · cases hmeta
    · cases List.mem_singleton.mp hmeta
      exact ⟨_, rfl, rfl⟩

theorem lookup_entries :
    Json.lookup "content" result.entries = some (.arr (result.content.map TextBlock.toJson)) ∧
      Json.lookup "structuredContent" result.entries = result.structured ∧
      Json.lookup "_meta" result.entries =
        (if result.metadata.isEmpty then none else some (.obj result.metadata)) ∧
      Json.lookup "isError" result.entries = some (.bool result.isError) := by
  rw [entries]
  cases result.structured <;> cases result.metadata <;> exact ⟨rfl, rfl, rfl, rfl⟩

theorem read_entries : record.read result.toJson = .ok result.entries := by
  obtain ⟨hcontent, -, -, hisError⟩ := result.lookup_entries
  rw [toJson_eq]
  refine Record.read_obj_of_known (fun _ => result.exists_field_of_mem_entries) ?_
  intro field hfield hrequired
  simp only [record, List.mem_cons, List.not_mem_nil, or_false] at hfield
  obtain rfl | rfl | rfl | rfl := hfield
  · exact hcontent ▸ rfl
  · cases hrequired
  · cases hrequired
  · exact hisError ▸ rfl

theorem filterMap_read_toJson (blocks : List TextBlock) :
    ((blocks.map TextBlock.toJson).filterMap fun v => (TextBlock.read v).toOption) = blocks := by
  induction blocks with
  | nil => rfl
  | cons block rest ih =>
    rw [List.map_cons, List.filterMap_cons, TextBlock.read_toJson, ih]
    rfl

theorem ofFields_entries : ofFields result.entries = result.withoutNull := by
  obtain ⟨hcontent, hstructured, hmetadata, hisError⟩ := result.lookup_entries
  have hvalue : Json.valueAt? "structuredContent" result.entries =
      result.structured.filter fun v => !v.isNull := by
    rw [Json.valueAt?, hstructured]
    cases result.structured with
    | none => rfl
    | some v => cases v <;> rfl
  have hfields : ((Json.lookup "_meta" result.entries).bind Json.asFields?).getD [] =
      result.metadata := by
    rw [hmetadata]
    cases result.metadata <;> rfl
  rw [ofFields, hvalue, hfields, Json.boolAt, hcontent, hisError]
  simp only [Option.bind_some, Json.asArray?, Json.asBool?, Option.getD_some,
    filterMap_read_toJson]
  rfl

/-- Whatever the result, what was written is read, but for a structured `null`. -/
theorem read_toJson : read result.toJson = .ok result.withoutNull := by
  rw [read, read_entries, ← ofFields_entries]
  rfl

theorem withoutNull_eq_self_iff : result.withoutNull = result ↔ result.structured ≠ some .null := by
  obtain ⟨content, structured, metadata, isError⟩ := result
  cases structured with
  | none => simp [withoutNull]
  | some v => cases v <;> simp [withoutNull, Json.isNull, Option.filter]

end CallResult

namespace CallFlow

variable (flow : CallFlow X L) (tool : Tool X (World L)) (raw : Json) (state : CallState X L)
  (others : List (World L → World L)) (w : World L)

theorem structured_plainResult :
    (plainResult tool raw).structured =
      if tool.definition.outputSchema.isSome ∨ raw.isObject then some raw else none := by
  rw [plainResult]
  cases tool.definition.outputSchema.isSome with
  | true => rfl
  | false =>
    change (if raw.isObject then some raw else none) = _
    simp

/-- A rendering leaves the structured content alone. -/
theorem structured_rendered :
    ((flow.rendered tool raw state).amid others w).value.structured =
      (plainResult tool raw).structured := by
  rw [rendered]
  split
  · rw [Task.amid_map]
    dsimp only
    split <;> rfl
  · rfl

theorem structured_rendered_eq_null_iff :
    ((flow.rendered tool raw state).amid others w).value.structured = some .null ↔
      tool.definition.outputSchema.isSome ∧ raw = .null := by
  rw [structured_rendered, structured_plainResult]
  constructor
  · intro h
    split at h
    case isTrue hstructured =>
      cases h
      exact ⟨hstructured.resolve_right nofun, rfl⟩
    case isFalse => cases h
  · rintro ⟨hschema, rfl⟩
    exact if_pos (.inl hschema)

/-- The last step of a call fails, or it has a tool and its output to go on with. -/
theorem finalize_cases (ctx : Context (CallState X L) (Handler X L)) :
    (∃ fault, flow.step .finalize ctx = .done (.error (.fault fault), .none)) ∨
      ∃ (tool : Tool X (World L)) (raw : Json),
        ctx.state.get? .tool = some tool ∧ ctx.state.get? .raw = some raw := by
  cases htool : ctx.state.get? .tool with
  | none => exact .inl (ToolM.bind_require_of_none htool _)
  | some tool =>
    cases hraw : ctx.state.get? .raw with
    | none =>
      rw [show flow.step .finalize ctx = _ from ToolM.bind_require htool _]
      exact .inl (ToolM.bind_require_of_none hraw _)
    | some raw => exact .inr ⟨tool, raw, rfl, rfl⟩

/-- The last step of a call sets the result that was rendered as its output, or nothing. -/
theorem output_finalize (ctx : Context (CallState X L) (Handler X L)) :
    ((flow.step .finalize ctx).amid others w).value.2.output = none ∨
      ∃ (tool : Tool X (World L)) (raw : Json),
        ctx.state.get? .tool = some tool ∧ ctx.state.get? .raw = some raw ∧
          ((flow.step .finalize ctx).amid others w).value.2.output =
            some ((flow.rendered tool raw ctx.state).amid others w).value.toJson := by
  obtain ⟨fault, hfails⟩ | ⟨tool, raw, htool, hraw⟩ := flow.finalize_cases ctx
  · rw [hfails]
    exact .inl rfl
  · rw [finalize_eq htool hraw]
    by_cases hviolations : tool.outputViolations raw ≠ []
    · rw [if_pos hviolations]
      exact .inl rfl
    · rw [if_neg hviolations, Task.amid_map]
      exact .inr ⟨tool, raw, htool, hraw, rfl⟩

/-- **Results read back, but for a structured `null`.** Whatever the last step of a call sets as the
output is a written result. Its reader has this result again, with its structured content as it is,
unless the tool promises a schema and the output is `null`: this one is structured content, and the
reader has the result without any. -/
theorem read_output_finalize (ctx : Context (CallState X L) (Handler X L)) :
    ((flow.step .finalize ctx).amid others w).value.2.output = none ∨
      ∃ (tool : Tool X (World L)) (raw : Json) (result : CallResult),
        ctx.state.get? .tool = some tool ∧ ctx.state.get? .raw = some raw ∧
        ((flow.step .finalize ctx).amid others w).value.2.output = some result.toJson ∧
        result.structured =
          (if tool.definition.outputSchema.isSome ∨ raw.isObject then some raw else none) ∧
        (CallResult.read result.toJson = .ok result ↔
          ¬ (tool.definition.outputSchema.isSome ∧ raw = .null)) ∧
        (tool.definition.outputSchema.isSome ∧ raw = .null →
          CallResult.read result.toJson = .ok { result with structured := none }) := by
  obtain hnone | ⟨tool, raw, htool, hraw, houtput⟩ := flow.output_finalize others w ctx
  · exact .inl hnone
  · have hstructured := flow.structured_rendered tool raw ctx.state others w
    have hnull := flow.structured_rendered_eq_null_iff tool raw ctx.state others w
    revert houtput hstructured hnull
    generalize ((flow.rendered tool raw ctx.state).amid others w).value = result
    intro houtput hstructured hnull
    refine .inr ⟨tool, raw, result, htool, hraw, houtput, ?_, ?_, fun hexcept => ?_⟩
    · rw [hstructured, structured_plainResult]
    · rw [result.read_toJson, Except.ok.injEq, result.withoutNull_eq_self_iff, ← hnull]
    · rw [result.read_toJson, CallResult.withoutNull, hnull.mpr hexcept]
      rfl

end CallFlow

/-- A result for `null` under a schema is not told from one without structured content. -/
theorem CallResult.read_ofValidated_null :
    read (ofValidated .null).toJson = .ok (ofOutput .null) ∧
      read (ofOutput .null).toJson = .ok (ofOutput .null) ∧
      (ofValidated .null).structured = some .null ∧ (ofOutput .null).structured = none := by
  exact ⟨read_toJson _, read_toJson _, rfl, rfl⟩

end StagedFlow
