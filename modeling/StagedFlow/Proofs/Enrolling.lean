import StagedFlow.Proofs.Access
import StagedFlow.Proofs.Checks

/-!
# What a registry of tools takes

Tools are offered to a registry one after another, and some of them are refused. Two things are
compared with what the registry answers afterwards. One is the list of the tools that it has taken,
in the order of their acceptance. The other is a map under the tools' names, in which an insertion
under a name that is taken would replace the earlier tool: this never comes to pass, because a tool
whose name is taken is refused before.
-/

namespace StagedFlow

variable {X W : Type}

theorem Tool.schemaFault?_eq_none_iff {tool : Tool X W} :
    tool.schemaFault? = none ↔ tool.rules.fault? tool.definition.inputSchema = none ∧
      ∀ schema, tool.definition.outputSchema = some schema → tool.rules.fault? schema = none := by
  rw [schemaFault?]
  cases tool.rules.fault? tool.definition.inputSchema with
  | some reason => simp
  | none => cases tool.definition.outputSchema <;> simp

theorem Tool.schemaFault?_eq_some_iff {tool : Tool X W} {fault : ToolRegistrationFault} :
    tool.schemaFault? = some fault ↔
      (∃ reason, tool.rules.fault? tool.definition.inputSchema = some reason ∧
        fault = .invalidSchema tool.name .input reason) ∨
      tool.rules.fault? tool.definition.inputSchema = none ∧
        ∃ schema reason, tool.definition.outputSchema = some schema ∧
          tool.rules.fault? schema = some reason ∧
            fault = .invalidSchema tool.name .output reason := by
  rw [schemaFault?]
  cases tool.rules.fault? tool.definition.inputSchema with
  | some reason => simpa using eq_comm
  | none =>
    cases tool.definition.outputSchema with
    | none => simp
    | some schema =>
      simp only [Option.bind_some, Option.some.injEq, exists_and_left, exists_eq_left']
      cases tool.rules.fault? schema <;> simp [eq_comm]

namespace ToolRegistry

def taken : ToolRegistry X W → List (Tool X W) → List (Tool X W)
  | _, [] => []
  | registry, tool :: rest =>
    match registry.register tool with
    | .ok later => tool :: later.taken rest
    | .error _ => registry.taken rest

/-- A registry answers as one that holds some tools, in their order and each under its name. -/
structure Holds (registry : ToolRegistry X W) (taken : List (Tool X W)) : Prop where
  names_eq : registry.names = taken.map Tool.name
  names_nodup : registry.names.Nodup
  size_eq : registry.size = taken.length
  /-- A tool is found whether or not it is hidden. -/
  find?_eq_some_iff : ∀ name tool,
    registry.find? name = some tool ↔ IsFirst (fun held => held.name = name) taken tool
  isSome_find?_iff : ∀ name, (registry.find? name).isSome = true ↔ name ∈ registry.names
  has_iff : ∀ name, registry.has name = true ↔ name ∈ registry.names
  visible_eq : registry.visible = taken.filter fun tool => !tool.definition.hidden
  definitions_eq : registry.definitions =
    (taken.filter fun tool => !tool.definition.hidden).map Tool.definition

inductive Refuses (taken : List (Tool X W)) (tool : Tool X W) : ToolRegistrationFault → Prop where
  | input {reason : String} (h : tool.rules.fault? tool.definition.inputSchema = some reason) :
    Refuses taken tool (.invalidSchema tool.name .input reason)
  | output {schema : Json} {reason : String}
    (hinput : tool.rules.fault? tool.definition.inputSchema = none)
    (hschema : tool.definition.outputSchema = some schema)
    (h : tool.rules.fault? schema = some reason) :
    Refuses taken tool (.invalidSchema tool.name .output reason)
  | duplicate {earlier : Tool X W}
    (hinput : tool.rules.fault? tool.definition.inputSchema = none)
    (houtput : ∀ schema, tool.definition.outputSchema = some schema →
      tool.rules.fault? schema = none)
    (htaken : earlier ∈ taken) (hname : earlier.name = tool.name) :
    Refuses taken tool (.duplicateTool tool.name)

section Offers

variable {registry later : ToolRegistry X W} {tool : Tool X W} {fault : ToolRegistrationFault}
  {name : String}

theorem has_iff : registry.has name = true ↔ name ∈ registry.names := by
  rw [has, Option.isSome_iff_ne_none, ne_eq, find?_eq_none_iff, not_not]

theorem register_eq_error_iff :
    registry.register tool = .error fault ↔
      tool.schemaFault? = some fault ∨ tool.schemaFault? = none ∧ tool.name ∈ registry.names ∧
        fault = .duplicateTool tool.name := by
  rw [register, ← has_iff]
  cases tool.schemaFault? with
  | some found => simp
  | none =>
    cases registry.has tool.name with
    | false => simp
    | true => simpa using eq_comm

theorem register_eq_ok_iff :
    registry.register tool = .ok later ↔
      tool.schemaFault? = none ∧ tool.name ∉ registry.names ∧
        later = ⟨registry.tools ++ [tool]⟩ := by
  rw [register, ← has_iff]
  cases tool.schemaFault? with
  | some found => simp
  | none =>
    cases registry.has tool.name with
    | false => simpa using eq_comm
    | true => simp

theorem register_eq_error_iff_refuses :
    registry.register tool = .error fault ↔ Refuses registry.tools tool fault := by
  rw [register_eq_error_iff, Tool.schemaFault?_eq_some_iff, Tool.schemaFault?_eq_none_iff, names,
    List.mem_map]
  constructor
  · rintro ((⟨reason, hinput, rfl⟩ | ⟨hinput, schema, reason, hschema, houtput, rfl⟩) |
      ⟨⟨hinput, houtput⟩, ⟨earlier, htaken, hname⟩, rfl⟩)
    · exact .input hinput
    · exact .output hinput hschema houtput
    · exact .duplicate hinput houtput htaken hname
  · rintro (hinput | ⟨hinput, hschema, houtput⟩ | ⟨hinput, houtput, htaken, hname⟩)
    · exact .inl (.inl ⟨_, hinput, rfl⟩)
    · exact .inl (.inr ⟨hinput, _, _, hschema, houtput, rfl⟩)
    · exact .inr ⟨⟨hinput, houtput⟩, ⟨_, htaken, hname⟩, rfl⟩

/-- An offer can make a name known that was not, and changes what is known of no other. -/
theorem find?_offer (registry : ToolRegistry X W) (tool : Tool X W) (name : String) :
    (registry.offer tool).find? name = (registry.find? name).or
      ([tool].find? fun tool => tool.schemaFault?.isNone && tool.name == name) := by
  rw [offer, List.find?_singleton]
  cases hregister : registry.register tool with
  | ok later =>
    obtain ⟨hsound, -, rfl⟩ := register_eq_ok_iff.mp hregister
    simp [find?, hsound, List.find?_append]
  | error fault =>
    rcases register_eq_error_iff.mp hregister with hfault | ⟨-, hknown, -⟩
    · simp [hfault]
    · by_cases hname : tool.name = name
      · obtain ⟨held, hheld⟩ := Option.isSome_iff_exists.mp (has_iff.mpr (hname ▸ hknown))
        simp [hheld]
      · simp [hname]

end Offers

section Runs

variable {registry : ToolRegistry X W}

theorem tools_foldl_offer (registry : ToolRegistry X W) (offers : List (Tool X W)) :
    (offers.foldl offer registry).tools = registry.tools ++ registry.taken offers := by
  induction offers generalizing registry with
  | nil => exact (List.append_nil _).symm
  | cons tool rest ih =>
    rw [List.foldl_cons, ih, offer, taken]
    cases hregister : registry.register tool with
    | error fault => rfl
    | ok later =>
      obtain ⟨-, -, rfl⟩ := register_eq_ok_iff.mp hregister
      exact List.append_assoc _ [tool] _

/-- What a name stands for is settled by the first tool of the name whose schemas are schemas. -/
theorem find?_foldl_offer (registry : ToolRegistry X W) (offers : List (Tool X W))
    (name : String) :
    (offers.foldl offer registry).find? name = (registry.find? name).or
      (offers.find? fun tool => tool.schemaFault?.isNone && tool.name == name) := by
  induction offers generalizing registry with
  | nil => exact (Option.or_none).symm
  | cons tool rest ih =>
    rw [List.foldl_cons, ih, find?_offer, Option.or_assoc, ← List.find?_append,
      List.singleton_append]

theorem sublist_taken (registry : ToolRegistry X W) (offers : List (Tool X W)) :
    (registry.taken offers).Sublist offers := by
  induction offers generalizing registry with
  | nil => exact .slnil
  | cons tool rest ih =>
    rw [taken]
    cases registry.register tool with
    | error fault => exact (ih registry).cons tool
    | ok later => exact (ih later).cons_cons tool

theorem taken_append (registry : ToolRegistry X W) (offers more : List (Tool X W)) :
    registry.taken (offers ++ more) =
      registry.taken offers ++ (offers.foldl offer registry).taken more := by
  induction offers generalizing registry with
  | nil => rfl
  | cons tool rest ih =>
    rw [List.cons_append, List.foldl_cons, taken, taken, offer]
    cases registry.register tool with
    | error fault => exact ih registry
    | ok later => exact congrArg (tool :: ·) (ih later)

theorem tools_ofOffers (offers : List (Tool X W)) :
    (ofOffers offers).tools = empty.taken offers :=
  tools_foldl_offer empty offers

theorem ofOffers_concat (offers : List (Tool X W)) (tool : Tool X W) :
    ofOffers (offers ++ [tool]) = (ofOffers offers).offer tool := by
  rw [ofOffers, ofOffers, List.foldl_append, List.foldl_cons, List.foldl_nil]

/-- Names that are distinct make a registry answer from the list of its tools. -/
theorem holds_tools (h : registry.names.Nodup) : registry.Holds registry.tools where
  names_eq := rfl
  names_nodup := h
  size_eq := rfl
  find?_eq_some_iff name tool := by
    rw [find?, IsFirst.find?_eq_some_iff]
    simp only [beq_iff_eq]
  isSome_find?_iff _ := has_iff
  has_iff _ := has_iff
  visible_eq := rfl
  definitions_eq := rfl

end Runs

end ToolRegistry

/-! ### A map under the names -/

/-- A tool as it stands outside of a registry. What it says of itself may be another thing at each
moment that it is asked. -/
structure ToolSource (X W : Type) where
  definition : Nat → ToolDefinition
  execute : Json → ToolCall → Task W (Except ToolFault Json)
  hooks : List (HookBinding X)
  rules : SchemaRules

def ToolSource.asOf (source : ToolSource X W) (moment : Nat) : Tool X W :=
  ⟨source.definition moment, source.execute, source.hooks, source.rules⟩

structure ToolEntry (X W : Type) where
  definition : ToolDefinition
  source : ToolSource X W

def ToolEntry.tool (entry : ToolEntry X W) : Tool X W :=
  ⟨entry.definition, entry.source.execute, entry.source.hooks, entry.source.rules⟩

/-- Entries under names, in the order in which the names were inserted. -/
structure ToolTable (X W : Type) where
  entries : List (String × ToolEntry X W)

namespace ToolTable

def empty : ToolTable X W := ⟨[]⟩

def find? (table : ToolTable X W) (name : String) : Option (ToolEntry X W) :=
  (table.entries.find? fun entry => entry.1 == name).map Prod.snd

def contains (table : ToolTable X W) (name : String) : Bool := (table.find? name).isSome

/-- Inserts an entry under a name: in the place of the one that is there, or behind all others. -/
def insert (table : ToolTable X W) (name : String) (entry : ToolEntry X W) : ToolTable X W :=
  if table.contains name then
    ⟨table.entries.map fun held => if held.1 == name then (name, entry) else held⟩
  else ⟨table.entries ++ [(name, entry)]⟩

def register (table : ToolTable X W) (source : ToolSource X W) (moment : Nat) :
    ToolTable X W × Except ToolRegistrationFault Unit :=
  let tool := source.asOf moment
  match tool.schemaFault? with
  | some fault => (table, .error fault)
  | none =>
    if table.contains tool.name then (table, .error (.duplicateTool tool.name))
    else (table.insert tool.name ⟨tool.definition, source⟩, .ok ())

def offerAll (table : ToolTable X W) (offers : List (ToolSource X W × Nat)) : ToolTable X W :=
  offers.foldl (fun table offered => (table.register offered.1 offered.2).1) table

theorem insert_of_not_contains {table : ToolTable X W} {name : String} {entry : ToolEntry X W}
    (h : table.contains name = false) :
    table.insert name entry = ⟨table.entries ++ [(name, entry)]⟩ := by
  rw [insert, h]
  exact if_neg Bool.false_ne_true

def Answers (table : ToolTable X W) (registry : ToolRegistry X W) : Prop :=
  table.entries.map (fun entry => (entry.1, entry.2.tool)) =
    registry.tools.map fun tool => (tool.name, tool)

namespace Answers

variable {table : ToolTable X W} {registry : ToolRegistry X W}

/-- The tool that is found is as it was when it came. -/
theorem find?_eq (h : table.Answers registry) (name : String) :
    (table.find? name).map ToolEntry.tool = registry.find? name := by
  have hfind :=
    congrArg (fun entries => (entries.find? fun entry => entry.1 == name).map Prod.snd) h
  simp only [List.find?_map, Option.map_map] at hfind
  simpa [find?, ToolRegistry.find?, Option.map_map, Function.comp_def] using hfind

theorem contains_eq (h : table.Answers registry) (name : String) :
    table.contains name = registry.has name := by
  rw [contains, ToolRegistry.has, ← h.find?_eq, Option.isSome_map]

/-- Table and registry take the same tools, and refuse the others for the same faults. -/
theorem register (h : table.Answers registry) (source : ToolSource X W) (moment : Nat) :
    (∃ fault, registry.register (source.asOf moment) = .error fault ∧
        table.register source moment = (table, .error fault)) ∨
      ∃ later, registry.register (source.asOf moment) = .ok later ∧
        (table.register source moment).2 = .ok () ∧
          (table.register source moment).1.Answers later := by
  have hcontains := h.contains_eq (source.asOf moment).name
  rw [ToolTable.register, ToolRegistry.register]
  cases (source.asOf moment).schemaFault? with
  | some fault => exact .inl ⟨fault, rfl, rfl⟩
  | none =>
    simp only [hcontains]
    cases hheld : registry.has (source.asOf moment).name with
    | true => exact .inl ⟨_, rfl, rfl⟩
    | false =>
      refine .inr ⟨_, rfl, rfl, ?_⟩
      simp only [Bool.false_eq_true, if_false, insert_of_not_contains (hcontains.trans hheld)]
      rw [Answers, List.map_append, List.map_append, h]
      rfl

/-- Whatever is offered, the table has the tools that the registry has. -/
theorem offerAll (h : table.Answers registry) (offers : List (ToolSource X W × Nat)) :
    (table.offerAll offers).Answers
      ((offers.map fun offered => offered.1.asOf offered.2).foldl ToolRegistry.offer registry) := by
  induction offers generalizing table registry with
  | nil => exact h
  | cons offered rest ih =>
    rw [ToolTable.offerAll, List.foldl_cons, List.map_cons, List.foldl_cons]
    refine ih ?_
    obtain ⟨fault, hrefused, hsame⟩ | ⟨later, htaken, -, hlater⟩ :=
      h.register offered.1 offered.2
    · rwa [ToolRegistry.offer, hrefused, hsame]
    · rwa [ToolRegistry.offer, htaken]

end Answers

end ToolTable

namespace ToolRegistry

/-- **A registry holds the tools that it has taken.** Whatever tools are offered to an empty
registry, it answers from a part of them, in their order. A name stands for the first tool of the
name whose schemas are schemas. A map under the names, which replaces what is inserted twice, has
the same tools in the same order. The next tool is refused exactly for a schema that is not one, the
input schema first, or else for a name that is taken; then all stays as it was. If it is taken, it
comes last. -/
theorem holds_ofOffers (offers : List (ToolSource X W × Nat)) :
    let tools := offers.map fun offered => offered.1.asOf offered.2
    let registry := ofOffers tools
    let taken := (empty : ToolRegistry X W).taken tools
    taken.Sublist tools ∧ registry.Holds taken ∧
      (∀ name tool, registry.find? name = some tool ↔
        IsFirst (fun tool => tool.schemaFault? = none ∧ tool.name = name) tools tool) ∧
      ((ToolTable.empty : ToolTable X W).offerAll offers).Answers registry ∧
      ∀ tool,
        (∀ fault, registry.register tool = .error fault ↔ Refuses taken tool fault) ∧
        (∀ fault, Refuses taken tool fault → ofOffers (tools ++ [tool]) = registry ∧
          (empty : ToolRegistry X W).taken (tools ++ [tool]) = taken) ∧
        ((∀ fault, ¬ Refuses taken tool fault) → ∃ later, registry.register tool = .ok later ∧
          ofOffers (tools ++ [tool]) = later ∧ later.Holds (taken ++ [tool]) ∧
            (empty : ToolRegistry X W).taken (tools ++ [tool]) = taken ++ [tool]) := by
  intro tools registry taken
  have htools : registry.tools = taken := tools_ofOffers tools
  have hrefuses : ∀ tool fault,
      registry.register tool = .error fault ↔ Refuses taken tool fault := fun tool fault =>
    htools ▸ register_eq_error_iff_refuses
  have hempty : (ToolTable.empty : ToolTable X W).Answers (empty : ToolRegistry X W) := rfl
  have hnext : ∀ tool, (empty : ToolRegistry X W).taken (tools ++ [tool]) =
      taken ++ registry.taken [tool] := fun tool => taken_append empty tools [tool]
  refine ⟨sublist_taken empty tools, htools ▸ holds_tools (nodup_ofOffers tools),
    fun name tool => ?_, hempty.offerAll offers,
    fun tool => ⟨hrefuses tool, fun fault hfault => ?_, fun hfree => ?_⟩⟩
  · have hfind : registry.find? name =
        tools.find? fun tool => tool.schemaFault?.isNone && tool.name == name :=
      find?_foldl_offer empty tools name
    rw [hfind, IsFirst.find?_eq_some_iff]
    simp only [Bool.and_eq_true, Option.isNone_iff_eq_none, beq_iff_eq]
  · have herror := (hrefuses tool fault).mpr hfault
    constructor
    · rw [ofOffers_concat, offer, herror]
    · rw [hnext, ToolRegistry.taken, herror]
      exact List.append_nil taken
  · cases hregister : registry.register tool with
    | error fault => exact absurd ((hrefuses tool fault).mp hregister) (hfree fault)
    | ok later =>
      have hlater : ofOffers (tools ++ [tool]) = later := by
        rw [ofOffers_concat, offer, hregister]
      have htaken : (empty : ToolRegistry X W).taken (tools ++ [tool]) = taken ++ [tool] := by
        rw [hnext, ToolRegistry.taken, hregister]
        rfl
      have hnodup := nodup_ofOffers (tools ++ [tool])
      rw [hlater] at hnodup
      have hheld : later.tools = taken ++ [tool] := by
        rw [← hlater, tools_ofOffers, htaken]
      exact ⟨later, rfl, hlater, hheld ▸ holds_tools hnodup, htaken⟩

end ToolRegistry

end StagedFlow
