import StagedFlow.Flow.Instance
import StagedFlow.Hook.Registry

/-!
# The registry of flows

Definitions become running flows in three steps: names, plans and stages are checked; the declared
providers are looked up; the flows are made, their hooks are put in order, and each flow passes its
own check, all of them side by side. Flows added later go through the same steps, and all flows of a
batch appear at once or not at all.
-/

namespace StagedFlow

variable {K : Type} {V : K → Type} {S W H : Type}

/-- Refuses the first definition whose name is taken by an earlier one, whose plan is malformed, or
whose plan has a stage outside of its kind. -/
def Definition.checkAll : List String → List (Definition K V W H) → Except RegistrationFault Unit
  | _, [] => .ok ()
  | taken, definition :: rest => do
    if taken.contains definition.name then throw (.duplicateFlow definition.name)
    match definition.plan.validate with
    | .error fault => throw (.invalidPlan definition.name fault)
    | .ok () => pure ()
    match definition.token.kind.firstDisallowed? definition.plan with
    | some stage => throw (.notAllowed definition.token stage)
    | none => pure ()
    checkAll (taken ++ [definition.name]) rest

/-- The first key of a list under which a bag holds nothing. -/
def Bag.firstMissing? [DecidableEq K] (bag : Bag K V) (keys : List K) : Option K :=
  keys.find? fun key => !bag.contains key

/-- Refuses the first definition with a dependency that no provider meets. -/
def Definition.checkDependencies [DecidableEq K] [Named K] (providers : Bag K V) :
    List (Definition K V W H) → Except RegistrationFault Unit
  | [] => .ok ()
  | definition :: rest =>
    match providers.firstMissing? definition.dependencies with
    | some key => .error (.missingDependency definition.name (Named.typeName key))
    | none => checkDependencies providers rest

/-- A flow that is made, and the check it has yet to pass. -/
structure Candidate (K : Type) (V : K → Type) (W H : Type) where
  inst : Instance K V W H
  ready : Task W (Except RegistrationFault Unit)

def Definition.instantiate (providers : Bag K V) (hooks : HookRegistry W H)
    (definition : Definition K V W H) : Except RegistrationFault (Candidate K V W H) := do
  let failed (fault : FlowFault) : RegistrationFault :=
    .initialization definition.name fault.message
  let prepared ← (definition.prepare providers).mapError failed
  let map ← HookMap.build definition.token prepared.table (hooks.hooksFor definition.name)
  pure ⟨⟨definition, map, hooks.observers⟩, prepared.ready.map fun r => r.mapError failed⟩

/-- Makes the flows of a batch; then all of them pass their checks, side by side. -/
def Definition.instantiateAll (providers : Bag K V) (hooks : HookRegistry W H)
    (definitions : List (Definition K V W H)) :
    Task W (Except RegistrationFault (List (Instance K V W H))) :=
  match definitions.mapM (Definition.instantiate providers hooks) with
  | .error fault => .done (.error fault)
  | .ok candidates =>
    (Task.tryAll (candidates.map Candidate.ready)).map fun result =>
      result.map fun _ => candidates.map Candidate.inst

/-- The running flows: their names in the order of registration, and the flow of each name. -/
structure FlowRegistry (K : Type) (V : K → Type) (W H : Type) where
  order : List String
  table : Bag String fun _ => Instance K V W H

namespace FlowRegistry

def empty : FlowRegistry K V W H := ⟨[], .empty⟩

def names (registry : FlowRegistry K V W H) : List String := registry.order

def get? (registry : FlowRegistry K V W H) (name : String) : Option (Instance K V W H) :=
  registry.table.get? name

def contains (registry : FlowRegistry K V W H) (name : String) : Bool :=
  registry.table.contains name

/-- The flows in the order of their registration. -/
def ordered (registry : FlowRegistry K V W H) : List (Instance K V W H) :=
  registry.order.filterMap registry.get?

/-- The flows bound to a route, in the order of their registration. -/
def routed (registry : FlowRegistry K V W H) : List (Instance K V W H) :=
  registry.ordered.filter fun inst => inst.definition.route.isSome

def put (registry : FlowRegistry K V W H) (inst : Instance K V W H) : FlowRegistry K V W H :=
  ⟨registry.order ++ [inst.name], registry.table.insert inst.name inst⟩

def putAll (registry : FlowRegistry K V W H) (added : List (Instance K V W H)) :
    FlowRegistry K V W H :=
  added.foldl put registry

/-- Makes the registry of definitions that were checked. -/
def make (providers : Bag K V) (hooks : HookRegistry W H)
    (definitions : List (Definition K V W H)) :
    Task W (Except RegistrationFault (FlowRegistry K V W H)) :=
  (Definition.instantiateAll providers hooks definitions).map fun result => result.map empty.putAll

/-- Makes the registry of a list of definitions. -/
def boot [DecidableEq K] [Named K] (providers : Bag K V) (hooks : HookRegistry W H)
    (definitions : List (Definition K V W H)) :
    Task W (Except RegistrationFault (FlowRegistry K V W H)) :=
  let checked := do
    Definition.checkAll [] definitions
    Definition.checkDependencies providers definitions
  match checked with
  | .error fault => .done (.error fault)
  | .ok () => make providers hooks definitions

/-- The checks of a later batch before any of its flows is made. -/
def checkBatch [DecidableEq K] [Named K] (registry : FlowRegistry K V W H) (providers : Bag K V)
    (definitions : List (Definition K V W H)) : Except RegistrationFault Unit := do
  Definition.checkAll [] definitions
  match definitions.find? fun definition => registry.contains definition.name with
  | some definition => throw (.duplicateFlow definition.name)
  | none => pure ()
  Definition.checkDependencies providers definitions

/-- The registry with a batch, unless one of its names is taken. -/
def commit (registry : FlowRegistry K V W H) (added : List (Instance K V W H)) :
    Except RegistrationFault (FlowRegistry K V W H) :=
  match added.find? fun inst => registry.contains inst.name with
  | some inst => .error (.duplicateFlow inst.name)
  | none => .ok (registry.putAll added)

/-- Adds the flows of a batch to the registry beside the world in one step, unless a name was taken
in the meantime. -/
def commitShared (added : List (Instance K V W H)) :
    Task (W × FlowRegistry K V W H) (Except RegistrationFault Unit) :=
  .act (Prod.map id fun registry => (registry.commit added).toOption.getD registry)
    fun shared => .done ((shared.2.commit added).map fun _ => ())

/-- Adds a later batch to the registry beside the world. The registry is looked at first, and again
when the flows are made: others may have added to it meanwhile. -/
def enroll [DecidableEq K] [Named K] (providers : Bag K V) (hooks : HookRegistry W H)
    (definitions : List (Definition K V W H)) :
    Task (W × FlowRegistry K V W H) (Except RegistrationFault Unit) := do
  let shared ← Task.look
  match shared.2.checkBatch providers definitions with
  | .error fault => pure (.error fault)
  | .ok () =>
    match ← (Definition.instantiateAll providers hooks definitions).beside with
    | .error fault => pure (.error fault)
    | .ok added => commitShared added

/-- Adds a later batch, nothing else happening to the registry in between. -/
def register [DecidableEq K] [Named K] (registry : FlowRegistry K V W H) (providers : Bag K V)
    (hooks : HookRegistry W H) (definitions : List (Definition K V W H)) :
    Task W (Except RegistrationFault (FlowRegistry K V W H)) :=
  ((enroll providers hooks definitions).carrying registry).map fun (result, registry) =>
    result.map fun () => registry

def run (p : Platform S W H) (registry : FlowRegistry K V W H) (name : String) (input : Json)
    (deps : S) : Task W (Except FlowFault Outcome) :=
  match registry.get? name with
  | some inst => inst.run p input deps
  | none => .done (.error (.notRegistered name))

end FlowRegistry

end StagedFlow
