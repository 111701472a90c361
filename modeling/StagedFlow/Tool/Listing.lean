import StagedFlow.Tool.Handler

/-!
# Listing tools

A listing holds the tools that are not hidden, in the order of their registration. Where apps must
be authorized, a caller with an authorization sees the tools without an owner and those of the apps
it has granted.
-/

namespace StagedFlow

def listKind : FlowKind := ⟨"tools:list", ["parseInput", "findTools", "finalize"]⟩

def listToken : FlowToken := ⟨"tools:list-tools", listKind⟩

def listPlan : Plan := ⟨["parseInput"], ["findTools"], [], ["finalize"], []⟩

namespace ListFlow

variable {X L : Type}

/-- Whether a caller sees a tool of an owner. -/
def shows (flow : ListFlow X L) (auth : Option AuthInfo) (owner : Option String) : Bool :=
  match flow.auth.policy, auth, owner with
  | .mustAuthorize, some auth, some app => auth.grants app
  | _, _, _ => true

def listing (flow : ListFlow X L) (auth : Option AuthInfo) : Listing :=
  ⟨(flow.tools.visible.filter fun tool => flow.shows auth tool.owner).map fun tool =>
    ListedTool.ofDefinition tool.definition⟩

def parseInput : ToolM X L Unit := do
  HookM.ofExcept (ListRequest.checkEnvelope (← HookM.context).input)

def findTools (flow : ListFlow X L) : ToolM X L Unit := do
  let auth : Option AuthInfo ← ToolM.get? .auth
  ToolM.put .listing (flow.listing auth)

def finalize : ToolM X L Unit := do
  let listing : Listing ← ToolM.require .listing
  HookM.setOutput listing.toJson

def step (flow : ListFlow X L) : ListStep → ToolM X L Unit
  | .parseInput => parseInput
  | .findTools => flow.findTools
  | .finalize => finalize

/-- The flow's own handlers. -/
def table (flow : ListFlow X L) : List (HookBinding (Handler X L)) :=
  [.own "parseInput" (.list flow .parseInput), .own "findTools" (.list flow .findTools),
   .own "finalize" (.list flow .finalize)]

end ListFlow

end StagedFlow
