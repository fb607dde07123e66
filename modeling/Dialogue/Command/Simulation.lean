/-
Simulations: flows run against lines of text, as a person at a terminal would write them. The
replies are printed, and a remark where no reply tells what became of a message.
-/
import Dialogue.Assistant.Ollama
import Dialogue.Command.Arguments
import Dialogue.Flow.File
import Dialogue.Logging.FlowEvent
import Dialogue.Routing.Route

namespace Dialogue

/-- Why a simulation does not start. -/
inductive SimulationError where
  | unreadableFolder (path : String)
  | unloadable (path : String)
  | noFlows (path : String)
  | noActiveFlows (tenantId : String)
deriving DecidableEq, Repr

/-- The wording of an error. -/
def SimulationError.message : SimulationError → String
  | .unreadableFolder path => FolderLoad.failureText path
  | .unloadable path => "could not load " ++ path
  | .noFlows path => "no flows found at " ++ path
  | .noActiveFlows tenantId => "no active flows for tenant " ++ ticked tenantId

/-- A simulation between two messages. -/
structure Simulation where
  registry : Registry
  tenantId : String
  sender : Sender
  tenant : Option TenantProfile := none
  config : RunSettings := {}
  assistant : Option Assistant := none
  store : SuspensionStore := {}

namespace Simulation

/-- The flows of a file or of a folder. -/
def flows (now : Instant) (t : FileTree) (path : String) : Except SimulationError Registry :=
  if t.isFolder path then
    match Registry.empty.loadFolder now t path with
    | .ok l => .ok l.registry
    | .error _ => .error (.unreadableFolder path)
  else
    match Flow.load now t path with
    | .ok f => .ok (Registry.empty.register f)
    | .error _ => .error (.unloadable path)

/-- Prepares a simulation. -/
def start (now : Instant) (t : FileTree) (config : RunSettings) (send : Transport)
    (o : SimulateOptions) : Except SimulationError Simulation := do
  let registry ← flows now t o.flow
  if registry.isEmpty then .error (.noFlows o.flow)
  let tenantId := o.tenant.getD (registry.tenants.head?.getD "")
  if (registry.activeFlows tenantId).isEmpty then .error (.noActiveFlows tenantId)
  return {
    registry, tenantId, config
    sender := ⟨o.user, o.tags⟩
    tenant := o.planTier.map fun tier => ⟨some tier⟩
    assistant :=
      if o.ollama then some ((Ollama.ofSettings config.ollamaUrl config.ollamaModel).assistant send)
      else none }

/-- The first line that is printed. -/
def greeting (s : Simulation) : String :=
  "Loaded " ++ toString (s.registry.activeFlows s.tenantId).length ++
  " active flow(s) for tenant " ++ ticked s.tenantId ++ ". Type a message, Ctrl-D to quit."

/-- The message that a line stands for. -/
def message (s : Simulation) (line : String) : Message where
  body := line
  sender := s.sender
  tenantId := s.tenantId
  tenant := s.tenant

/-- The remark on what became of a message. -/
def remark : Option Report → List String
  | none => ["(no flow engaged)"]
  | some r =>
    match r.outcome with
    | .suspended nodeId => ["(" ++ r.flowId ++ " waiting for input at " ++ ticked nodeId ++ ")"]
    | .failed reason => ["(" ++ r.flowId ++ " failed: " ++ reason ++ ")"]
    | _ => []

/-- What a line leads to. -/
structure Reaction where
  /-- The lines that are printed. -/
  output : List String
  event : Option FlowEvent
  next : Simulation

/-- Takes one line. -/
def take (s : Simulation) (now : Instant) (line : String) : Reaction :=
  let m := s.message line
  let partners : Partners := ⟨fun _ _ => .ok (), s.assistant⟩
  let (report, w) := (s.registry.process ⟨m, s.config, s.assistant.isSome, now⟩).run partners
    { store := s.store }
  { output := w.log.sent.map ("bot> " ++ ·) ++ remark report
    event := report.bind (FlowEvent.ofReport? m)
    next := { s with store := w.store } }

end Simulation

end Dialogue
