/-
What the nodes do: the effect of a single node, and the choice of the edges to follow from it.
-/
import Dialogue.Flow.Index
import Dialogue.Run.Choice
import Dialogue.Run.Program
import Dialogue.Settings.Run

namespace Dialogue

/-- A message together with what a run needs to know besides: the settings, whether there are
services, and the time. -/
structure RunContext where
  message : Message
  config : RunSettings
  hasAssistant : Bool
  now : Instant
deriving DecidableEq, Repr

/-- What the responder is told about the message. -/
def RunContext.addressee (c : RunContext) : Addressee where
  tenantId := c.message.tenantId
  senderJid := c.message.sender.jid
  planTier := c.message.planTier

/-- What follows the handler of a node. -/
inductive Step where
  | continue
  | suspend
deriving DecidableEq, Repr

/-- Whether the condition of a logic node holds. -/
def Logic.holds (l : Logic) (m : Message) (config : RunSettings) : Bool :=
  match l.condition with
  | .isPremium => m.planTier.any config.isPremium
  | .hasTag => l.tag.any m.sender.hasTag
  | .unknown _ => false

/-- Sends one reply; the number of replies delivered is one. -/
def sendReply (text : String) : Program (Except DeliveryError Nat) := do
  match ← Program.request (.send text) with
  | .ok () => return .ok 1
  | .error e => return .error e

/-- Asks the responder and sends its text. Without an answer the run goes on without a reply. -/
def sendAnswer (c : RunContext) (prompt : String) : Program (Except DeliveryError Nat) := do
  if !c.hasAssistant then
    Program.tolerate (.responder .notConfigured)
    return .ok 0
  match ← Program.request (.respond ⟨fullPrompt prompt c.message.body, c.addressee⟩) with
  | .ok reply =>
    match reply.filledText with
    | some text => sendReply text
    | none => return .ok 0
  | .error e =>
    Program.tolerate (.responder e)
    return .ok 0

/-- The effect of a node: the number of replies delivered, or the failure of the one that was not.
-/
def Node.perform (c : RunContext) (n : Node) : Program (Except DeliveryError Nat) :=
  match n.role with
  | .action message => if message.isEmpty then pure (.ok 0) else sendReply message
  | .ai prompt => sendAnswer c prompt
  | _ => pure (.ok 0)

/-- The handler of a node: its effect, and whether the run goes on behind it. -/
def Node.handle (c : RunContext) (n : Node) : Program (Except DeliveryError Step) := do
  match ← n.perform c with
  | .ok _ => return .ok (if n.waits then .suspend else .continue)
  | .error e => return .error e

/-- Asks the classifier for the label of one option. -/
def Router.classify (c : RunContext) (nodeId : String) (r : Router) : Program (Option String) := do
  if !c.hasAssistant then
    Program.tolerate (.classifier .notConfigured)
    return none
  if r.options.isEmpty then
    Program.warn (.routerWithoutOptions nodeId)
    return none
  match ← Program.request (.classify (r.question c.message.body)) with
  | .ok answer =>
    match readAnswer answer r.options with
    | .option label => return some label
    | .unclear =>
      Program.warn (.answerWithoutOption nodeId answer)
      return none
    | .unsearched =>
      Program.warn .tooManyLabels
      Program.warn (.answerWithoutOption nodeId answer)
      return none
  | .error e =>
    Program.tolerate (.classifier e)
    return none

/-- Whether the edge carries a label that matches. -/
def Edge.hasLabel (e : Edge) (label : String) : Bool :=
  e.labelOrHandle.any fun l => sameLabel l label

/-- The label under which a logic node is left. -/
def Logic.wanted (l : Logic) (c : RunContext) : String :=
  if l.holds c.message c.config then "true" else "false"

/-- The edges to follow from a node, out of those that leave it: all of them, except that a logic
node keeps those labelled with the truth of its condition and a router those labelled with the
chosen option. -/
def Node.keptEdges (c : RunContext) (n : Node) (outgoing : List Edge) : Program (List Edge) :=
  match n.role with
  | .logic l => pure (outgoing.filter (·.hasLabel (l.wanted c)))
  | .router r => do
    match ← r.classify c n.id with
    | some label => return outgoing.filter (·.hasLabel label)
    | none => return []
  | _ => pure outgoing

end Dialogue
