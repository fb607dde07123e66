/-
Runs as data. A program is a tree of requests to the world around it: to the store, the reply
channel, the two services and the log. Because the requests are data, the same program can be run
at once against a world, or step by step beside other programs.
-/
import Dialogue.Assistant
import Dialogue.Message
import Dialogue.Suspension.Store

namespace Dialogue

/-- Errors of a run. Only a failed reply ends it; the others are logged. -/
inductive RunError where
  | nodeReference (edgeId nodeId : String)
  | cycleDetected (nodeId : String)
  | classifier (cause : ServiceError)
  | responder (cause : ServiceError)
  | cacheRead (cause : StoreError)
  | cacheWrite (cause : StoreError)
  | reply (cause : DeliveryError)
deriving DecidableEq, Repr

/-- The wording of an error. -/
def RunError.message : RunError → String
  | .nodeReference edgeId nodeId =>
    "edge " ++ ticked edgeId ++ " references missing node " ++ ticked nodeId
  | .cycleDetected nodeId => "node " ++ ticked nodeId ++ " was already visited in this invocation"
  | .classifier cause => "classifier failed: " ++ cause.message
  | .responder cause => "ai responder failed: " ++ cause.message
  | .cacheRead cause => "could not read suspension state: " ++ cause.message
  | .cacheWrite cause => "could not write suspension state: " ++ cause.message
  | .reply cause => "reply failed: " ++ cause.message

/-- What is logged as a warning. -/
inductive Warning where
  /-- An error that the run puts up with. -/
  | tolerated (error : RunError)
  /-- The error that ended the run. -/
  | runFailed (error : RunError)
  | suspendedFlowGone (flowId : String)
  | suspendedNodeGone (nodeId : String)
  | routerWithoutOptions (nodeId : String)
  | answerWithoutOption (nodeId answer : String)
  | tooManyLabels
deriving DecidableEq, Repr

/-- The wording of a warning. -/
def Warning.message : Warning → String
  | .tolerated error => error.message
  | .runFailed error => "flow execution failed: " ++ error.message
  | .suspendedFlowGone _ => "suspended flow is not loaded or inactive, discarding state"
  | .suspendedNodeGone _ => "discarding stale suspension, node no longer exists"
  | .routerWithoutOptions _ => "ai_router has no options"
  | .answerWithoutOption _ _ => "classifier answer matches no option"
  | .tooManyLabels => "could not build label patterns"

/-- What a program may ask for. -/
inductive Request where
  | readState (tenantId userId : String)
  | writeState (tenantId userId : String) (state : Suspension) (ttl : Nat)
  | dropState (tenantId userId : String)
  | send (text : String)
  | classify (prompt : String)
  | respond (call : ResponderCall)
  | warn (warning : Warning)

/-- The type of the answer to a request. -/
def Request.Answer : Request → Type
  | .readState _ _ => Except StoreError (Option Suspension)
  | .writeState _ _ _ _ => Except StoreError Unit
  | .dropState _ _ => Except StoreError Unit
  | .send _ => Except DeliveryError Unit
  | .classify _ => Except ServiceError String
  | .respond _ => Except ServiceError ServiceReply
  | .warn _ => Unit

/-- A program: it is done, or it asks for something and goes on with the answer. -/
inductive Program (α : Type) where
  | done (a : α)
  | ask (r : Request) (next : r.Answer → Program α)

namespace Program

/-- One program after the other. -/
def bind {α β : Type} (p : Program α) (f : α → Program β) : Program β :=
  match p with
  | .done a => f a
  | .ask r next => .ask r fun x => (next x).bind f

instance : Monad Program where
  pure := .done
  bind := bind

/-- Asks for one thing. -/
def request (r : Request) : Program r.Answer :=
  .ask r .done

/-- Logs a warning. -/
def warn (w : Warning) : Program Unit :=
  .ask (.warn w) fun _ => .done ()

/-- Logs an error that the run puts up with. -/
def tolerate (e : RunError) : Program Unit :=
  warn (.tolerated e)

@[simp] theorem pure_bind {α β : Type} (a : α) (f : α → Program β) :
    (pure a >>= f : Program β) = f a := rfl

@[simp] theorem ask_bind {α β : Type} (r : Request) (next : r.Answer → Program α)
    (f : α → Program β) : (Program.ask r next >>= f) = .ask r fun x => next x >>= f := rfl

theorem bind_done {α : Type} (p : Program α) : p.bind .done = p := by
  induction p with
  | done a => rfl
  | ask r next ih => simp only [bind, ih]

theorem bind_bind {α β γ : Type} (p : Program α) (f : α → Program β) (g : β → Program γ) :
    (p.bind f).bind g = p.bind fun a => (f a).bind g := by
  induction p with
  | done a => rfl
  | ask r next ih => simp only [bind, ih]

instance : LawfulMonad Program :=
  LawfulMonad.mk' Program bind_done (fun _ _ => rfl) bind_bind

end Program

/-! ## Worlds -/

/-- Those who take part in the handling of one message besides the store. A delivery may depend on
the replies delivered before. -/
structure Partners where
  deliver : (earlier : List String) → (text : String) → Except DeliveryError Unit
  assistant : Option Assistant

/-- What can be seen of a run from outside. -/
structure Log where
  /-- The replies that were delivered. -/
  sent : List String := []
  /-- The questions put to the classifier. -/
  prompts : List String := []
  /-- The questions put to the responder. -/
  calls : List ResponderCall := []
  warnings : List Warning := []
deriving DecidableEq, Repr

/-- The store and the log. -/
structure World where
  store : SuspensionStore
  log : Log := {}
deriving DecidableEq, Repr

/-- How a world answers a request, and how it changes. -/
def World.answer (p : Partners) (w : World) : (r : Request) → r.Answer × World
  | .readState t u => (w.store.get t u, w)
  | .writeState t u state ttl =>
    let (a, store) := w.store.set t u state ttl
    (a, { w with store })
  | .dropState t u =>
    let (a, store) := w.store.delete t u
    (a, { w with store })
  | .send text =>
    match p.deliver w.log.sent text with
    | .ok () => (.ok (), { w with log := { w.log with sent := w.log.sent ++ [text] } })
    | .error e => (.error e, w)
  | .classify prompt =>
    match p.assistant with
    | some a => (a.classify w.log.prompts prompt,
        { w with log := { w.log with prompts := w.log.prompts ++ [prompt] } })
    | none => (.error .notConfigured, w)
  | .respond call =>
    match p.assistant with
    | some a => (a.respond w.log.calls call,
        { w with log := { w.log with calls := w.log.calls ++ [call] } })
    | none => (.error .notConfigured, w)
  | .warn warning => ((), { w with log := { w.log with warnings := w.log.warnings ++ [warning] } })

/-- Runs a program against a world. -/
def Program.run {α : Type} (p : Partners) : Program α → World → α × World
  | .done a, w => (a, w)
  | .ask r next, w =>
    let (x, w) := w.answer p r
    (next x).run p w

end Dialogue
