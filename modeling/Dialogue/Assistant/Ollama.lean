/-
Assistants behind an Ollama server. Both services ask the server to complete a prompt; the one that
writes replies is also told on whose behalf it does. The way to the server is given, so that
everything can be said without one.
-/
import Dialogue.Assistant
import Dialogue.Text.Quoted
import Dialogue.Url.Parser

namespace Dialogue

/-- What the server is asked to complete. -/
structure Completion where
  model : String
  prompt : String
  /-- What the model is told besides. -/
  system : Option String := none
deriving DecidableEq, Repr

/-- A way to a server: a text, or the reason why there is none. -/
abbrev Transport := Completion → Except String String

/-- An assistant behind a server. -/
structure Ollama where
  /-- The address of the server, unless it is the usual one. -/
  url : Option Url := none
  model : String := "llama3.2"
deriving DecidableEq, Repr

namespace Ollama

/-- The assistant with these settings. -/
def ofSettings (url : Option Url) (model : Option String) : Ollama :=
  match model with
  | some model => { url, model }
  | none => { url }

/-- The port of the server. -/
def port (o : Ollama) : Nat :=
  (o.url.bind (·.port)).getD 11434

/-- What is shown of an assistant. -/
def describe (o : Ollama) : String :=
  "OllamaAi \x7b model: " ++ Text.quoted o.model ++ " \x7d"

/-- Asks for a text, which must not be blank. -/
def complete (o : Ollama) (send : Transport) (prompt : String) (system : Option String) :
    Except ServiceError String :=
  match send ⟨o.model, prompt, system⟩ with
  | .ok text => if Text.allBlank text then .error .emptyResponse else .ok text
  | .error reason => .error (.provider reason)

/-- What is logged as an error of an answer. -/
def complaint (answer : Except ServiceError String) : Option String :=
  match answer with
  | .error (.provider reason) => some ("Ollama generate error: " ++ reason)
  | _ => none

/-- What the model is told about its part. -/
def instruction (c : Addressee) : String :=
  "You are a helpful assistant replying to a chat user on behalf of tenant " ++ c.tenantId ++
  ". Keep answers short."

/-- Asks for the category of a message. -/
def classify (o : Ollama) (send : Transport) (prompt : String) : Except ServiceError String :=
  o.complete send prompt none

/-- Asks for a reply. -/
def respond (o : Ollama) (send : Transport) (call : ResponderCall) : Except ServiceError String :=
  o.complete send call.prompt (some (instruction call.context))

/-- Both services in one. -/
def assistant (o : Ollama) (send : Transport) : Assistant where
  classify := fun _ prompt => o.classify send prompt
  respond := fun _ call => (o.respond send call).map fun text => ⟨some text⟩

/-- The way to a server that cannot be reached. -/
def unreachable : Transport :=
  fun _ => .error "no connection to the server"

end Ollama

end Dialogue
