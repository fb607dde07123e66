/-
The two services behind `ai` and `ai_router` nodes: a responder that writes replies, and a
classifier that picks a category. Both are asked once for a node, text in, text out.
-/
import Dialogue.Document.Record
import Dialogue.Text.Basic

namespace Dialogue

/-- Why a service gave no answer. -/
inductive ServiceError where
  | notConfigured
  | provider (reason : String)
  | emptyResponse
deriving DecidableEq, Repr

/-- The wording of a failure. -/
def ServiceError.message : ServiceError → String
  | .notConfigured => "no AI provider configured"
  | .provider reason => "provider error: " ++ reason
  | .emptyResponse => "empty response from provider"

/-- Whom the responder answers for. -/
structure Addressee where
  tenantId : String
  senderJid : String
  planTier : Option String := none
deriving DecidableEq, Repr

/-- What the responder is asked. -/
structure ResponderCall where
  prompt : String
  context : Addressee
deriving DecidableEq, Repr

/-- The responder's answer, which may lack a text. -/
structure ServiceReply where
  text : Option String := none
deriving DecidableEq, Repr

/-- The text of the answer, unless it is absent or blank. -/
def ServiceReply.filledText (r : ServiceReply) : Option String :=
  r.text.filter fun t => !Text.allBlank t

/-- The two services. Each answer may depend on the earlier questions of the same message. -/
structure Assistant where
  classify : (earlier : List String) → (prompt : String) → Except ServiceError String
  respond : (earlier : List ResponderCall) → ResponderCall → Except ServiceError ServiceReply

/-! ## As values -/

/-- A responder's context as a value. -/
def Addressee.toJson (c : Addressee) : Json :=
  .object ([("tenantId", .text c.tenantId), ("senderJid", .text c.senderJid)] ++
    Json.optional "planTier" c.planTier)

/-- Contexts from documents. -/
def Addressee.decode : Decoder Addressee :=
  (Shape.build Addressee.mk
    |>.required "tenantId" .text
    |>.required "senderJid" .text
    |>.optional "planTier" .text).decoder "struct ResponderContext"

/-- An answer as a value. -/
def ServiceReply.toJson (r : ServiceReply) : Json :=
  .object [("content", .object (Json.optional "text" r.text))]

/-- The content of an answer. -/
def ServiceReply.decodeContent : Decoder (Option String) :=
  (Shape.build id |>.optional "text" .text).decoder "struct AiContent"

/-- Answers from documents. -/
def ServiceReply.decode : Decoder ServiceReply :=
  (Shape.build ServiceReply.mk |>.required "content" decodeContent).decoder "struct AiReply"

end Dialogue
