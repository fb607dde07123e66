/-
Inbound messages: who wrote what, and on behalf of which tenant it is answered.
-/
import Dialogue.Document.Record
import Dialogue.Text.Lowercase

namespace Dialogue

/-- Who wrote a message. -/
structure Sender where
  /-- The address on the channel, which also names the sender's suspension. -/
  jid : String
  tags : List String := []
deriving DecidableEq, Repr

/-- Two texts are the same up to the case of ASCII letters. -/
def sameUpToAsciiCase (a b : String) : Bool :=
  a.toList.map Char.toLower == b.toList.map Char.toLower

/-- Whether the sender carries a tag: blanks around it do not count, nor does the case of ASCII
letters, and nobody carries a blank tag. -/
def Sender.hasTag (s : Sender) (tag : String) : Bool :=
  let tag := Text.trim tag
  !tag.isEmpty && s.tags.any fun t => sameUpToAsciiCase (Text.trim t) tag

/-- What is known of a tenant. -/
structure TenantProfile where
  planTier : Option String := none
deriving DecidableEq, Repr

/-- A message as it came in. -/
structure Message where
  body : String
  sender : Sender
  tenantId : String
  tenant : Option TenantProfile := none
deriving DecidableEq, Repr

/-- The id under which the sender's suspension is kept. -/
def Message.userId (m : Message) : String :=
  m.sender.jid

/-- The tenant's plan, if one is known. -/
def Message.planTier (m : Message) : Option String :=
  m.tenant.bind (·.planTier)

/-- The channel's acknowledgement of a reply. Nothing depends on it. -/
structure Receipt where
  messageId : Option String := none
deriving DecidableEq, Repr

/-- A reply could not be delivered. -/
structure DeliveryError where
  reason : String
deriving DecidableEq, Repr

/-- The wording of a failed delivery. -/
def DeliveryError.message (e : DeliveryError) : String :=
  "could not deliver reply: " ++ e.reason

/-! ## As values -/

/-- A sender as a value. -/
def Sender.toJson (s : Sender) : Json :=
  .object [("jid", .text s.jid), ("tags", .ofTexts s.tags)]

/-- Senders from documents. -/
def Sender.decode : Decoder Sender :=
  (Shape.build Sender.mk
    |>.required "jid" .text
    |>.withDefault "tags" (.list .text) []).decoder "struct Sender"

/-- A tenant's data as a value. -/
def TenantProfile.toJson (t : TenantProfile) : Json :=
  .object (Json.optional "planTier" t.planTier)

/-- A tenant's data from documents. -/
def TenantProfile.decode : Decoder TenantProfile :=
  (Shape.build TenantProfile.mk |>.optional "planTier" .text).decoder "struct TenantInfo"

/-- A receipt as a value. -/
def Receipt.toJson (r : Receipt) : Json :=
  .object (Json.optional "message_id" r.messageId)

/-- Receipts from documents. -/
def Receipt.decode : Decoder Receipt :=
  (Shape.build Receipt.mk |>.optional "message_id" .text).decoder "struct ReplyReceipt"

end Dialogue
