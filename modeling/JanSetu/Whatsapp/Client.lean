import JanSetu.Db.Session
import Mathlib.Data.Rat.Init

/-!
# WhatsApp messages

The inbound message as `iter_incoming_messages` builds it, less the members
that nothing after it reads, and the outbound payloads of the `build_*`
functions.
-/

namespace JanSetu.Whatsapp

structure IncomingWhatsAppMessage where
  waId : String
  metaMessageId : String
  messageType : String
  textBody : Option String
  receivedAt : Time
  mediaId : Option String
  mediaMimeType : Option String
  locationLatitude : Option ℚ
  locationLongitude : Option ℚ
  replyId : Option String
  contextMessageId : Option String
deriving DecidableEq

/-- A reply button: its id and its title. -/
abbrev Button := String × String

inductive Payload where
  | text (recipient body : String)
  | locationRequest (recipient body : String)
  | replyButtons (recipient body : String) (buttons : List Button)
  | documentButton (recipient headerMediaId headerFilename body : String)
      (buttons : List Button)
deriving DecidableEq

/-- The ids a tap on the message can send back. -/
def Payload.buttonIds : Payload → List String
  | .text _ _ => []
  | .locationRequest _ _ => []
  | .replyButtons _ _ buttons => buttons.map Prod.fst
  | .documentButton _ _ _ _ buttons => buttons.map Prod.fst

/-- Reply-button and list taps arrive as `interactive`, template quick replies
as `button`. -/
def IncomingWhatsAppMessage.IsButtonReply (inbound : IncomingWhatsAppMessage) :
    Prop :=
  inbound.messageType = "interactive" ∨ inbound.messageType = "button"

end JanSetu.Whatsapp
