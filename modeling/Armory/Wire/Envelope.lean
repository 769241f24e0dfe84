import Armory.Json.Decode
import Armory.Json.Reader

/-! The envelope around every reply of the game: a status, and a payload that may be missing. -/
namespace Armory.Wire

/-- A reply with its payload. -/
structure Envelope (α : Type) where
  response : Option α := none
  errorCode : Int := 0
  throttleSeconds : Int := 0
  errorStatus : String := ""
  message : String := ""
  messageData : Json := .null

namespace Envelope

variable {α : Type}

/-- Whether the reply reports success. -/
def isSuccess (e : Envelope α) : Bool := e.errorCode == 1

/-- Whether the reply asks for a pause before the next request. -/
def isThrottled (e : Envelope α) : Bool :=
  e.errorCode == 36 || e.errorStatus == "ThrottleLimitExceededMomentarily"

/-- How deep a value of any shape inside an envelope may be nested. -/
def freeDepth : Nat := 126

/-- A payload of any shape. -/
def anyPayload (v : Json) : Option Json := v.held? freeDepth

/-- The envelope that a JSON value gives, its payload taken by `f`. Every field may be absent. -/
def ofJson? (f : Json → Option α) (v : Json) : Option (Envelope α) := do
  let r ← v.record? ["Response", "ErrorCode", "ThrottleSeconds", "ErrorStatus", "Message", "MessageData"]
  let response ← r.optional "Response" f
  let errorCode ← r.orElse "ErrorCode" 0 Json.long?
  let throttleSeconds ← r.orElse "ThrottleSeconds" 0 Json.long?
  let errorStatus ← r.orElse "ErrorStatus" "" Json.text?
  let message ← r.orElse "Message" "" Json.text?
  let messageData ← r.orElse "MessageData" .null (Json.held? freeDepth)
  pure { response, errorCode, throttleSeconds, errorStatus, message, messageData }

/-- The envelope that a text gives. -/
def parse? (f : Json → Option α) (s : String) : Option (Envelope α) :=
  (Json.parse? s).bind (ofJson? f)

end Envelope
end Armory.Wire
