import BrokerAdmin.Blank
import BrokerAdmin.Error

/-!
# Why a server refuses

A server that refuses a request may say why: in a JSON object with a member `reason`, or just in the
text of the body. A body without any text leaves the standard phrase of the status.

## Main definitions

* `Refusal.reason`: why a request was refused.
-/

namespace BrokerAdmin.Refusal

/-- The JSON form of a body that says why. -/
def schema : Json.Schema String where
  blank := ""
  fields := [.plain "reason" .required .string (fun reason => reason) fun _ reason => reason]
  leftovers := none

/-- The text of a body without blanks around it. -/
def bodyText (body : Bytes) : String := trimmed (Utf8.decodeLossy body)

/-- Why a request was refused. -/
def reason (status : Status) (body : Bytes) : String :=
  match schema.codec.ofBytes body with
  | .ok reason => reason
  | .error _ =>
    if (bodyText body).isEmpty then status.reason.getD "unknown error" else bodyText body

end BrokerAdmin.Refusal
