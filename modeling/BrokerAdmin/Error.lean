import BrokerAdmin.Json.Codec
import BrokerAdmin.Status

/-!
# Errors

An error is a cause with the data that its message names. Errors of single values (an id, a topic
name, a metadata record) are a type of their own, since such values are also made without any call to
the server; `Error.ofValue` says how they appear as errors of a call.

## Main definitions

* `ValueError`: a text or record that denotes no value.
* `FileError`: a file that cannot be read.
* `Error`: why a call failed.
* `ValueError.message`, `FileError.message`, `Error.message`: the wordings.
-/

namespace BrokerAdmin

/-- Why a text or record denotes no value. -/
inductive ValueError where
  /-- A text is no message id. -/
  | malformedIdentity (input reason : String)
  /-- Bytes are no metadata record. -/
  | metadataDecode (reason : String)
  /-- A metadata record has no bytes. -/
  | metadataEncode (reason : String)
  /-- A text is no topic name. -/
  | invalidTopicName (input reason : String)
  /-- A text names no authorization mode. -/
  | invalidAuthMode (text : String)
  deriving DecidableEq, Repr

/-- The wording of an error of a value. -/
def ValueError.message : ValueError → String
  | .malformedIdentity input reason => "Malformed message id '" ++ input ++ "': " ++ reason
  | .metadataDecode reason => "Message metadata decode error: " ++ reason
  | .metadataEncode reason => "Message metadata encode error: " ++ reason
  | .invalidTopicName input reason => "Invalid topic name '" ++ input ++ "': " ++ reason
  | .invalidAuthMode text => "Invalid subscription auth mode: " ++ text

/-- Why a file cannot be read. -/
inductive FileError where
  /-- There is no such file. -/
  | notFound
  /-- The path leads to a directory. -/
  | isDirectory
  /-- The path goes on behind something that is no directory. -/
  | notDirectory
  /-- The content is no UTF-8. -/
  | notText
  /-- The path or a name on it is too long. -/
  | tooLong
  /-- The path holds the character U+0000. -/
  | invalidPath
  /-- The system refuses for another reason. -/
  | other (text : String)
  deriving DecidableEq, Repr

/-- The wording of an error of a file. -/
def FileError.message : FileError → String
  | .notFound => "No such file or directory (os error 2)"
  | .isDirectory => "Is a directory (os error 21)"
  | .notDirectory => "Not a directory (os error 20)"
  | .notText => "stream did not contain valid UTF-8"
  | .tooLong => "File name too long (os error 36)"
  | .invalidPath => "file name contained an unexpected NUL byte"
  | .other text => text

/-- Why a call failed. -/
inductive Error where
  /-- The request could not be made or sent. -/
  | request
  /-- The server refused the request. -/
  | http (status : Status) (reason : String)
  /-- The body of the answer broke off. -/
  | transportRead
  /-- The answer does not say which message it holds. -/
  | missingIdentity
  /-- A text is no message id. -/
  | malformedIdentity (input reason : String)
  /-- The number of messages in a batch is no number. -/
  | invalidBatchCount (text : String)
  /-- A batch ends inside a record. -/
  | truncatedBatch (needed remaining : Nat)
  /-- Bytes are no metadata record. -/
  | metadataDecode (reason : String)
  /-- A text is no topic name. -/
  | invalidTopicName (input reason : String)
  /-- A body is not the JSON asked for. -/
  | json (fault : Json.ReadFault)
  /-- A file cannot be read. -/
  | io (error : FileError)
  /-- A setting is unusable. -/
  | invalidConfig (text : String)
  /-- Another error of a value. -/
  | value (error : ValueError)
  deriving DecidableEq, Repr

namespace Error

/-- An error of a value as an error of a call. -/
def ofValue : ValueError → Error
  | .malformedIdentity input reason => .malformedIdentity input reason
  | .metadataDecode reason => .metadataDecode reason
  | .invalidTopicName input reason => .invalidTopicName input reason
  | error => .value error

/-- The wording of a fault in a JSON text. -/
def faultMessage : Json.ReadFault → String
  | .cutOff => "the text ends too early"
  | .malformed => "the text is malformed"
  | .mismatch => "the value has the wrong type"

/-- The wording of an error. -/
def message : Error → String
  | .request => "HTTP request error: the request could not be sent"
  | .http status reason => "HTTP " ++ status.toText ++ ": " ++ reason
  | .transportRead => "Failed to read response: the body broke off"
  | .missingIdentity => "Response has no usable X-Pulsar-Message-ID header"
  | .malformedIdentity input reason => (ValueError.malformedIdentity input reason).message
  | .invalidBatchCount text => "Invalid batch message count '" ++ text ++ "'"
  | .truncatedBatch needed remaining =>
    "Truncated batch: needed " ++ toString needed ++ " bytes, " ++ toString remaining ++ " remaining"
  | .metadataDecode reason => (ValueError.metadataDecode reason).message
  | .invalidTopicName input reason => (ValueError.invalidTopicName input reason).message
  | .json fault => "JSON error: " ++ faultMessage fault
  | .io error => "IO error: " ++ error.message
  | .invalidConfig text => "Invalid configuration: " ++ text
  | .value error => error.message

/-- The wording of an error followed by that of its cause, if it has one apart from it. -/
def chain : Error → List String
  | .json fault => [message (.json fault), faultMessage fault]
  | .io error => [message (.io error), error.message]
  | error => [error.message]

/-- The status of a refused request. -/
def status : Error → Option Status
  | .http status _ => some status
  | _ => none

end Error

end BrokerAdmin
