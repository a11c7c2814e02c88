import BrokerAdmin.Json.Print
import BrokerAdmin.Utf8

/-!
# Forms

A connector is sent as a form of several parts: its settings as JSON, where its archive is as text, or
the archive itself as a file.

## Main definitions

* `Part`, `Form`: a part, and parts in order.
* `Form.json`, `Form.text`, `Form.file`: a form with one more part.
* `Form.part?`: the first part of a name.
-/

namespace BrokerAdmin

/-- A part of a form. -/
structure Part where
  /-- Its name. -/
  name : String
  /-- The name of the file that it holds. -/
  fileName : Option String := none
  /-- The type of its content. -/
  contentType : String
  /-- Its content. -/
  data : Bytes
  deriving DecidableEq, Repr

/-- A form of several parts. -/
structure Form where
  /-- The parts in order. -/
  parts : List Part := []
  deriving DecidableEq, Repr

namespace Form

/-- A form with one more part. -/
def add (form : Form) (part : Part) : Form := ⟨form.parts ++ [part]⟩

/-- The type of JSON texts. -/
def jsonType : String := "application/json"

/-- A form with one more part that holds JSON. -/
def json (form : Form) (name : String) (value : Json.Value) : Form :=
  form.add { name, contentType := jsonType, data := Utf8.encode value.compact }

/-- A form with one more part that holds a text. -/
def text (form : Form) (name text : String) : Form :=
  form.add { name, contentType := "text/plain", data := Utf8.encode text }

/-- A form with one more part that holds a file. -/
def file (form : Form) (name fileName : String) (data : Bytes) : Form :=
  form.add { name, fileName, contentType := "application/octet-stream", data }

/-- The first part of a name. -/
def part? (form : Form) (name : String) : Option Part := form.parts.find? (·.name = name)

end Form

end BrokerAdmin
