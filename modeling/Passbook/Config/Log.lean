import Passbook.Text.Blank
import Passbook.Text.Lowercase
/-!
# Log settings

How log lines are written, and which of them.
-/

namespace Passbook

inductive LogFormat where
  | json
  | pretty
deriving DecidableEq, Repr

/-- The name of a form in diagnostics. -/
def LogFormat.debugText : LogFormat → String
  | .json => "Json"
  | .pretty => "Pretty"

/-- A text that names no form, in lower case. -/
structure UnknownLogFormat where
  text : String
deriving DecidableEq, Repr

def UnknownLogFormat.message (e : UnknownLogFormat) : String :=
  s!"unknown log format '{e.text}' (expected json or pretty)"

/-- Read the name of a form, in any case of ASCII letters, blanks around it. -/
def LogFormat.parse (text : String) : Except UnknownLogFormat LogFormat :=
  match Text.toAsciiLower (Text.trim text) with
  | "json" => .ok .json
  | "pretty" | "text" => .ok .pretty
  | other => .error ⟨other⟩

/-- Form and filter of log lines. -/
structure LogSettings where
  format : LogFormat
  filter : String
deriving DecidableEq, Repr

/-- JSON lines from the level of information up. -/
def LogSettings.standard : LogSettings := ⟨.json, "info"⟩

end Passbook
