import Precis.Settings.Basic
import Precis.Yaml.Printer
import Precis.Yaml.Record

/-!
# Settings as documents

Settings are kept in Yaml. A blank document stands for the defaults.
-/

namespace Precis.Settings

/-- The settings of a document. -/
def ofYaml? (s : String) : Option Settings :=
  if Text.isBlankText s then some {} else (Yaml.Node.ofText? s).bind read?

/-- The settings of a document, or the problem with it. -/
def ofYaml (s : String) : Except Problem Settings :=
  match ofYaml? s with
  | some settings => .ok settings
  | none => .error .unreadableSettings

/-- The document of settings, with all parts. -/
def toYaml (s : Settings) : String :=
  match s.toTree with
  | .record fields => Yaml.print fields
  | _ => ""

end Precis.Settings
