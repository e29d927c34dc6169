import MappedSql.Document.Ini
import MappedSql.Document.Json5
import MappedSql.Document.Ron
import MappedSql.Document.Toml.Reader
import MappedSql.Document.Yaml.Marked
import MappedSql.Mapper.Error
import MappedSql.Value.Reader

/- Formats of settings files.

   The extension of a file tells its format. Whatever the format, a file holds entries
   under names, and a text that is anything else is not a settings file. -/
namespace MappedSql

/-- The formats of settings files. -/
inductive SettingsFormat where
  | toml
  | yaml
  | json
  | json5
  | ron
  | ini
  deriving DecidableEq, Repr

namespace SettingsFormat

def ofExtension? (s : String) : Option SettingsFormat :=
  if s = "toml" then some .toml
  else if s = "yaml" ∨ s = "yml" then some .yaml
  else if s = "json" then some .json
  else if s = "json5" then some .json5
  else if s = "ron" then some .ron
  else if s = "ini" then some .ini
  else none

/-- The document that a text of the format holds. -/
def document? (f : SettingsFormat) (text : String) : Option Document :=
  match f with
  | .toml => Toml.read text
  | .yaml => Yaml.readMarked text
  | .json => (Json.read? text).map Document.ofValue
  | .json5 => Json5.read text
  | .ron => Ron.read text
  | .ini => (Ini.read text).map .map

/-- The entries that a text of the format holds. -/
def read (f : SettingsFormat) (text : String) : Except MapperError (List (String × Document)) :=
  match f.document? text with
  | some (.map es) => .ok es
  | _ => .error .settings

end SettingsFormat

end MappedSql
