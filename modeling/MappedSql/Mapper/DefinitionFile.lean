import MappedSql.Document.Toml.Reader
import MappedSql.Document.Yaml.Unmarked
import MappedSql.Mapper.Definition
import MappedSql.Mapper.Error

/- Definitions of namespaces from files. -/
namespace MappedSql.NamespaceDefinition

/-- The definition in a document, which has to be one. -/
def ofDocument (c : Conversions) (d : Option Document) : Except MapperError NamespaceDefinition :=
  match d.bind (decode c) with
  | some definition => .ok definition
  | none => .error .definition

def ofYaml (text : String) : Except MapperError NamespaceDefinition :=
  ofDocument .unmarked (Yaml.read text)

def ofToml (text : String) : Except MapperError NamespaceDefinition :=
  ofDocument .tabular (Toml.read text)

/-- The part of a file name after its last dot, if something stands before the dot. -/
def extension? (file : String) : Option String :=
  match Text.fields '.' file.toList with
  | [] | [_] | [[], _] => none
  | first :: others => some (String.ofList (others.getLastD first))

/-- The definition in a file, given by its name and, if it can be read, its text. -/
def ofFile (file : String) (text : Option String) : Except MapperError NamespaceDefinition :=
  match text with
  | none => .error .file
  | some text =>
    match extension? file with
    | some "yaml" => ofYaml text
    | some "yml" => ofYaml text
    | some "toml" => ofToml text
    | _ => .error .definition

end MappedSql.NamespaceDefinition
