import Highlight.Text.Lines
import Highlight.Text.Measure

/-!
The languages that can be highlighted, the names they go by, and the files they are found in.
-/

set_option autoImplicit false

namespace Highlight

/-- Which of a theme's palettes colors the tokens of a language. -/
inductive Presentation where
  | syntactic
  /-- Colors by character class, for generated secrets. -/
  | randomString
  deriving DecidableEq, Repr, Inhabited

inductive Language where
  | json
  | xml
  | html
  | svg
  | css
  | sql
  | yaml
  | markdown
  | env
  | csv
  | shell
  | code
  | plainText
  | randomString
  deriving DecidableEq, Repr, Inhabited

namespace Language

open Text

def all : List Language :=
  [json, xml, html, svg, css, sql, yaml, markdown, env, csv, shell, code, plainText, randomString]

def standard : Language :=
  plainText

/-- The name by which configurations refer to a language. -/
def id : Language → String
  | json => "json"
  | xml => "xml"
  | html => "html"
  | svg => "svg"
  | css => "css"
  | sql => "sql"
  | yaml => "yaml"
  | markdown => "markdown"
  | env => "env"
  | csv => "csv"
  | shell => "shell"
  | code => "code"
  | plainText => "plaintext"
  | randomString => "random-string"

def label : Language → String
  | json => "JSON"
  | xml => "XML"
  | html => "HTML"
  | svg => "SVG"
  | css => "CSS"
  | sql => "SQL"
  | yaml => "YAML"
  | markdown => "Markdown"
  | env => "Env"
  | csv => "CSV"
  | shell => "Shell"
  | code => "Source code"
  | plainText => "Plain text"
  | randomString => "Random string"

/-- The name in stored data. -/
def dataName : Language → String
  | plainText => "plain_text"
  | randomString => "random_string"
  | language => language.id

def presentation : Language → Presentation
  | randomString => .randomString
  | _ => .syntactic

/-- Lower-case names that stand for a language besides its own. -/
def aliases : Language → List String
  | html => ["htm"]
  | yaml => ["yml"]
  | markdown => ["md"]
  | env => ["dotenv"]
  | shell => ["bash", "sh", "curl", "cli"]
  | code =>
    ["js", "javascript", "ts", "typescript", "java", "c", "cpp", "c++", "csharp", "c#", "go",
      "rust", "python", "php", "kotlin", "swift"]
  | plainText => ["plain", "text", "txt"]
  | randomString => ["random", "randomstring"]
  | _ => []

def normalized (name : String) : String :=
  asciiLower (String.ofList (trim name.toList))

def ofName? (name : String) : Option Language :=
  let wanted := normalized name
  all.find? fun language => language.id == wanted || language.aliases.contains wanted

def unknownMessage (name : String) : String :=
  "unknown language identifier '" ++ normalized name ++ "'"

def ofNameOrPlain (name : String) : Language :=
  (ofName? name).getD standard

def extensions : Language → List String
  | json => ["json", "jsonc", "geojson"]
  | xml => ["xml", "xsd", "xsl", "plist"]
  | html => ["html", "htm", "xhtml", "vue"]
  | svg => ["svg"]
  | css => ["css", "scss", "less"]
  | sql => ["sql"]
  | yaml => ["yaml", "yml"]
  | markdown => ["md", "markdown"]
  | env => ["env"]
  | csv => ["csv"]
  | shell => ["sh", "bash", "zsh"]
  | code =>
    ["js", "mjs", "cjs", "jsx", "ts", "tsx", "java", "c", "h", "cpp", "cc", "hpp", "cs", "go",
      "rs", "py", "php", "kt", "swift", "dart", "scala"]
  | plainText => ["txt", "log"]
  | randomString => []

/-- The last part of a path that names a file. Empty parts and single dots name none, and neither
does a step up at the end. -/
def fileName? (path : List Char) : Option (List Char) :=
  let parts := (cut '/' path).filter fun part => part != [] && part != ['.']
  parts.getLast?.filter (· != ['.', '.'])

/-- What follows the last dot of a file's name, unless that dot comes first. -/
def extension? (name : List Char) : Option (List Char) :=
  let parts := cut '.' name
  if parts.length < 2 || (parts.length == 2 && parts.head? == some []) then none
  else parts.getLast?

def ofPath? (path : String) : Option Language := do
  let name ← fileName? path.toList
  if name == ".env".toList || ".env.".toList.isPrefixOf name then
    return env
  let extension := asciiLower (String.ofList (← extension? name))
  all.find? (·.extensions.contains extension)

end Language

end Highlight
