import SampleTypes.Text.Blank

/-!
# Target languages

The languages that declarations are written in, with what naming has to know of each: its keywords
and how an identifier that is one is escaped, the type names that its output uses itself, and
whether a member may be named like the type around it.
-/

namespace SampleTypes.Target

/-- A language that declarations are written in. -/
inductive Language where
  | csharp
  | typescript
  | python
  | rust
deriving DecidableEq, Repr, Inhabited

namespace Language

/-- All languages, in the order in which they are listed. -/
def all : List Language :=
  [.csharp, .typescript, .python, .rust]

/-- The name of a language. -/
def name : Language → String
  | .csharp => "csharp"
  | .typescript => "typescript"
  | .python => "python"
  | .rust => "rust"

/-- Other names that a language is found by. -/
def aliases : Language → List String
  | .csharp => ["cs", "c#"]
  | .typescript => ["ts"]
  | .python => ["py"]
  | .rust => ["rs"]

/-- The language of a name or alias, whatever its case and the blanks around it. -/
def find? (name : String) : Option Language :=
  let key := (Text.trim name).map Char.toLower
  all.find? fun language => language.name == key || language.aliases.contains key

/-- The reserved words of a language. -/
def keywords : Language → List String
  | .csharp =>
    ["abstract", "as", "base", "bool", "break", "byte", "case", "catch", "char", "checked", "class",
     "const", "continue", "decimal", "default", "delegate", "do", "double", "else", "enum", "event",
     "explicit", "extern", "false", "finally", "fixed", "float", "for", "foreach", "goto", "if",
     "implicit", "in", "int", "interface", "internal", "is", "lock", "long", "namespace", "new",
     "null", "object", "operator", "out", "override", "params", "private", "protected", "public",
     "readonly", "ref", "return", "sbyte", "sealed", "short", "sizeof", "stackalloc", "static",
     "string", "struct", "switch", "this", "throw", "true", "try", "typeof", "uint", "ulong",
     "unchecked", "unsafe", "ushort", "using", "virtual", "void", "volatile", "while"]
  | .typescript =>
    ["any", "boolean", "break", "case", "catch", "class", "const", "continue", "debugger",
     "default", "delete", "do", "else", "enum", "export", "extends", "false", "finally", "for",
     "function", "if", "import", "in", "instanceof", "never", "new", "null", "number", "object",
     "return", "string", "super", "switch", "symbol", "this", "throw", "true", "try", "typeof",
     "undefined", "unknown", "var", "void", "while", "with"]
  | .python =>
    ["False", "None", "True", "and", "as", "assert", "async", "await", "break", "class", "continue",
     "def", "del", "elif", "else", "except", "finally", "for", "from", "global", "if", "import",
     "in", "is", "lambda", "nonlocal", "not", "or", "pass", "raise", "return", "try", "while",
     "with", "yield"]
  | .rust =>
    ["as", "async", "await", "break", "const", "continue", "crate", "dyn", "else", "enum", "extern",
     "false", "fn", "for", "gen", "if", "impl", "in", "let", "loop", "match", "mod", "move", "mut",
     "pub", "ref", "return", "self", "Self", "static", "struct", "super", "trait", "true", "type",
     "unsafe", "use", "where", "while", "abstract", "become", "box", "do", "final", "macro",
     "override", "priv", "try", "typeof", "unsized", "virtual", "yield"]

/-- The keywords that cannot be written as raw identifiers. -/
def nonRawKeywords : List String :=
  ["crate", "self", "Self", "super"]

/-- An identifier in a form that is no keyword; none if it is no keyword as it stands. -/
def escapeKeyword (language : Language) (ident : String) : Option String :=
  if language.keywords.contains ident then
    some <|
      match language with
      | .csharp => "@" ++ ident
      | .typescript => ident ++ "_"
      | .python => ident ++ "_"
      | .rust => if nonRawKeywords.contains ident then ident ++ "_" else "r#" ++ ident
  else none

/-- The type names that the output uses itself; no declaration gets one of them. -/
def reservedTypeNames : Language → List String
  | .csharp => ["List", "JsonPropertyName"]
  | .typescript => []
  | .python =>
    ["Any", "None", "int", "float", "str", "bool", "list", "dataclass", "annotations"]
  | .rust =>
    ["String", "Vec", "Option", "Box", "Result", "Serialize", "Deserialize", "bool", "i64", "f64",
     "serde", "serde_json"]

/-- A member may have the name of the type that it belongs to. -/
def memberMayShareTypeName : Language → Bool
  | .csharp => false
  | _ => true

/-- Objects can be declared inside, or spelled out within, the object that holds them. -/
def supportsInline : Language → Bool
  | .rust => false
  | _ => true

end Language

end SampleTypes.Target
