import CodeAtlas.Text.Quoted

/-!
# Failures

Why an operation did not give a result. Every cause has one wording, `Failure.message`; the logs and
the answers of the service show it.
-/

namespace CodeAtlas

/-- The kinds of failure that storage back ends and models can report on their own. -/
inductive FaultKind where
  | runtime
  | timeout
  | interrupt
  deriving Repr, DecidableEq, Inhabited

/-- Why an operation failed. -/
inductive Failure where
  /-- A value of the named type lacks a member. -/
  | noMember (owner member : String)
  /-- A constant that is not defined. -/
  | noConstant (name : String)
  /-- A value of the named type cannot be searched. -/
  | notSearchable (type : String)
  /-- A value of the named type has no items. -/
  | notIndexable (type : String)
  /-- A value of the named type has no length. -/
  | noLength (type : String)
  /-- An operator does not take operands of these types. -/
  | noOperator (symbol left right : String)
  /-- A value of this type cannot be called up item by item. -/
  | notIterable (type : String)
  /-- Not the text of a script. -/
  | notSource
  /-- A script that is not well formed. -/
  | malformed
  /-- A script with rules nested so deeply that there is no room to read them. -/
  | noRoom
  /-- A script whose tree is too deep. -/
  | deepTree
  /-- A value, written out, that is no label of an element kind. -/
  | unknownKind (written : String)
  /-- No extractor for a language. -/
  | unsupportedLanguage (language : String)
  /-- A record with invalid fields: its name, and each field's place with what is wrong there. -/
  | invalid (record : String) (problems : List (String × String))
  /-- An expression that cannot be written without a backslash. -/
  | unwritable
  /-- An expression too deep to be written. -/
  | deepExpression
  /-- An integer with too many digits to be written. -/
  | longInteger
  /-- A key that is not there, quoted. -/
  | noKey (quoted : String)
  /-- A position beyond the end of a list. -/
  | outOfRange
  /-- A position beyond the end of a text. -/
  | outOfText
  /-- A position that is not a number. -/
  | badIndex (complaint : String)
  /-- A step of zero in a range. -/
  | zeroStep
  /-- A division by zero. -/
  | zeroDivision
  /-- A variable that got no value because a loop did not run. -/
  | unset (name : String)
  /-- A package that is not installed. -/
  | missingPackage (name : String)
  /-- A table that does not exist. -/
  | noTable (name : String)
  /-- A database file that cannot be opened. -/
  | cannotOpen
  /-- A number beyond the range of the database. -/
  | tooLarge
  /-- An infinite number where an integer is due. -/
  | infiniteInteger
  /-- An integer beyond the range of floating-point numbers. -/
  | largeInteger
  /-- A collection that does not exist. -/
  | noCollection (name : String)
  /-- A file that does not exist. -/
  | noFile (path : String)
  /-- A path that is not below another one. -/
  | notBelow (path root : String)
  /-- A pattern for paths with two stars beside something else. -/
  | badPattern
  /-- A directory where a file is due. -/
  | isDirectory (path : String)
  /-- A file where a directory is due. -/
  | notDirectory (path : String)
  /-- A fault reported by a back end. -/
  | fault (kind : FaultKind) (text : String)
  deriving Repr, DecidableEq, Inhabited

namespace Failure

/-- One line of the report on an invalid record. -/
def problemText (problem : String × String) : String :=
  problem.1 ++ "\n  " ++ problem.2

/-- A text between quotes. -/
def quotedText (s : String) : String :=
  String.ofList (Text.quoted s.toList)

/-- The wording of a failure. -/
def message : Failure → String
  | noMember owner member => s!"'{owner}' object has no attribute '{member}'"
  | noConstant name => name
  | notSearchable type => s!"argument of type '{type}' is not iterable"
  | notIndexable type => s!"'{type}' object is not subscriptable"
  | noLength type => s!"object of type '{type}' has no len()"
  | noOperator symbol left right =>
    s!"unsupported operand type(s) for {symbol}: '{left}' and '{right}'"
  | notIterable type => s!"'{type}' object is not iterable"
  | notSource => "compile() arg 1 must be a string, bytes or AST object"
  | malformed => "invalid syntax"
  | noRoom => ""
  | deepTree => "maximum recursion depth exceeded during ast construction"
  | unknownKind written => s!"{written} is not a valid ElementType"
  | unsupportedLanguage language => s!"Unsupported language: {language}"
  | invalid record problems =>
    let count := problems.length
    let noun := if count == 1 then "error" else "errors"
    s!"{count} validation {noun} for {record}\n" ++ "\n".intercalate (problems.map problemText)
  | unwritable => "Unable to avoid backslash in f-string expression part"
  | deepExpression => "maximum recursion depth exceeded"
  | longInteger =>
    "Exceeds the limit (4300 digits) for integer string conversion; " ++
      "use sys.set_int_max_str_digits() to increase the limit"
  | noKey quoted => quoted
  | outOfRange => "list index out of range"
  | outOfText => "string index out of range"
  | badIndex complaint => complaint
  | zeroStep => "range() arg 3 must not be zero"
  | zeroDivision => "integer division or modulo by zero"
  | unset name =>
    s!"cannot access local variable '{name}' where it is not associated with a value"
  | missingPackage name => s!"{name} package not available"
  | noTable name => s!"no such table: {name}"
  | cannotOpen => "unable to open database file"
  | tooLarge => "Python int too large to convert to SQLite INTEGER"
  | infiniteInteger => "cannot convert float infinity to integer"
  | largeInteger => "int too large to convert to float"
  | noCollection name => s!"Collection {name} does not exist."
  | noFile path => s!"[Errno 2] No such file or directory: {quotedText path}"
  | notBelow path root =>
    s!"{quotedText path} is not in the subpath of {quotedText root}" ++
      " OR one path is relative and the other is absolute."
  | badPattern => "Invalid pattern: '**' can only be an entire path component"
  | isDirectory path => s!"[Errno 21] Is a directory: {quotedText path}"
  | notDirectory path => s!"[Errno 20] Not a directory: {quotedText path}"
  | fault _ text => text

end Failure

/-! ### Logs -/

/-- How serious an event is. -/
inductive Severity where
  | debug
  | info
  | warning
  | error
  deriving Repr, DecidableEq, Inhabited

/-- The name of a severity. -/
def Severity.label : Severity → String
  | debug => "DEBUG"
  | info => "INFO"
  | warning => "WARNING"
  | error => "ERROR"

/-- An event worth recording. -/
structure Event where
  severity : Severity
  text : String
  deriving Repr, DecidableEq, Inhabited

/-- What an operation records while it works, oldest first. -/
abbrev Log := List Event

/-- A recorded warning. -/
def Event.warn (text : String) : Event :=
  ⟨.warning, text⟩

/-- A recorded error. -/
def Event.err (text : String) : Event :=
  ⟨.error, text⟩

end CodeAtlas
