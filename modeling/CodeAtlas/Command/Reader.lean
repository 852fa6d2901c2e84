import CodeAtlas.Command.Help
import CodeAtlas.Failure
import CodeAtlas.Files.Tree
import CodeAtlas.Schema.Number
import CodeAtlas.Text.Similarity

/-!
# Reading a command line

A command line is read in two steps: first options and arguments are told apart, then their values are
read, those of the options in the order in which they were given.
-/

namespace CodeAtlas.Command

open CodeAtlas.Text

/-- What is wrong with a command line. -/
inductive UsageError where
  | noSuchOption (name : String) (similar : List String)
  | needsValue (name : String)
  | takesNoValue (name : String)
  | missingCommand
  | noSuchCommand (name : String)
  | missingArgument (label : String)
  | invalidValue (place complaint : String)
  | extraArguments (args : List String)
  deriving Repr, DecidableEq, Inhabited

namespace UsageError

/-- The hint at names that may be meant. -/
def hint : List String → String
  | [] => ""
  | [name] => s!" Did you mean {name}?"
  | names => " (Possible options: " ++ ", ".intercalate names ++ ")"

/-- The wording of an error. -/
def message : UsageError → String
  | noSuchOption name similar => s!"No such option: {name}" ++ hint similar
  | needsValue name => s!"Option {Failure.quotedText name} requires an argument."
  | takesNoValue name => s!"Option {Failure.quotedText name} does not take a value."
  | missingCommand => "Missing command."
  | noSuchCommand name => s!"No such command {Failure.quotedText name}."
  | missingArgument label => s!"Missing argument '{label}'."
  | invalidValue place complaint => s!"Invalid value for {place}: {complaint}"
  | extraArguments args =>
    let noun := if args.length = 1 then "argument" else "arguments"
    s!"Got unexpected extra {noun} (" ++ " ".intercalate args ++ ")"

/-- Whether an error is shown without the line on how the command is used. -/
def isBare : UsageError → Bool
  | needsValue _ | takesNoValue _ => true
  | _ => false

end UsageError

/-! ### Options and arguments -/

/-- An option that was given: its text, or whether it was turned on. -/
structure Given where
  option : CommandOption
  raw : Value

/-- What one piece of a command line gives: options, and perhaps a last one whose value is the next
piece. -/
structure Piece where
  given : List Given := []
  open? : Option (String × CommandOption) := none

/-- Reads a long option. -/
def readLong (s : CommandSpec) (name : String) (value : Option String) : Except UsageError Piece :=
  match s.find? name with
  | none => .error (.noSuchOption name (similarTo name s.longNames))
  | some (o, on) =>
    match o.type?, value with
    | some _, some v => .ok { given := [⟨o, .text v⟩] }
    | some _, none => .ok { open? := some (name, o) }
    | none, some _ => .error (.takesNoValue name)
    | none, none => .ok { given := [⟨o, .bool on⟩] }

/-- Reads short options that share a dash. The first one with a value takes what is left. -/
def readShort (s : CommandSpec) : List Char → Except UsageError Piece
  | [] => .ok {}
  | c :: cs =>
    let name := String.ofList ['-', c]
    match (s.find? name).filter fun _ => isShort name with
    | none => .error (.noSuchOption name [])
    | some (o, on) =>
      if o.type?.isSome then
        if cs.isEmpty then .ok { open? := some (name, o) }
        else .ok { given := [⟨o, .text (String.ofList cs)⟩] }
      else (readShort s cs).map fun p => { p with given := ⟨o, .bool on⟩ :: p.given }

/-- Reads a piece that starts with a dash. A long option may have its value behind an equals sign. -/
def readPiece (s : CommandSpec) (cs : List Char) : Except UsageError Piece :=
  match cs with
  | '-' :: '-' :: _ =>
    match cut? ['='] cs with
    | some (name, value) => readLong s (String.ofList name) (some (String.ofList value))
    | none => readLong s (String.ofList cs) none
  | _ => readShort s (cs.drop 1)

/-- Whether a piece of a command line is an option. -/
def isOption (cs : List Char) : Bool :=
  cs.head? == some '-' && 1 < cs.length

/-- Tells options and arguments apart. Two dashes end the options; so does an argument, unless they may be
`mixed`. -/
def readPieces (s : CommandSpec) (mixed : Bool) :
    List String → Except UsageError (List Given × List String)
  | [] => .ok ([], [])
  | piece :: rest =>
    if piece = "--" then .ok ([], rest)
    else if isOption piece.toList then
      match readPiece s piece.toList with
      | .error e => .error e
      | .ok p =>
        match p.open? with
        | none => (readPieces s mixed rest).map fun r => (p.given ++ r.1, r.2)
        | some (name, o) =>
          match rest with
          | [] => .error (.needsValue name)
          | value :: more =>
            (readPieces s mixed more).map fun r => (p.given ++ ⟨o, .text value⟩ :: r.1, r.2)
    else if mixed then (readPieces s mixed rest).map fun r => (r.1, piece :: r.2)
    else .ok ([], piece :: rest)

/-! ### Values -/

/-- Whether there is something at a path. Only a folder is there under a path that ends with a slash. -/
def isThere (d : Disk) (text : String) : Bool :=
  let last := ((splitOn ['/'] text.toList).getLast?).getD []
  match d.get? (Path.ofString text) with
  | some t => !text.isEmpty && (!t.isFile || !(last.isEmpty || last == ['.']))
  | none => false

/-- Reads a value, or says what is wrong with it. -/
def readValue (d : Disk) (type : ValueType) (text : String) : Except String Value :=
  let shown := Failure.quotedText text
  match type with
  | .text => .ok (.text text)
  | .int =>
    match Schema.readInt? text.toList with
    | some n => .ok (.int n)
    | none => .error s!"{shown} is not a valid integer."
  | .float =>
    match Schema.readFloat? text.toList with
    | some x => .ok (.float x)
    | none => .error s!"{shown} is not a valid float."
  | .choice options =>
    if options.contains text then .ok (.text text)
    else
      .error (s!"{shown} is not one of " ++ ", ".intercalate (options.map Failure.quotedText) ++ ".")
  | .existing =>
    if isThere d text then .ok (.text text) else .error s!"Path {shown} does not exist."

/-- The values that were read, by the keys of their options and arguments. -/
abbrev Bindings := List (String × Value)

/-- Where the value of an option stands. -/
def CommandOption.place (o : CommandOption) : String :=
  " / ".intercalate (o.names.map fun n => s!"'{n}'")

/-- Reads a value that was given for an option. -/
def readGiven (d : Disk) (o : CommandOption) (raw : Value) : Except UsageError Value :=
  match o.type?, raw with
  | some type, .text text => (readValue d type text).mapError (.invalidValue o.place)
  | _, _ => .ok raw

/-- Reads what was given for an option: all of it, or the last. -/
def readOption (d : Disk) (o : CommandOption) (raws : List Value) :
    Except UsageError (String × Value) :=
  match o.kind with
  | .value _ true => do
    let values ← raws.mapM (readGiven d o)
    return (o.key, .list values)
  | _ => do
    let value ← readGiven d o (raws.getLast?.getD .null)
    return (o.key, value)

/-- The options that were given, in the order of their first places, each with all that was given. -/
def gathered (given : List Given) : List (CommandOption × List Value) :=
  (given.map (·.option)).eraseDups.map fun o =>
    (o, (given.filter (·.option == o)).map (·.raw))

/-- Reads the arguments; gives also those that are left over. -/
def readArguments (d : Disk) :
    List CommandArgument → List String → Except UsageError (Bindings × List String)
  | [], rest => .ok ([], rest)
  | a :: _, [] => .error (.missingArgument a.label)
  | a :: as, text :: rest => do
    let value ← (readValue d a.type text).mapError (.invalidValue s!"'{a.label}'")
    let (bindings, left) ← readArguments d as rest
    return ((a.key, value) :: bindings, left)

/-- Whether the help page was asked for. -/
def asksForHelp (given : List Given) : Bool :=
  given.any (·.option.kind == .help)

/-- Reads the command line of a command; none if the help page was asked for. -/
def CommandSpec.read (s : CommandSpec) (d : Disk) (args : List String) :
    Except UsageError (Option Bindings) := do
  let (given, rest) ← readPieces s true args
  if asksForHelp given then return none
  let options ← (gathered given).mapM fun g => readOption d g.1 g.2
  let (arguments, left) ← readArguments d s.arguments rest
  if left.isEmpty then return some (options ++ arguments)
  else .error (.extraArguments left)

end CodeAtlas.Command
