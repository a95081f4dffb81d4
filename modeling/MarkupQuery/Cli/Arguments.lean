import MarkupQuery.Report.Match

namespace MarkupQuery.Cli

/-!
# Command-line arguments

The command line names one of two commands with its options, in any order with the positional
arguments. An option's value follows it as the next argument or after `=`; after `--` every
argument is positional. Each option may be given once. A command line that breaks these rules is
no request at all.
-/

open MarkupQuery.Report (MatchFormat)

/-- Where markup comes from. -/
inductive Source where
  | standardInput
  | file (path : String)
  | inline (markup : String)
  deriving Repr, DecidableEq

/-- What the `select` command is asked for. -/
structure SelectRequest where
  selector : String
  source : Source := .standardInput
  fragment : Bool := false
  firstOnly : Bool := false
  format : MatchFormat := .pretty
  /-- The bound of the branch cache, `none` for no bound. -/
  capacity : Option Nat := none
  deriving Repr, DecidableEq

/-- What the `plan` command is asked for. -/
structure PlanRequest where
  selector : String
  json : Bool := false
  deriving Repr, DecidableEq

/-- What a command line asks for. -/
inductive Request where
  | version
  | select (quiet : Bool) (request : SelectRequest)
  | plan (quiet : Bool) (request : PlanRequest)
  deriving Repr, DecidableEq

/-- Whether an option stands alone or has a value. -/
inductive OptionKind where
  | flag
  | valued
  deriving Repr, DecidableEq

/-- The options that a command knows. -/
abbrev OptionTable := List (String × OptionKind)

/-- The options that were given, by their long names, and the positional arguments. -/
structure Arguments where
  options : List (String × String) := []
  positional : List String := []
  deriving Repr, DecidableEq

namespace Arguments

/-- Put an option in front. A flag has an empty value. -/
def addOption (arguments : Arguments) (name value : String) : Arguments :=
  { arguments with options := (name, value) :: arguments.options }

/-- Put a positional argument in front. -/
def addPositional (arguments : Arguments) (argument : String) : Arguments :=
  { arguments with positional := argument :: arguments.positional }

/-- The value of an option. -/
def option? (arguments : Arguments) (name : String) : Option String :=
  arguments.options.lookup name

/-- Whether an option was given. -/
def has (arguments : Arguments) (name : String) : Bool :=
  (arguments.option? name).isSome

/-- Whether no option was given twice. -/
def eachOnce : List (String × String) → Bool
  | [] => true
  | option :: options =>
      !(options.any fun other => other.1 == option.1) && eachOnce options

end Arguments

/-- The kinds of arguments by their first characters. -/
inductive ArgumentShape where
  /-- The argument `--`. -/
  | separator
  /-- A long option, and its value if one is attached with `=`. -/
  | long (name : String) (attached : Option String)
  /-- A group of short options. -/
  | short (letters : List Char)
  | plain

/-- The shape of an argument. A hyphen alone is plain. -/
def ArgumentShape.of (argument : String) : ArgumentShape :=
  match argument.toList with
  | ['-', '-'] => .separator
  | '-' :: '-' :: rest =>
      let name := String.ofList (rest.takeWhile (fun c => c != '='))
      match rest.dropWhile (fun c => c != '=') with
      | [] => .long name none
      | _ :: value => .long name (some (String.ofList value))
  | '-' :: first :: rest => .short (first :: rest)
  | _ => .plain

/-- Whether an argument is taken for an option, and so not for the value of the one before it. -/
def looksLikeOption (argument : String) : Bool :=
  match ArgumentShape.of argument with
  | .plain => false
  | _ => true

/-- The long name of a short option of a command. -/
def longName? : Char → Option String
  | 'q' => some "quiet"
  | _ => none

/-- Sort the arguments of a command into options and positional arguments. -/
def Arguments.sort? (table : OptionTable) : List String → Option Arguments
  | [] => some {}
  | argument :: rest =>
      match ArgumentShape.of argument with
      | .separator => some { positional := rest }
      | .plain => (sort? table rest).map fun arguments => arguments.addPositional argument
      | .short letters =>
          match letters.mapM longName?, sort? table rest with
          | some names, some arguments =>
              some (names.foldr (fun name arguments => arguments.addOption name "") arguments)
          | _, _ => none
      | .long name attached =>
          match table.lookup name, attached with
          | some .flag, none => (sort? table rest).map fun arguments => arguments.addOption name ""
          | some .valued, some value =>
              (sort? table rest).map fun arguments => arguments.addOption name value
          | some .valued, none =>
              match rest with
              | [] => none
              | value :: others =>
                  if looksLikeOption value then
                    none
                  else
                    (sort? table others).map fun arguments => arguments.addOption name value
          | _, _ => none

/-- The options of the `select` command. -/
def selectOptions : OptionTable :=
  [("quiet", .flag), ("html", .valued), ("fragment", .flag), ("first", .flag),
    ("format", .valued), ("capacity", .valued)]

/-- The options of the `plan` command. -/
def planOptions : OptionTable :=
  [("quiet", .flag), ("json", .flag)]

/-- The number of values of a word of 64 bits. -/
def wordLimit : Nat := 18446744073709551616

/-- Decimal digits, possibly after a plus sign, whose value fits in a word. -/
def capacity? (text : String) : Option Nat :=
  let digits :=
    match text.toList with
    | '+' :: digits => digits
    | digits => digits
  if digits.isEmpty || !digits.all Char.isDigit then
    none
  else
    let capacity := Nat.ofDigitChars 10 digits 0
    if capacity < wordLimit then some capacity else none

/-- Read the value of an option, if it was given; a value that cannot be read is refused. -/
def readOption?
    {α : Type}
    (read? : String → Option α) :
    Option String → Option (Option α)
  | none => some none
  | some text => (read? text).map some

/-- Where the markup comes from: inline, from a file, or else from the standard input. -/
def source? (inline : Option String) (paths : List String) : Option Source :=
  match inline, paths with
  | none, [] => some .standardInput
  | none, [path] => if path.isEmpty then none else some (.file path)
  | some markup, [] => some (.inline markup)
  | _, _ => none

/-- The request of a `select` command. -/
def selectRequest? (arguments : Arguments) : Option SelectRequest :=
  match arguments.positional with
  | [] => none
  | selector :: paths =>
      match source? (arguments.option? "html") paths,
          readOption? MatchFormat.ofName? (arguments.option? "format"),
          readOption? capacity? (arguments.option? "capacity") with
      | some source, some format, some capacity =>
          some {
            selector := selector
            source := source
            fragment := arguments.has "fragment"
            firstOnly := arguments.has "first"
            format := format.getD .pretty
            capacity := capacity
          }
      | _, _, _ => none

/-- The request of a `plan` command. -/
def planRequest? (arguments : Arguments) : Option PlanRequest :=
  match arguments.positional with
  | [selector] => some { selector := selector, json := arguments.has "json" }
  | _ => none

/-- The arguments of a command, if they fit its options and none is given twice. -/
def commandArguments? (table : OptionTable) (arguments : List String) : Option Arguments :=
  match Arguments.sort? table arguments with
  | none => none
  | some sorted => if Arguments.eachOnce sorted.options then some sorted else none

/-- What the short options in front of a command ask for. -/
inductive Leading where
  | version
  | go (quiet : Bool)
  | refused

/-- Read a group of short options in front of a command, from left to right. -/
def readLeading (quiet : Bool) : List Char → Leading
  | [] => .go quiet
  | 'V' :: _ => .version
  | 'q' :: rest => if quiet then .refused else readLeading true rest
  | _ => .refused

/-- The request of a command line, `quiet` if that option was read before. -/
def Request.parse? (quiet : Bool) : List String → Option Request
  | [] => none
  | "select" :: rest =>
      (commandArguments? selectOptions rest).bind fun arguments =>
        (selectRequest? arguments).map (.select (quiet || arguments.has "quiet"))
  | "plan" :: rest =>
      (commandArguments? planOptions rest).bind fun arguments =>
        (planRequest? arguments).map (.plan (quiet || arguments.has "quiet"))
  | argument :: rest =>
      match ArgumentShape.of argument with
      | .long "version" none => some .version
      | .long "quiet" none => if quiet then none else parse? true rest
      | .short letters =>
          match readLeading quiet letters with
          | .version => some .version
          | .go quiet => parse? quiet rest
          | .refused => none
      | _ => none

/-- The request of a command line. -/
def request? (arguments : List String) : Option Request :=
  Request.parse? false arguments

end MarkupQuery.Cli
