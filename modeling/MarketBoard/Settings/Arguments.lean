/-!
The arguments of the command line.

* `OptionName`: the options, each with a long name, maybe a short one, and whether it takes a value.
* `ArgumentError`: why arguments are refused; asking for help or for the version counts as one.
* `Arguments.collect`: the options that the arguments give, each at most once, with their values as
  written.
* `ValueKind.check`: what a value has to look like. A value is looked at when the next option begins, or
  at the end; an option that does not exist is refused at once.
-/

namespace MarketBoard

/-- The options of the command line. -/
inductive OptionName where
  | host | port | path | depthHost | depthPort | offset | maxLevels | depthTimeout | recolor | logFile
  | verbose | help | version
deriving DecidableEq, Repr

namespace OptionName

/-- All options. -/
def all : List OptionName :=
  [host, port, path, depthHost, depthPort, offset, maxLevels, depthTimeout, recolor, logFile, verbose,
    help, version]

/-- The long name. -/
def long : OptionName → String
  | host => "host"
  | port => "port"
  | path => "path"
  | depthHost => "snapshot-host"
  | depthPort => "snapshot-port"
  | offset => "offset"
  | maxLevels => "max-levels"
  | depthTimeout => "snapshot-timeout-ms"
  | recolor => "recolor"
  | logFile => "log-file"
  | verbose => "verbose"
  | help => "help"
  | version => "version"

/-- The short name, if there is one. -/
def short? : OptionName → Option Char
  | host => some 'w'
  | port => some 'p'
  | offset => some 'o'
  | verbose => some 'v'
  | help => some 'h'
  | version => some 'V'
  | _ => none

/-- The option needs a value. -/
def takesValue : OptionName → Bool
  | verbose | help | version => false
  | _ => true

/-- The option of a long name. -/
def ofLong? (name : List Char) : Option OptionName := all.find? (·.long.toList = name)

/-- The option of a short name. -/
def ofShort? (c : Char) : Option OptionName := all.find? (·.short? = some c)

end OptionName

/-- Why arguments are refused. -/
inductive ArgumentError where
  /-- There is no such option, and nothing but options is taken. -/
  | unknown
  /-- A value is missing, or is none of those that are possible. -/
  | badValue
  /-- A value is no number, or none of the right size. -/
  | badNumber
  /-- An option is given twice. -/
  | repeated
  /-- A value is given where none belongs. -/
  | needlessValue
  /-- The user asks how to use the program. -/
  | help
  /-- The user asks for the version of the program. -/
  | version
deriving DecidableEq, Repr

/-- An option as the list of options shows it. -/
def OptionName.synopsis (o : OptionName) : String :=
  let short := match o.short? with
    | some c => s!"-{c}, "
    | none => "    "
  let value := if o.takesValue then " VALUE" else ""
  "  " ++ short ++ "--" ++ o.long ++ value

/-- How the program is called. -/
def usageText : String :=
  "Usage: tickboard [OPTIONS]\n\nOptions:\n" ++
    String.join (OptionName.all.map fun o => o.synopsis ++ "\n")

/-- The name and version of the program. -/
def versionText : String := "tickboard 0.1.0\n"

/-! ### Values -/

/-- The number that a text stands for: digits, and before them a plus sign or, where it is allowed, a
minus sign. -/
def integerOf? (minus : Bool) (cs : List Char) : Option Int :=
  let unsigned (ds : List Char) : Option Nat :=
    if ds.isEmpty || !ds.all Char.isDigit then none else some (Nat.ofDigitChars 10 ds 0)
  match cs with
  | '+' :: ds => (unsigned ds).map Int.ofNat
  | '-' :: ds => if minus then (unsigned ds).map fun n => -(n : Int) else none
  | ds => (unsigned ds).map Int.ofNat

/-- What the value of an option has to look like. -/
inductive ValueKind where
  | anyText
  | filledText
  | oneOf (words : List String)
  /-- A number within bounds. -/
  | number (minus : Bool) (least most : Int)
deriving DecidableEq, Repr

/-- A text passes as a value of this kind. -/
def ValueKind.check (value : String) : ValueKind → Except ArgumentError Unit
  | anyText => .ok ()
  | filledText => if value.isEmpty then .error .badValue else .ok ()
  | oneOf words => if value ∈ words then .ok () else .error .badValue
  | number minus least most =>
    match integerOf? minus value.toList with
    | some n => if least ≤ n ∧ n ≤ most then .ok () else .error .badNumber
    | none => .error .badNumber

/-- The kind of the value of an option. -/
def OptionName.kind : OptionName → ValueKind
  | port | depthPort | maxLevels => .number true 0 65535
  | offset => .number true Int64.minValue.toInt Int64.maxValue.toInt
  | depthTimeout => .number false 0 (UInt64.size - 1)
  | recolor => .oneOf ["trade", "tick"]
  | logFile => .filledText
  | _ => .anyText

/-! ### The arguments one after another -/

/-- The arguments up to some point. -/
structure Arguments where
  /-- The options whose values passed, last first. -/
  given : List (OptionName × String) := []
  /-- The last option, whose value is missing or not looked at yet. -/
  open? : Option (OptionName × Option String) := none
  /-- A double dash was there, behind which there are no options. -/
  closed : Bool := false
deriving Repr

namespace Arguments

/-- Takes an option with its value. -/
def accept (a : Arguments) (o : OptionName) (value : String) : Except ArgumentError Arguments :=
  if a.given.any (·.1 = o) then .error .repeated
  else do
    o.kind.check value
    pure { a with given := (o, value) :: a.given }

/-- Looks at the value of the last option. -/
def settle (a : Arguments) : Except ArgumentError Arguments :=
  match a.open? with
  | none => .ok a
  | some (_, none) => .error .badValue
  | some (o, some value) => { a with open? := none }.accept o value

/-- Takes an option that needs a value, which may be written right behind it. -/
def withValue (a : Arguments) (o : OptionName) (value : Option String) :
    Except ArgumentError Arguments := do
  let a ← a.settle
  match value with
  | some value => a.accept o value
  | none => pure { a with open? := some (o, none) }

/-- Takes an option that needs no value. -/
def flag (a : Arguments) (o : OptionName) : Except ArgumentError Arguments := do
  let a ← a.settle
  match o with
  | .help => throw .help
  | .version => throw .version
  | _ => a.accept o "true"

/-- Takes an option by its long name. -/
def long (a : Arguments) (text : List Char) : Except ArgumentError Arguments :=
  let name := text.takeWhile (· ≠ '=')
  let value := match text.dropWhile (· ≠ '=') with
    | [] => none
    | _ :: rest => some (String.ofList rest)
  match OptionName.ofLong? name with
  | none => .error .unknown
  | some o =>
    if o.takesValue then a.withValue o value
    else if value.isSome then .error .needlessValue
    else a.flag o

/-- Takes options by their short names, one after another. The first one that needs a value has the
rest of the text as its value, or what stands behind an equals sign. -/
def shorts (a : Arguments) : List Char → Except ArgumentError Arguments
  | [] => .ok a
  | c :: rest =>
    match OptionName.ofShort? c with
    | none => .error .unknown
    | some o =>
      if o.takesValue then
        a.withValue o (match rest with
          | [] => none
          | '=' :: value => some (String.ofList value)
          | value => some (String.ofList value))
      else do
        let a ← a.flag o
        a.shorts rest

/-- Takes a text that is no option: the value that the last option needs. -/
def value (a : Arguments) (text : String) : Except ArgumentError Arguments :=
  match a.closed, a.open? with
  | false, some (o, none) => .ok { a with open? := some (o, some text) }
  | _, _ => .error .unknown

/-- Takes the next argument. -/
def take (a : Arguments) (text : String) : Except ArgumentError Arguments :=
  if a.closed then a.value text
  else
    match text.toList with
    | ['-', '-'] => .ok { a with closed := true }
    | '-' :: '-' :: rest => a.long rest
    | '-' :: c :: rest => a.shorts (c :: rest)
    | _ => a.value text

/-- The options that the arguments give. -/
def collect (texts : List String) : Except ArgumentError (List (OptionName × String)) := do
  let a ← texts.foldlM take {}
  let a ← a.settle
  pure a.given

end Arguments

end MarketBoard
