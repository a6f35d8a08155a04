/-! The arguments of the program: options with one or two dashes, tasks and files. -/

namespace TurtleGraphics

/-- The options that stand alone. -/
inductive Flag where
  | verbose
  | help
deriving DecidableEq

/-- The options that are followed by a value. -/
inductive Key where
  | settings
  | image
  | program
deriving DecidableEq

/-- The options of one place in the command line, by their long names and by their letters. -/
structure OptionTable where
  longFlags : List (String × Flag)
  longKeys : List (String × Key)
  letterFlags : List (Char × Flag)
  letterKeys : List (Char × Key)
  /-- Whether options may follow other arguments. -/
  mixed : Bool

/-- What the arguments hold. Of several values of one key the last counts. -/
structure Arguments where
  flags : List Flag
  values : List (Key × String)
  plain : List String
deriving DecidableEq

namespace Arguments

def value? (a : Arguments) (key : Key) : Option String := (a.values.reverse.find? (·.1 = key)).map (·.2)

end Arguments

/-- What one argument is: plain, the end of all options, flags, or a key with or without its value. -/
inductive Token where
  | plain
  | endOfOptions
  | flags (fs : List Flag)
  | pair (key : Key) (value : String)
  | key (key : Key)
  | unknown
deriving DecidableEq

namespace OptionTable

variable (table : OptionTable)

/-- Letters behind one dash: flags, or a key with the rest as its value. -/
def readLetters : List Char → Token
  | [] => .flags []
  | c :: rest =>
    match table.letterKeys.lookup c with
    | some key => if rest.isEmpty then .key key else .pair key (String.ofList rest)
    | none =>
      match table.letterFlags.lookup c, readLetters rest with
      | some f, .flags fs => .flags (f :: fs)
      | _, _ => .unknown

/-- A long name with its dashes, and perhaps a value behind an equals sign. -/
def readLong (text : List Char) : Token :=
  let name := String.ofList (text.takeWhile (· ≠ '='))
  match table.longKeys.lookup name, table.longFlags.lookup name, text.dropWhile (· ≠ '=') with
  | some key, _, [] => .key key
  | some key, _, _ :: value => .pair key (String.ofList value)
  | none, some f, [] => .flags [f]
  | none, _, _ => .unknown

def readToken (argument : String) : Token :=
  match argument.toList with
  | ['-', '-'] => .endOfOptions
  | '-' :: '-' :: rest => table.readLong ('-' :: '-' :: rest)
  | '-' :: c :: rest => table.readLetters (c :: rest)
  | _ => .plain

/-- Sorts the arguments, unless an option is unknown or lacks its value. -/
def read? : List String → Option Arguments
  | [] => some ⟨[], [], []⟩
  | argument :: rest =>
    match table.readToken argument with
    | .plain =>
      if table.mixed then (read? rest).map fun a => { a with plain := argument :: a.plain }
      else some ⟨[], [], argument :: rest⟩
    | .endOfOptions => some ⟨[], [], rest⟩
    | .flags fs => (read? rest).map fun a => { a with flags := fs ++ a.flags }
    | .pair key value => (read? rest).map fun a => { a with values := (key, value) :: a.values }
    | .key key =>
      match rest with
      | [] => none
      | value :: rest => (read? rest).map fun a => { a with values := (key, value) :: a.values }
    | .unknown => none

end OptionTable

/-- What the program is asked to do. Of the operands of a task there should be one, which names its script. -/
inductive Task where
  | run (operands : List String) (settings image program : Option String)
  | check (operands : List String)
  | demo (image : Option String)
  | help
deriving DecidableEq

namespace Task

def names : Task → List String
  | .run operands settings image program => operands ++ settings.toList ++ image.toList ++ program.toList
  | .check operands => operands
  | .demo image => image.toList
  | .help => []

end Task

structure Request where
  verbose : Bool
  task : Task
deriving DecidableEq

namespace Request

def mainOptions : OptionTable :=
  ⟨[("--verbose", .verbose), ("--help", .help)], [], [('v', .verbose)], [], false⟩

def runOptions : OptionTable :=
  ⟨[("--help", .help)], [("--config", .settings), ("--png", .image), ("--gcode", .program)], [], [('c', .settings)],
    true⟩

def checkOptions : OptionTable := ⟨[("--help", .help)], [], [], [], true⟩

def demoOptions : OptionTable := ⟨[("--help", .help)], [("--png", .image)], [], [], true⟩

def readRun (a : Arguments) : Option Task :=
  some (.run a.plain (a.value? .settings) (a.value? .image) (a.value? .program))

def readCheck (a : Arguments) : Option Task := some (.check a.plain)

def readDemo (a : Arguments) : Option Task :=
  match a.plain with
  | [] => some (.demo (a.value? .image))
  | _ => none

/-- A request for help wins over plain arguments. -/
def readTask (table : OptionTable) (read : Arguments → Option Task) (arguments : List String) : Option Task :=
  (table.read? arguments).bind fun a => if a.flags.contains .help then some .help else read a

def task? (name : String) (arguments : List String) : Option Task :=
  if name = "run" then readTask runOptions readRun arguments
  else if name = "check" then readTask checkOptions readCheck arguments
  else if name = "demo" then readTask demoOptions readDemo arguments
  else none

def read? (arguments : List String) : Option Request :=
  (mainOptions.read? arguments).bind fun a =>
    let verbose := a.flags.contains .verbose
    if a.flags.contains .help then some ⟨verbose, .help⟩
    else match a.plain with
      | [] => none
      | name :: rest => (task? name rest).map fun task => ⟨verbose, task⟩

end Request

end TurtleGraphics
