/-!
# Command-line arguments

A script file and options. Options that begin with one dash may be written together, and the value
of an option may follow it at once, behind an equals sign, or as the next argument. Behind two
dashes alone there are no more options. Main definition: `Arguments.parse`.
-/

namespace BrowserScript.CommandLine

inductive Switch where
  | param
  | endpoint
  | target
  | headless
  | settings
  | detach
  | check
  | verbose
  | quiet
  | help
  | version
  deriving DecidableEq, Repr

namespace Switch

def all : List Switch :=
  [param, endpoint, target, headless, settings, detach, check, verbose, quiet, help, version]

def longName : Switch → String
  | param => "param"
  | endpoint => "endpoint"
  | target => "target"
  | headless => "headless"
  | settings => "settings"
  | detach => "detach"
  | check => "check"
  | verbose => "verbose"
  | quiet => "quiet"
  | help => "help"
  | version => "version"

def letter? : Switch → Option Char
  | param => some 'P'
  | verbose => some 'v'
  | quiet => some 'q'
  | help => some 'h'
  | version => some 'V'
  | _ => none

/-- What its value is called, if it has one. -/
def valueName? : Switch → Option String
  | param => some "KEY=VALUE"
  | endpoint => some "ENDPOINT"
  | target => some "TARGET"
  | settings => some "SETTINGS"
  | _ => none

def takesValue (switch : Switch) : Bool := switch.valueName?.isSome

/-- May be given more than once. -/
def isRepeatable : Switch → Bool
  | param | verbose => true
  | _ => false

/-- Whether a value will do; a file has a name. -/
def accepts (switch : Switch) (value : String) : Bool := switch != settings || !value.isEmpty

def purpose : Switch → String
  | param => "Set a parameter (can be used multiple times)"
  | endpoint => "Attach to a running browser (ws:// URL or http://host:port)"
  | target => "Target id to run against (with --endpoint; defaults to the first page)"
  | headless => "Launch the browser headless"
  | settings => "Settings file (YAML)"
  | detach => "Detach from the tab when the script finishes"
  | check => "Validate the script without running"
  | verbose => "Verbose output (-v for info, -vv for debug)"
  | quiet => "Quiet mode (only errors)"
  | help => "Print help"
  | version => "Print version"

def ofLongName? (name : String) : Option Switch := all.find? fun switch => switch.longName == name

def ofLetter? (letter : Char) : Option Switch :=
  all.find? fun switch => switch.letter? == some letter

end Switch

/-- Options and files in the order they are given. -/
structure Given where
  switches : List (Switch × String)
  files : List String
  deriving DecidableEq, Repr

/-- Why there is nothing to run. -/
inductive Refusal where
  | misuse
  | help
  | version
  deriving DecidableEq, Repr

namespace Given

/-- Adds an option; asking for help ends everything. -/
def addSwitch (given : Given) (switch : Switch) (value : String) : Except Refusal Given :=
  if switch = .help then .error .help
  else if switch = .version then .error .version
  else if !switch.accepts value then .error .misuse
  else if !switch.isRepeatable && given.switches.any (fun entry => entry.1 == switch) then
    .error .misuse
  else .ok { given with switches := given.switches ++ [(switch, value)] }

/-- Adds a file; there is only one. -/
def addFile (given : Given) (name : String) : Except Refusal Given :=
  if given.files.isEmpty && !name.isEmpty then .ok { given with files := [name] } else .error .misuse

end Given

/-- Whether an argument holds options; a dash alone does not. -/
def isSwitch (argument : String) : Bool := argument.startsWith "-" && argument != "-"

/-- A value that begins with an equals sign is what follows the sign. -/
def attachedValue : List Char → String
  | '=' :: value => String.ofList value
  | value => String.ofList value

/-- Options written together behind one dash. The last may still lack its value. -/
def readLetters (given : Given) : List Char → Except Refusal (Given × Option Switch)
  | [] => .ok (given, none)
  | letter :: rest =>
    match Switch.ofLetter? letter with
    | none => .error .misuse
    | some switch =>
      if switch.takesValue then
        if rest.isEmpty then .ok (given, some switch)
        else do return (← given.addSwitch switch (attachedValue rest), none)
      else do readLetters (← given.addSwitch switch "") rest

/-- One option behind two dashes. It may still lack its value. -/
def readLong (given : Given) (text : List Char) : Except Refusal (Given × Option Switch) :=
  let name := String.ofList (text.takeWhile (· != '='))
  match Switch.ofLongName? name, text.dropWhile (· != '=') with
  | none, _ => .error .misuse
  | some switch, [] =>
    if switch.takesValue then .ok (given, some switch)
    else do return (← given.addSwitch switch "", none)
  | some switch, _ :: value =>
    if switch.takesValue then do return (← given.addSwitch switch (String.ofList value), none)
    else .error .misuse

/-- Reads arguments one after the other; `lacking` is an option that waits for its value. -/
def readAll (given : Given) (lacking : Option Switch) : List String → Except Refusal Given
  | [] => if lacking.isSome then .error .misuse else .ok given
  | argument :: rest =>
    match lacking with
    | some switch =>
      if isSwitch argument then .error .misuse
      else do readAll (← given.addSwitch switch argument) none rest
    | none =>
      if argument = "--" then rest.foldlM Given.addFile given
      else
        match argument.toList with
        | '-' :: '-' :: text => do
          let (given, lacking) ← readLong given text
          readAll given lacking rest
        | '-' :: letter :: letters => do
          let (given, lacking) ← readLetters given (letter :: letters)
          readAll given lacking rest
        | _ => do readAll (← given.addFile argument) none rest

structure Arguments where
  script : String
  params : List String
  endpoint : Option String
  target : Option String
  headless : Bool
  settings : Option String
  detach : Bool
  check : Bool
  verbosity : Nat
  quiet : Bool
  deriving DecidableEq, Repr

namespace Given

def values (given : Given) (switch : Switch) : List String :=
  (given.switches.filter fun entry => entry.1 == switch).map Prod.snd

def has (given : Given) (switch : Switch) : Bool := !(given.values switch).isEmpty

/-- Options that go together: a target needs an endpoint, and no browser is launched at one. -/
def arguments (given : Given) : Except Refusal Arguments :=
  match given.files with
  | [] => .error .misuse
  | script :: _ =>
    if given.has .target && !given.has .endpoint then .error .misuse
    else if given.has .headless && given.has .endpoint then .error .misuse
    else
      .ok
        { script
          params := given.values .param
          endpoint := (given.values .endpoint).head?
          target := (given.values .target).head?
          headless := given.has .headless
          settings := (given.values .settings).head?
          detach := given.has .detach
          check := given.has .check
          verbosity := (given.values .verbose).length
          quiet := given.has .quiet }

end Given

def Arguments.parse (arguments : List String) : Except Refusal Arguments := do
  (← readAll ⟨[], []⟩ none arguments).arguments

end BrowserScript.CommandLine
