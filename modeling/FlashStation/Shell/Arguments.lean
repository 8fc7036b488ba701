/-
# The command line

A command line is read from left to right, first at the level of the program and
then at the level of the command that it names. Some options may stand at both
levels; the deeper one counts, and what no level gives is taken from the
environment. The first thing that is wrong, a request for help or one for the
version ends the reading.

A long option has its value behind `=` or as the next word; a short one directly
behind it, behind `=` or as the next word. Short options can share a dash. A word
that starts with a dash is no value unless it is attached or nothing but a dash.

Key definitions: `CommandLine`, `CommandLine.read`, `Given.readLevel`,
`Invocation`, `Command`.
-/
import FlashStation.Image.Choice

namespace FlashStation

/-- The commands. -/
inductive CommandName where
  | listPorts | catalog | plan | reclaim
  deriving DecidableEq, Repr, Inhabited

namespace CommandName

/-- All commands. -/
def all : List CommandName := [.listPorts, .catalog, .plan, .reclaim]

/-- A command's word. -/
def word : CommandName → String
  | .listPorts => "list-ports"
  | .catalog => "catalog"
  | .plan => "plan"
  | .reclaim => "reclaim"

/-- The command of a word. -/
def ofWord? (s : String) : Option CommandName :=
  all.find? (·.word == s)

end CommandName

/-- The options. -/
inductive Switch where
  | port | catalog | verbose | quiet | nonInteractive | config
  | json | all
  | package | file | address | flashSize | flashMode | flashFreq | eraseAll
  | help | version
  deriving DecidableEq, Repr, Inhabited

namespace Switch

/-- An option's long name. -/
def long : Switch → String
  | .port => "port"
  | .catalog => "catalog"
  | .verbose => "verbose"
  | .quiet => "quiet"
  | .nonInteractive => "non-interactive"
  | .config => "config"
  | .json => "json"
  | .all => "all"
  | .package => "package"
  | .file => "file"
  | .address => "address"
  | .flashSize => "flash-size"
  | .flashMode => "flash-mode"
  | .flashFreq => "flash-freq"
  | .eraseAll => "erase-all"
  | .help => "help"
  | .version => "version"

/-- An option's short name. -/
def short? : Switch → Option Char
  | .port => some 'p'
  | .verbose => some 'v'
  | .quiet => some 'q'
  | .help => some 'h'
  | .version => some 'V'
  | _ => none

/-- Whether an option has a value. -/
def hasValue : Switch → Bool
  | .port | .catalog | .config | .package | .file | .address | .flashSize | .flashMode
  | .flashFreq => true
  | _ => false

/-- Whether a text will do as an option's value. -/
def accepts : Switch → String → Bool
  | .config, s | .file, s => !s.isEmpty
  | .flashSize, s => (Param.choice? (κ := SizeChoice) s).isSome
  | .flashMode, s => (Param.choice? (κ := ModeChoice) s).isSome
  | .flashFreq, s => (Param.choice? (κ := FreqChoice) s).isSome
  | _, _ => true

/-- The options that may stand at every level. -/
def shared : List Switch :=
  [.port, .catalog, .verbose, .quiet, .nonInteractive, .config, .help, .version]

/-- The options that may stand behind a command. -/
def ofCommand : CommandName → List Switch
  | .listPorts => shared ++ [.json, .all]
  | .catalog => shared ++ [.json]
  | .plan => shared ++ [.package, .file, .address, .flashSize, .flashMode, .flashFreq,
      .eraseAll, .json]
  | .reclaim => shared

end Switch

/-- Why reading a command line ended early. -/
inductive Halt where
  /-- Something is wrong. -/
  | misuse
  /-- Help was asked for. -/
  | help
  /-- The version was asked for. -/
  | version
  deriving DecidableEq, Repr, Inhabited

/-- The options of one level with their values, the last one first. -/
abbrev Given := List (Switch × String)

namespace Given

/-- Whether an option was given. -/
def has (g : Given) (s : Switch) : Bool :=
  g.any (·.1 == s)

/-- An option's value. -/
def value? (g : Given) (s : Switch) : Option String :=
  (g.find? (·.1 == s)).map (·.2)

/-- How often an option was given. -/
def count (g : Given) (s : Switch) : Nat :=
  g.countP (·.1 == s)

/-- Puts an option down. Only `verbose` can be given again. -/
def put (g : Given) (s : Switch) (value : String) : Except Halt Given :=
  if s = .help then .error .help
  else if s = .version then .error .version
  else if s ≠ .verbose ∧ g.has s then .error .misuse
  else if s.accepts value then .ok ((s, value) :: g)
  else .error .misuse

/-- Reads a long option from behind its dashes, and says whether its value has to
come next. -/
def readLong (allowed : List Switch) (g : Given) (word : List Char) :
    Except Halt (Given × Option Switch) :=
  match allowed.find? (·.long.toList == word.takeWhile (· != '=')) with
  | none => .error .misuse
  | some s =>
    match word.dropWhile (· != '='), s.hasValue with
    | [], true => .ok (g, some s)
    | [], false => (g.put s "").map (·, none)
    | _ :: value, true => (g.put s (String.ofList value)).map (·, none)
    | _ :: _, false => .error .misuse

/-- Reads the short options behind a dash, and says whether the value of the last
one has to come next. -/
def readShort (allowed : List Switch) (g : Given) :
    List Char → Except Halt (Given × Option Switch)
  | [] => .ok (g, none)
  | c :: rest =>
    match allowed.find? (·.short? == some c) with
    | none => .error .misuse
    | some s =>
      if s.hasValue then
        match rest with
        | [] => .ok (g, some s)
        | '=' :: value => (g.put s (String.ofList value)).map (·, none)
        | value => (g.put s (String.ofList value)).map (·, none)
      else
        match g.put s "" with
        | .error halt => .error halt
        | .ok g => readShort allowed g rest

/-- Reads the words of one level. A word that names a command ends the level; it
is given with the words behind it. -/
def readLevel (allowed : List Switch) (names : List String) (g : Given) (pending : Option Switch) :
    List String → Except Halt (Given × Option (String × List String))
  | [] => if pending.isNone then .ok (g, none) else .error .misuse
  | w :: rest =>
    match pending, w.toList with
    | some _, '-' :: _ :: _ => .error .misuse
    | some s, _ =>
      match g.put s w with
      | .error halt => .error halt
      | .ok g => readLevel allowed names g none rest
    | none, ['-', '-'] => if rest.isEmpty then .ok (g, none) else .error .misuse
    | none, '-' :: '-' :: word =>
      match readLong allowed g word with
      | .error halt => .error halt
      | .ok (g, pending) => readLevel allowed names g pending rest
    | none, '-' :: c :: word =>
      match readShort allowed g (c :: word) with
      | .error halt => .error halt
      | .ok (g, pending) => readLevel allowed names g pending rest
    | none, _ => if names.contains w then .ok (g, some (w, rest)) else .error .misuse

end Given

/-- What the environment says. -/
structure Environment where
  /-- The port to use. -/
  port : Option String
  /-- The base of the catalog. -/
  catalog : Option String
  /-- Whether prompts are off, `true` or `false`. -/
  nonInteractive : Option String
  /-- What the diagnostic log shows. -/
  logFilter : Option String
  /-- Whether the diagnostic log has colors: `always`, `never` or something else. -/
  logColor : Option String
  /-- Something, if nothing is to have colors. -/
  noColor : Option String
  /-- Something other than `0`, if everything is to have colors. -/
  forceColor : Option String
  /-- The directory of settings. -/
  configHome : Option String
  /-- The home directory. -/
  home : Option String
  deriving DecidableEq, Repr, Inhabited

/-- The environment, given a way to look up a variable. -/
def Environment.lookup [Monad m] (get : String → m (Option String)) : m Environment := do
  let port ← get "M4GFLASH_PORT"
  let catalog ← get "M4GFLASH_CATALOG"
  let nonInteractive ← get "M4GFLASH_NON_INTERACTIVE"
  let logFilter ← get "RUST_LOG"
  let logColor ← get "RUST_LOG_STYLE"
  let noColor ← get "NO_COLOR"
  let forceColor ← get "CLICOLOR_FORCE"
  let configHome ← get "XDG_CONFIG_HOME"
  let home ← get "HOME"
  pure { port, catalog, nonInteractive, logFilter, logColor, noColor, forceColor, configHome, home }

/-- Whether the diagnostic log is to have colors. -/
def Environment.wantsColor (env : Environment) : Bool :=
  match env.logColor with
  | some "always" => true
  | some "never" => false
  | _ =>
    (env.noColor.getD "").isEmpty && !(env.forceColor.getD "").isEmpty &&
      env.forceColor != some "0"

/-- What is to be planned. -/
inductive PlanSource where
  /-- The package with an identifier. -/
  | package (id : String)
  /-- A file. -/
  | file (picked : CustomFile)
  deriving DecidableEq, Repr, Inhabited

/-- A command with its own options. -/
inductive Command where
  /-- List the ports. -/
  | listPorts (json all : Bool)
  /-- List the packages of the catalog. -/
  | catalog (json : Bool)
  /-- Say what would be written. -/
  | plan (source : PlanSource) (json : Bool)
  /-- Bring a port back to the closed state. -/
  | reclaim
  deriving DecidableEq, Repr, Inhabited

/-- A command with all options. -/
structure Invocation where
  /-- The port to use. -/
  port : Option String
  /-- The base of the catalog. -/
  catalog : Option String
  /-- How much is told. -/
  verbosity : Nat
  /-- Whether only what is needed is told. -/
  quiet : Bool
  /-- Whether prompts are off. -/
  nonInteractive : Bool
  /-- The file of settings. -/
  config : Option String
  /-- The command. -/
  command : Command
  deriving DecidableEq, Repr, Inhabited

/-- What a command line says. -/
inductive CommandLine where
  /-- Run a command. -/
  | run (invocation : Invocation)
  /-- Show help, for a command or for all. -/
  | help (command : Option CommandName)
  /-- Show the version. -/
  | version (command : Option CommandName)
  /-- It makes no sense. -/
  | misuse
  deriving DecidableEq, Repr, Inhabited

namespace CommandLine

/-- The greatest number of times that `verbose` counts. -/
def verbosityBound : Nat := 255

/-- What to plan: a package, or a file with its address and parameters. Those say
nothing about a package and are passed over beside one. -/
def planSource (g : Given) : Except Halt PlanSource :=
  match g.value? .package, g.value? .file with
  | some _, some _ => .error .misuse
  | none, none => .error .misuse
  | some id, none => .ok (.package id)
  | none, some file =>
    let param {κ : Type} [Choices κ] (s : Switch) : Param κ :=
      Param.ofManifest ((g.value? s).getD "keep")
    .ok (.file {
      file := some file
      address := (g.value? .address).getD CustomFile.empty.address
      params := ⟨param .flashSize, param .flashMode, param .flashFreq, g.has .eraseAll⟩ })

/-- The command of a word, with its own options. -/
def command (name : CommandName) (g : Given) : Except Halt Command :=
  match name with
  | .listPorts => .ok (.listPorts (g.has .json) (g.has .all))
  | .catalog => .ok (.catalog (g.has .json))
  | .plan => (planSource g).map fun source => .plan source (g.has .json)
  | .reclaim => .ok .reclaim

/-- Whether prompts are off. What the environment says must be sound unless both
levels have the option. -/
def promptsOff (env : Environment) (outer inner : Given) : Except Halt Bool :=
  match outer.has .nonInteractive, inner.has .nonInteractive with
  | true, true => .ok true
  | a, b =>
    match env.nonInteractive with
    | none | some "false" => .ok (a || b)
    | some "true" => .ok true
    | some _ => .error .misuse

/-- A command with the options of both levels and the environment. -/
def invocation (env : Environment) (name : CommandName) (outer inner : Given) :
    Except Halt Invocation := do
  let command ← command name inner
  let nonInteractive ← promptsOff env outer inner
  let verbosity := if inner.has .verbose then inner.count .verbose else outer.count .verbose
  pure {
    port := ((inner.value? .port).or (outer.value? .port)).or env.port
    catalog := ((inner.value? .catalog).or (outer.value? .catalog)).or env.catalog
    verbosity := min verbosity verbosityBound
    quiet := inner.has .quiet || outer.has .quiet
    nonInteractive
    config := (inner.value? .config).or (outer.value? .config)
    command }

/-- What a command line says whose reading ended early at a level. -/
def ofHalt (name : Option CommandName) : Halt → CommandLine
  | .misuse => .misuse
  | .help => .help name
  | .version => .version name

/-- The word that asks for help on the word behind it. -/
def helpWord : String := "help"

/-- What the words behind the word for help say. -/
def readHelp : List String → CommandLine
  | [] => .help none
  | [w] =>
    if w = helpWord then .help none
    else
      match CommandName.ofWord? w with
      | some name => .help (some name)
      | none => .misuse
  | _ => .misuse

/-- Reads a command line. -/
def read (env : Environment) (words : List String) : CommandLine :=
  match Given.readLevel Switch.shared (helpWord :: CommandName.all.map (·.word)) [] none words with
  | .error halt => ofHalt none halt
  | .ok (_, none) => .misuse
  | .ok (outer, some (w, rest)) =>
    match CommandName.ofWord? w with
    | none => readHelp rest
    | some name =>
      match Given.readLevel (Switch.ofCommand name) [] [] none rest with
      | .error halt => ofHalt (some name) halt
      | .ok (inner, _) =>
        match invocation env name outer inner with
        | .error halt => ofHalt (some name) halt
        | .ok i => .run i

end CommandLine

end FlashStation
