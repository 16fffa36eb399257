import TeamLegality.Format.Bundled
import TeamLegality.Legality.TeamReport
import TeamLegality.Team.Export

/-!
# The command line — checking a team file and reporting every problem

A run loads a dex, registers the bundled formats, reads a team and checks it.  It ends with an exit
code, or with the error that stopped it, and leaves a log.  Details of resolution and validation
are logged only on request.
-/

namespace TeamLegality.CommandLine

/-- How much a log line matters. -/
inductive Level where
  | debug | info | warning | error
deriving DecidableEq, Repr

namespace Level

/-- The word of a level. -/
def word : Level → String
  | debug => "DEBUG"
  | info => "INFO"
  | warning => "WARNING"
  | error => "ERROR"

end Level

/-- The parts of the program that write to the log. -/
inductive Channel where
  | formats | resolution | sets | teams | program
deriving DecidableEq, Repr

namespace Channel

/-- The name of a part in the log. -/
def name : Channel → String
  | formats => "rules.loader"
  | resolution => "rules.engine"
  | sets => "validator.sets"
  | teams => "validator.teams"
  | program => "pkmnrules"

end Channel

/-- A message in the log. -/
structure Message where
  level : Level
  channel : Channel
  text : String
deriving DecidableEq, Repr

namespace Message

/-- A message as it is written. -/
def line (m : Message) : String := m.level.word ++ " " ++ m.channel.name ++ ": " ++ m.text

/-- The lines that a message takes up: only a line feed starts a new one. -/
def lines (m : Message) : List String :=
  (Text.splitAt '\n' m.line.toList).map String.ofList

/-- What the log says of an event. -/
def ofEvent? : Event → Option Message
  | .resolved key rules complexBans teamBans =>
    some ⟨.debug, .resolution,
      s!"Resolved {key}: {rules} rules, {complexBans} complex bans, {teamBans} team bans"⟩
  | .alreadyInEffect rule formatId =>
    some ⟨.debug, .resolution,
      "Custom rule " ++ Text.quote rule ++ s!" already in effect for {formatId}"⟩
  | .asked _ => none
  | .setChecked name formatKey problems =>
    some ⟨.debug, .sets, s!"{name} in {formatKey}: {problems} problem(s)"⟩
  | .teamChecked size formatKey problems =>
    some ⟨.debug, .teams, s!"Team of {size} in {formatKey}: {problems} problem(s)"⟩

end Message

/-- What a team is read from. -/
inductive TeamSource where
  | document (j : Json)
  | plain (content : String)

namespace TeamSource

/-- The team, bound to the format asked for if there is one. -/
def read (source : TeamSource) (format : Option String) : Except TeamError Team :=
  match source with
  | .plain content => Export.parseTeam content format
  | .document j =>
    (Team.loadFile j).map fun team =>
      match format with
      | none => team
      | some name => { team with format := some name }

end TeamSource

/-- What a run is asked to do. -/
structure Request where
  dex : Json
  team : TeamSource
  format : Option String
  verbose : Bool

/-- What stops a run. -/
inductive RunError where
  | dex (cause : DexError)
  | registry (cause : RegistryError)
  | team (cause : TeamError)
  | failure (cause : Failure)

namespace RunError

/-- An issue in one line: where it is and which fault it is. -/
def issueLine (i : Issue) : String :=
  let step : PathStep → String
    | .field name => name
    | .index position => toString position
  String.intercalate "." (i.path.map step) ++ ": " ++ (i.fault.text?.getD i.fault.code)

/-- The wording of what stops a run: the error's own words, or what was being read. -/
def message : RunError → String
  | dex (.entity issues) =>
    "The dex is malformed: " ++ String.intercalate "; " (issues.map issueLine)
  | dex cause => cause.message?.getD "The dex is malformed"
  | registry (.configuration cause) => cause.message
  | registry (.mod cause) => cause.message?.getD "The format list is malformed"
  | registry _ => "The format list is malformed"
  | team (.invalid issues) =>
    "The team is malformed: " ++ String.intercalate "; " (issues.map issueLine)
  | team cause => cause.message?.getD "The team is malformed"
  | failure (.configuration cause _) => cause.message
  | failure .unreadableNumber => "A rule holds a number that cannot be read"
  | failure (.ratio _) => "A gender ratio has no threshold"

end RunError

/-- How a run ends. -/
structure Outcome where
  exit : Except RunError Int
  log : List Message

/-- The messages about the records that are registered, up to the first one that is not. -/
def registrations (dexes : DexCollection) (defaultMod : String) :
    (number : Nat) → (heading : String) → List FormatRecord → Assoc String Format → List Message
  | _, _, [], _ => []
  | number, heading, r :: rest, formats =>
    match FormatRegistry.addRecord defaultMod dexes number r formats with
    | .error _ => []
    | .ok formats =>
      let heading := if r.heading = "" then heading else r.heading
      let more := registrations dexes defaultMod (number + 1) heading rest formats
      if r.isHeading then more
      else
        ⟨.debug, .formats,
          s!"Registered format {Text.toId r.name} (section=" ++ Text.quote heading
            ++ s!", mod={r.modOr defaultMod})"⟩ :: more

/-- The code of a run that finds no problem. -/
def validCode : Int := 0

/-- The code of a run that finds problems. -/
def invalidCode : Int := 1

/-- The code of a run that is not told a format. -/
def usageCode : Int := 2

/-- The code and the messages that the problems of a team lead to. -/
def verdict (size : Nat) (format : String) (problems : List String) : Int × List Message :=
  if problems.isEmpty then
    (validCode, [⟨.info, .program, s!"Team of {size} is valid for {format}"⟩])
  else
    (invalidCode, problems.map (fun p => ⟨.warning, .program, p⟩)
      ++ [⟨.info, .program, s!"{problems.length} problem(s) found"⟩])

/-- Checks a team that was read. -/
def checkTeam (registry : FormatRegistry) (config : Config) (team : Team) : Outcome :=
  let format := team.format.getD ""
  if format = "" then
    { exit := .ok usageCode,
      log := [⟨.error, .program, "No format given; pass --format or set it in the team file"⟩] }
  else
    let validator : Validator := { registry, hooks := .empty, config }
    let (result, session) := (validator.checkOwn team).run.run .fresh
    let events := session.journal.filterMap Message.ofEvent?
    match result with
    | .error failure => { exit := .error (.failure failure), log := events }
    | .ok problems =>
      let (code, messages) := verdict team.sets.length format problems
      { exit := .ok code, log := events ++ messages }

/-- A run with everything that could be logged. -/
def runInFull (request : Request) : Outcome :=
  let config : Config := {}
  match DexCollection.load request.dex DexCollection.defaultGens with
  | .error cause => { exit := .error (.dex cause), log := [] }
  | .ok dexes =>
    let registered :=
      if dexes.contains config.defaultMod then
        registrations dexes config.defaultMod 1 "" Bundled.records .empty
      else []
    match Bundled.load config dexes with
    | .error cause => { exit := .error (.registry cause), log := registered }
    | .ok registry =>
      let loaded : Message := ⟨.info, .formats, s!"Loaded {registry.formats.size} formats"⟩
      match request.team.read request.format with
      | .error cause => { exit := .error (.team cause), log := registered ++ [loaded] }
      | .ok team =>
        let outcome := checkTeam registry config team
        { outcome with log := registered ++ [loaded] ++ outcome.log }

/-- What stands on the command line. -/
structure Arguments where
  dexPath : String
  teamPath : String
  format : Option String
  verbose : Bool
deriving DecidableEq, Repr

namespace Arguments

/-- The usage line. -/
def usage : String := "usage: DEX TEAM [--format FORMAT] [--verbose]"

/-- Reads the words of a command line: options anywhere, and two paths. -/
def read? : (words : List String) → (paths : List String) → (format : Option String) →
    (verbose : Bool) → Option Arguments
  | [], [dexPath, teamPath], format, verbose => some { dexPath, teamPath, format, verbose }
  | [], _, _, _ => none
  | "--verbose" :: rest, paths, format, _ => read? rest paths format true
  | "--format" :: name :: rest, paths, _, verbose => read? rest paths (some name) verbose
  | word :: rest, paths, format, verbose => read? rest (paths ++ [word]) format verbose

/-- Whether a path names a document: its last part ends in `.json` and has a stem. -/
def isDocumentPath (path : String) : Bool :=
  let name := path.toList.reverse.takeWhile (· ≠ '/')
  ".json".toList.reverse.isPrefixOf name && decide (".json".length < name.length)

end Arguments

/-- A run: without details unless they are asked for. -/
def run (request : Request) : Outcome :=
  let outcome := runInFull request
  if request.verbose then outcome
  else { outcome with log := outcome.log.filter (·.level ≠ .debug) }

end TeamLegality.CommandLine
