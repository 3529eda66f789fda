import Horoscope.Bank.Catalogue
import Horoscope.Bank.Matching
import Horoscope.CommandLine.Invocation
import Horoscope.Random.ChaCha
import Horoscope.Table.Load
import Horoscope.Table.Location
import Horoscope.Wording.RuleText

set_option autoImplicit false

namespace Horoscope

namespace ChartWarning

def message : ChartWarning → Text
  | unknownPlanet name => "chart: ignoring unknown planet in chart name=".toList ++ Text.quoted name
  | houseOutOfRange name house =>
    "chart: ignoring planet with out-of-range house name=".toList ++ Text.quoted name ++
      " house=".toList ++ Decimal.writeSigned house

end ChartWarning

namespace BirthError

def message (error : BirthError) : Text :=
  "Invalid date of birth ".toList ++ Text.quoted error.text

end BirthError

namespace CommandLine

inductive Fault
  | noBank
  | bankNotOpened (name : Text)
  | bankNotLoaded (error : LoadError)
  | badBirth (error : BirthError)
deriving DecidableEq

namespace Fault

def message : Fault → Text
  | noBank => "No rule bank given; pass --bank or set NATAL_RULES_BANK".toList
  | bankNotOpened name => "Failed to open rule bank ".toList ++ Text.quoted name
  | bankNotLoaded error => error.message
  | badBirth error => error.message

end Fault

inductive Failure
  | refused (refusal : Refusal)
  | stopped (fault : Fault)
deriving DecidableEq

namespace Failure

def line? : Failure → Option Text
  | refused (.badValue argument reason) =>
    some ("error: Invalid value for '".toList ++ argument ++ "': ".toList ++ reason)
  | refused .usage | refused .help | refused (.version _) => none
  | stopped fault => some ("Error: ".toList ++ fault.message)

end Failure

structure Outcome where
  code : Nat
  output : Text
  warnings : List ChartWarning
  failure : Option Failure

namespace Outcome

def printed (output : Text) (warnings : List ChartWarning) : Outcome := ⟨0, output, warnings, none⟩

def failed (failure : Failure) : Outcome := ⟨1, [], [], some failure⟩

end Outcome

-- What lies outside the command line: the databases of files, the day, a seed for choices that are
-- given none, and the text that is typed.
structure World where
  openFile : FileRequest → Option Database
  today : Date
  seed : UInt64
  typed : Text

def World.database? (world : World) (name : Text) : Option Database :=
  match Location.ofName? name with
  | none => none
  | some .memory => some []
  | some (.file request) => world.openFile request

def typedLines (typed : Text) : List Text :=
  let lines := typed.splitOn '\n'
  let whole := lines.dropLast.map fun line => if line.getLast? = some '\r' then line.dropLast else line
  whole ++ (lines.getLast?.toList.filter fun line => !line.isEmpty)

namespace Invocation

def day (i : Invocation) (world : World) : Date := i.today.getD world.today

def loadBank (i : Invocation) (world : World) : Except Fault Bank :=
  match i.bank with
  | none => .error .noBank
  | some name =>
    match world.database? name with
    | none => .error (.bankNotOpened name)
    | some db => (Bank.load db i.table).mapError .bankNotLoaded

def matchedIds (i : Invocation) (world : World) (bank : Bank) (options : ChartOptions) :
    Except Fault (List Nat) := do
  let chart ← (Chart.ofEntries options.birth options.placements).mapError .badBirth
  let source := ChaCha.Stream.ofSeed (options.seed.getD world.seed)
  return (bank.matchingDrawn chart (chart.momentOn (i.day world)) source).1

def writeIds (ids : List Nat) : Text := ", ".toList.intercalate (ids.map Decimal.write)

def reply (today : Date) (line : Text) : Text := wording today line ++ ['\n']

def run (i : Invocation) (world : World) : Except Fault (Text × List ChartWarning) :=
  match i.command with
  | .matchChart options => do
    let bank ← i.loadBank world
    let ids ← i.matchedIds world bank options
    return (writeIds ids ++ ['\n'], Chart.warnings options.placements)
  | .assemble ids => do
    let bank ← i.loadBank world
    return (bank.ruleText ids (i.day world) ++ ['\n'], [])
  | .predict options ranked => do
    let bank ← i.loadBank world
    let matched ← i.matchedIds world bank options
    let ids := Bank.unionIds matched (bank.rankedIds ranked)
    return (bank.ruleText ids (i.day world) ++ ['\n'], Chart.warnings options.placements)
  | .catalogue => do
    let bank ← i.loadBank world
    return (bank.catalogue, [])
  | .converse =>
    return ((typedLines world.typed).flatMap (reply (i.day world)), [])

end Invocation

def usageText : Text :=
  ("natal-rules [--bank <bank>] [--table <table>] [--today <today>] [-v] <command>\n\n" ++
    "match --dob <dob> [--planet <planets>...] [--seed <seed>]\n" ++
    "assemble [<row-ids>...]\n" ++
    "predict-rules --dob <dob> [--planet <planets>...] [--seed <seed>] [--ranked <ranked>]\n" ++
    "catalogue\n" ++
    "repl\n").toList

def run (world : World) (environmentBank : Option Text) (arguments : List Text) : Outcome :=
  match Invocation.read environmentBank arguments with
  | .error (.version title) => .printed (title ++ " 0.1.0\n".toList) []
  | .error .help => .printed usageText []
  | .error refusal => .failed (.refused refusal)
  | .ok invocation =>
    match invocation.run world with
    | .ok (output, warnings) => .printed output warnings
    | .error fault => .failed (.stopped fault)

end CommandLine
end Horoscope
