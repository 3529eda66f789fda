import Horoscope.Bank.Basic
import Horoscope.CommandLine.Arguments
import Horoscope.Date.Written
import Horoscope.Text.Blank
import Horoscope.Text.Quoted

set_option autoImplicit false

namespace Horoscope.CommandLine

structure ChartOptions where
  birth : Text
  placements : List (Text × Int)
  seed : Option UInt64

inductive Command
  | matchChart (options : ChartOptions)
  | assemble (ids : List Nat)
  | predict (options : ChartOptions) (ranked : Text)
  | catalogue
  | converse

structure Invocation where
  bank : Option Text
  table : Text
  today : Option Date
  verbose : Bool
  command : Command

def bankOption (environmentBank : Option Text) : OptionSpec :=
  ⟨"bank".toList, none, .single, "--bank <bank>".toList, environmentBank⟩

def defaultTable : Text := "rules".toList

def tableOption : OptionSpec :=
  ⟨"table".toList, none, .single, "--table <table>".toList, some defaultTable⟩
def todayOption : OptionSpec := ⟨"today".toList, none, .single, "--today <today>".toList, none⟩
def verboseOption : OptionSpec := ⟨"verbose".toList, some 'v', .flag, "--verbose".toList, none⟩
def dobOption : OptionSpec := ⟨"dob".toList, none, .single, "--dob <dob>".toList, none⟩
def planetOption : OptionSpec :=
  ⟨"planet".toList, none, .list, "--planet <planets>...".toList, none⟩
def seedOption : OptionSpec := ⟨"seed".toList, none, .single, "--seed <seed>".toList, none⟩
def rankedOption : OptionSpec :=
  ⟨"ranked".toList, none, .single, "--ranked <ranked>".toList, some []⟩

def commonForm (environmentBank : Option Text) : Form where
  title := "natal-rules".toList
  options := [bankOption environmentBank, tableOption, todayOption, verboseOption]
  operands := false
  commands :=
    ["match".toList, "assemble".toList, "predict-rules".toList, "catalogue".toList, "repl".toList]

def commandForm (name : Text) (options : List OptionSpec) (operands : Bool) : Form where
  title := "natal-rules-".toList ++ name
  options := options
  operands := operands
  commands := []

def anyText (value : Text) : Except Text Text := .ok value

def readDay (value : Text) : Except Text Date :=
  (Date.read value).mapError fun _ => "Invalid date ".toList ++ Text.quoted value

def readPlacement (value : Text) : Except Text (Text × Int) :=
  match value.dropWhile (· != '=') with
  | [] => .error ("Expected PLANET=HOUSE, got ".toList ++ Text.quoted value)
  | _ :: house =>
    match Decimal.readSigned? (UInt64.size / 2) (Text.trim house) with
    | some n => .ok (Text.trim (value.takeWhile (· != '=')), n)
    | none => .error ("Invalid house in ".toList ++ Text.quoted value)

def readCount (value : Text) : Except Text Nat :=
  (Decimal.read UInt64.size value).mapError DecimalError.message

def readSeed (value : Text) : Except Text UInt64 := (readCount value).map Nat.toUInt64

def readChartOptions (s : Sorted) : Except Refusal ChartOptions := do
  if s.usesOf dobOption = 0 then throw .usage
  let birth? ← s.single? dobOption anyText
  let placements ← s.list planetOption readPlacement
  let seed ← s.single? seedOption readSeed
  match birth? with
  | some birth => return ⟨birth, placements, seed⟩
  | none => throw .usage

def readMatch (arguments : List Text) : Except Refusal Command := do
  let form := commandForm "match".toList [dobOption, planetOption, seedOption] false
  let options ← readChartOptions (← form.sortAll arguments)
  return .matchChart options

def readAssemble (arguments : List Text) : Except Refusal Command := do
  let s ← (commandForm "assemble".toList [] true).sortAll arguments
  let ids ← Sorted.readAll "<row-ids>...".toList readCount s.operands
  return .assemble ids

def readPredict (arguments : List Text) : Except Refusal Command := do
  let options := [dobOption, planetOption, seedOption, rankedOption]
  let s ← (commandForm "predict-rules".toList options false).sortAll arguments
  let chart ← readChartOptions s
  let ranked ← s.single? rankedOption anyText
  return .predict chart (ranked.getD [])

def readBare (name : Text) (command : Command) (arguments : List Text) :
    Except Refusal Command := do
  let _ ← (commandForm name [] false).sortAll arguments
  return command

def readCommand (name : Text) (arguments : List Text) : Except Refusal Command :=
  if name = "match".toList then readMatch arguments
  else if name = "assemble".toList then readAssemble arguments
  else if name = "predict-rules".toList then readPredict arguments
  else if name = "catalogue".toList then readBare name .catalogue arguments
  else readBare name .converse arguments

def Invocation.read (environmentBank : Option Text) (arguments : List Text) :
    Except Refusal Invocation := do
  let s ← (commonForm environmentBank).sortAll arguments
  match s.command with
  | none => throw .usage
  | some (name, rest) =>
    let command ← readCommand name rest
    let bank ← s.single? (bankOption environmentBank) anyText
    let table ← s.single? tableOption anyText
    let today ← s.single? todayOption readDay
    let verbose ← s.flag verboseOption
    return ⟨bank, table.getD defaultTable, today, verbose, command⟩

end Horoscope.CommandLine
