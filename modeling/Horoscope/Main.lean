import Horoscope.CommandLine.Outcome
import Horoscope.Table.File
import Horoscope.Table.Path
import Std.Time.DateTime

set_option autoImplicit false

namespace Horoscope

def todayInIndia : IO Date := do
  let seconds := (← Std.Time.Timestamp.now).toSecondsSinceUnixEpoch.val + 19800
  let day := Std.Time.PlainDate.ofEpochDay ⟨seconds.fdiv 86400⟩
  match Date.ofYMD? day.year day.month.val.toNat day.day.val.toNat with
  | some today => return today
  | none => throw (IO.userError "the clock shows no day of the calendar")

def isThere? (path : Bytes) : IO (Option Bool) := do
  let some path := String.fromUTF8? ⟨path.toArray⟩ | return none
  match ← (IO.FS.Handle.mk path .read).toBaseIO with
  | .ok _ => return some true
  | .error (.noFileOrDirectory ..) => return some false
  | .error _ => return none

-- A file that is not there is created empty, unless it must exist; nothing is returned where that
-- fails. A file that is no database has no tables.
def openFile (request : FileRequest) : IO (Option Database) := do
  let home := (Path.names (Bytes.ofString (toString (← IO.currentDir)))).drop 1
  if !Path.fits home request.path || (← isThere? request.path).isNone then return none
  if let some model := request.model then
    unless (← isThere? model) = some true do return none
  let some path := String.fromUTF8? ⟨(Path.ofBytes home request.path).bytes.toArray⟩ | return none
  try
    unless request.mustExist do
      let _ ← IO.FS.Handle.mk path .append
    return some ((Database.ofBytes? (← IO.FS.readBinFile path)).getD [])
  catch _ => return none

def freshSeed : IO UInt64 := do
  let bytes ← IO.getRandomBytes 8
  return (Record.bigEndian bytes.toList).toUInt64

partial def converse (today : Date) (input output : IO.FS.Stream) : IO Unit := do
  let line ← input.getLine
  if line.isEmpty then return
  for typed in CommandLine.typedLines line.toList do
    output.putStr (String.ofList (CommandLine.Invocation.reply today typed))
    output.flush
  converse today input output

def report (outcome : CommandLine.Outcome) : IO UInt32 := do
  IO.print (String.ofList outcome.output)
  for warning in outcome.warnings do
    IO.eprintln ("WARN " ++ String.ofList warning.message)
  if let some failure := outcome.failure then
    IO.eprintln (String.ofList (failure.line?.getD CommandLine.usageText))
  return outcome.code.toUInt32

end Horoscope

open Horoscope in
def main (arguments : List String) : IO UInt32 := do
  let environmentBank := (← IO.getEnv "NATAL_RULES_BANK").map String.toList
  let today ← todayInIndia
  let arguments := arguments.map String.toList
  let world : CommandLine.World := ⟨fun _ => none, today, ← freshSeed, []⟩
  match CommandLine.Invocation.read environmentBank arguments with
  | .error _ => report (CommandLine.run world environmentBank arguments)
  | .ok invocation =>
    match invocation.command with
    | .converse =>
      converse (invocation.day world) (← IO.getStdin) (← IO.getStdout)
      return 0
    | _ =>
      let database ← match invocation.bank.bind Location.ofName? with
        | some (.file request) => openFile request
        | _ => pure none
      report (CommandLine.run { world with openFile := fun _ => database } environmentBank arguments)
