import AllowanceProxy.Audit.Arguments
import AllowanceProxy.Audit.Console
import AllowanceProxy.Json.Reader
import AllowanceProxy.Settings.Basic

/-!
The audit on the command line. The database is a file that holds one JSON object, with a record
for each slot.
-/
namespace AllowanceProxy.Audit

/-- The text of a file, empty if it cannot be read. -/
def fileText (path : String) : IO String :=
  try IO.FS.readFile path catch _ => pure ""

def plainName? (member : LooseText × Json) : Option String :=
  match member.1 with
  | .plain name => some name
  | .broken _ _ _ => none

def settingNames : List String :=
  match Settings.standard.toJson with
  | .obj ms => ms.filterMap plainName?
  | _ => []

def environment : IO EnvFile.Variables := do
  let found ← settingNames.mapM fun name => do
    match ← IO.getEnv name.toUpper with
    | some v => return some (name, some v)
    | none => return (← IO.getEnv name).map fun v => (name, some v)
  return found.filterMap id

def databasePath (url : String) : String :=
  let scheme := "sqlite:///"
  if scheme.isPrefixOf url then (url.drop scheme.length).toString else url

def readStore (url : String) : IO Store := do
  match Json.read (← fileText (databasePath url)) with
  | .ok (.obj ms) => return ms.filterMap fun m => (plainName? m).map fun name => (name, m.2)
  | _ => return []

def audited (s : Settings) (a : Arguments) : IO UInt32 := do
  let store ← readStore (orDefault a.databaseUrl s.databaseUrl)
  let console := Console.ofStyling .plain
  let report := runOn console store (orDefault a.slot s.stateSlot) s.referenceDenom a.verbose
  for p in report.printed do
    IO.println p.text
  match report.verdict with
  | .ok valid => return exitStatus valid
  | .error e =>
    IO.eprintln e.message
    return 1

end AllowanceProxy.Audit

open AllowanceProxy AllowanceProxy.Audit in
def main (argv : List String) : IO UInt32 := do
  match Arguments.parse argv with
  | .help =>
    IO.println usage
    return 0
  | .bad =>
    IO.eprintln usage
    return 2
  | .run a =>
    match Settings.read ⟨[], ← environment, ← fileText ".env"⟩ with
    | .ok s => audited s a
    | .issues is =>
      for i in is do
        IO.eprintln i.complaint.code
      return 1
