import AllowanceProxy.Market.DefaultPools
import AllowanceProxy.Number.Shortest
import AllowanceProxy.Schema.Decoder
import AllowanceProxy.Settings.EnvFile
import AllowanceProxy.Text.Blank
import AllowanceProxy.Text.LowerCase

/-!
Settings. A value given outright comes before a variable of the environment, that before the
environment file, and that before the default; names are read in any letter case.
-/
namespace AllowanceProxy

structure Settings where
  referenceDenom : String
  homeNetwork : String
  lcdUrl : String
  lcdTimeout : Binary64
  databaseUrl : String
  stateSlot : String
  logLevel : String
  logFormat : String
  deriving DecidableEq

namespace Settings

def standard : Settings where
  referenceDenom := Denom.axlUsdc
  homeNetwork := mainNetwork
  lcdUrl := "https://lcd-juno.itastakers.com"
  lcdTimeout := .ofDecimal false 10 0
  databaseUrl := "sqlite:///spendguard.db"
  stateSlot := "state"
  logLevel := "INFO"
  logFormat := "json"

def named? (cs : List Char) : Option Binary64 :=
  let (negative, body) := Number.splitSign cs
  let word := (String.ofList body).toLower
  if word = "inf" ∨ word = "infinity" then some (.infinite negative)
  else if word = "nan" then some .nan
  else none

/-- Digits with a point among them, and then a power of ten. -/
def decimal? (cs : List Char) : Option Binary64 :=
  let (negative, body) := Number.splitSign cs
  let whole := body.takeWhile Char.isDigit
  let rest := body.dropWhile Char.isDigit
  let (fraction, rest) := match rest with
    | '.' :: rest => (rest.takeWhile Char.isDigit, rest.dropWhile Char.isDigit)
    | rest => ([], rest)
  let digits := whole ++ fraction
  let value (power : Int) : Binary64 :=
    .ofDecimal negative (Nat.ofDigitChars 10 digits 0) (power - fraction.length)
  if digits = [] then none
  else
    match rest with
    | [] => some (value 0)
    | c :: rest =>
      let (below, power) := Number.splitSign rest
      if (c = 'e' ∨ c = 'E') ∧ power ≠ [] ∧ power.all Char.isDigit then
        some (value (Number.applySign below (Nat.ofDigitChars 10 power 0)))
      else none

def readFloat? (cs : List Char) : Option Binary64 := (named? cs).or (decimal? cs)

def float : Decoder Binary64
  | .float x => .ok x
  | .int n =>
    match Binary64.ofQuotient (n < 0) n.natAbs 1 with
    | .infinite _ => .fail .notFloat
    | x => .ok x
  | .bool b => .ok (.ofDecimal false (if b then 1 else 0) 0)
  | .str (.plain s) =>
    match (readFloat? (Text.trim s.toList)).or (readFloat? (Number.withoutLowLines s.toList)) with
    | some x => .ok x
    | none => .fail .floatUnreadable
  | _ => .fail .notFloat

/-- Where values come from; variables are texts. -/
structure Sources where
  given : Members
  env : EnvFile.Variables
  envFile : String

def Named (name text : String) : Prop := Text.lowerCase text.toList = name.toList

instance (name text : String) : Decidable (Named name text) := inferInstanceAs (Decidable (_ = _))

/-- The first value given under a name. -/
def given? (ms : Members) (name : String) : Option Json :=
  (ms.find? fun
    | (.plain text, _) => Named name text
    | _ => false).map Prod.snd

/-- The last variable of a name, unless it has no value. -/
def fromVariables? (vars : EnvFile.Variables) (name : String) : Option Json :=
  ((vars.reverse.find? fun v => Named name v.1).bind Prod.snd).map Json.ofString

def Sources.value? (s : Sources) (name : String) : Option Json :=
  ((given? s.given name).or (fromVariables? s.env name)).or
    (fromVariables? (EnvFile.read s.env s.envFile) name)

def read (s : Sources) : Checked Settings :=
  let setting {α : Type} (name : String) (d : Decoder α) (default : α) : Checked α :=
    Checked.within (.field name) <| match s.value? name with
      | some v => d v
      | none => .ok default
  Settings.mk <$> setting "reference_denom" Decoder.text standard.referenceDenom
    <*> setting "home_network" Decoder.text standard.homeNetwork
    <*> setting "lcd_url" Decoder.text standard.lcdUrl
    <*> setting "lcd_timeout_seconds" float standard.lcdTimeout
    <*> setting "database_url" Decoder.text standard.databaseUrl
    <*> setting "state_slot" Decoder.text standard.stateSlot
    <*> setting "log_level" Decoder.text standard.logLevel
    <*> setting "log_format" Decoder.text standard.logFormat

def toJson (s : Settings) : Json :=
  .obj [("reference_denom", .str s.referenceDenom), ("home_network", .str s.homeNetwork),
    ("lcd_url", .str s.lcdUrl), ("lcd_timeout_seconds", .float s.lcdTimeout),
    ("database_url", .str s.databaseUrl), ("state_slot", .str s.stateSlot),
    ("log_level", .str s.logLevel), ("log_format", .str s.logFormat)]

end Settings

end AllowanceProxy
