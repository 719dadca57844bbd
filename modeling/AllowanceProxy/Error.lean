import AllowanceProxy.Json.Literal
import AllowanceProxy.Market.Pool
import AllowanceProxy.Number.Numeral
import AllowanceProxy.Schema.Checked

/-!
Why a call fails. A refusal is a verdict on the call itself; every other fault comes from the
data or the numbers it was made with.
-/
namespace AllowanceProxy

open Number

inductive Error where
  | notOwner
  | noSuchAuthorization
  | authorizationExists
  | unpriceableKind (kind : String)
  | spendNotAuthorized
  | notPendingOwner
  | updateDelayActive
  | aboveLimit (amount denom : String)
  | severalLimits
  | zeroSpend
  | queryFailed (text : String)
  | poolNotFound (x y : String) (registry : Registry)
  | priceCheckFailed (query contract cause : String)
  | debtFirst (debt : String)
  | dayOutOfRange
  | monthOutOfRange
  | walletExists
  | walletUnknown
  | notInitialized
  | missingField (name : String)
  | numeral (fault : NumeralFault)
  | notANumber
  | infiniteNumber
  | negativeAmount (field shown : String)
  | unsupportedNetwork (shown : String)
  | noName (kind : String)
  | yearOutOfRange (year : Int)
  | yearTooLarge
  | timeTooLarge
  | notNumeric (kind : String)
  | noFields (kind : String)
  | fieldOfList
  | fieldOfText
  | noLimit
  | notRational
  | divisionByZero (numerator : Int)
  | tooDeep
  | invalid (issues : List Issue)
  | library (name text : String)
  deriving DecidableEq

namespace Error

/-- What a fault is about. -/
inductive Kind where
  | refusal
  | value
  | shape
  | field
  | position
  | magnitude
  | system
  | division
  | depth
  | validation
  deriving DecidableEq

/-- The name under which a refusal or the fault of a library is reported; other faults have none. -/
def label? : Error → Option String
  | .notOwner => some "Unauthorized"
  | .noSuchAuthorization => some "NoSuchAuthorization"
  | .authorizationExists => some "AuthorizationExists"
  | .unpriceableKind _ => some "BadMessageType"
  | .spendNotAuthorized => some "SpendNotAuthorized"
  | .notPendingOwner => some "CallerIsNotPendingOwner"
  | .updateDelayActive => some "UpdateDelayActive"
  | .aboveLimit _ _ => some "CannotSpendMoreThanLimit"
  | .severalLimits => some "MultiSpendLimitsNotSupported"
  | .zeroSpend => some "CannotSpendZero"
  | .queryFailed _ => some "ChainQueryError"
  | .poolNotFound _ _ _ => some "PairContractNotFound"
  | .priceCheckFailed _ _ _ => some "PriceCheckFailed"
  | .debtFirst _ => some "RepayFeesFirst"
  | .dayOutOfRange => some "DayUpdateError"
  | .monthOutOfRange => some "MonthUpdateError"
  | .walletExists => some "PermissionedAddressExists"
  | .walletUnknown => some "PermissionedAddressDoesNotExist"
  | .notInitialized => some "StateNotInitialized"
  | .library name _ => some name
  | _ => none

def kind (e : Error) : Kind :=
  match e with
  | .missingField _ => .field
  | .numeral _ | .notANumber | .negativeAmount _ _ | .unsupportedNetwork _ | .yearOutOfRange _ =>
    .value
  | .infiniteNumber | .timeTooLarge => .magnitude
  | .yearTooLarge | .library _ _ => .system
  | .notNumeric _ | .noFields _ | .fieldOfList | .fieldOfText | .noName _ | .notRational => .shape
  | .noLimit => .position
  | .divisionByZero _ => .division
  | .tooDeep => .depth
  | .invalid _ => .validation
  | _ => .refusal

def isRefusal (e : Error) : Bool := e.kind = .refusal

/-- Complaints are reported one by one, and have no text together. -/
def message : Error → String
  | .notOwner => "Caller is not owner."
  | .noSuchAuthorization => "Not an authorized action"
  | .authorizationExists =>
    "An identical authorization already exists. Remove it first in order to update it."
  | .unpriceableKind kind =>
    "Spend-limited transactions are not allowed to be " ++ kind ++
      "; they must be native sends or token transfers, or be covered by an authorization."
  | .spendNotAuthorized =>
    "This address is not permitted to spend this token, or to spend this many of this token."
  | .notPendingOwner => "Caller is not pending new owner. Propose new owner first."
  | .updateDelayActive => "Owner update safety delay has not yet passed"
  | .aboveLimit amount denom =>
    "You cannot spend more than your available spend limit. Trying to spend " ++ amount ++ " " ++
      denom
  | .severalLimits =>
    "Multiple spend limits are no longer supported. " ++
      "Remove this wallet and re-add with a USD spend limit."
  | .zeroSpend => "Cannot send 0 funds"
  | .queryFailed text => if text = "" then "Proxy error." else text
  | .poolNotFound x y registry =>
    "Pair contract for asset " ++ x ++ " to " ++ y ++ " not found, DUMP: " ++
      registry.dump.literal
  | .priceCheckFailed query contract cause =>
    "Unable to get current asset price to check spend limit for asset. " ++
      "If this transaction is urgent, use your multisig to sign. SUBMSG: " ++ query ++
      " CONTRACT: " ++ contract ++ " ERROR: " ++ cause
  | .debtFirst debt => "Please repay your fee debt (USD " ++ debt ++ ") before sending funds."
  | .dayOutOfRange => "Failed to advance the reset day: date value out of range"
  | .monthOutOfRange => "Failed to advance the reset month"
  | .walletExists =>
    "This address is already authorized as a permissioned address. " ++
      "Remove it first in order to update it."
  | .walletUnknown => "This address is not authorized as a spend limit permissioned address."
  | .notInitialized => "No proxy state stored; instantiate first."
  | .missingField name => Text.quoted name
  | .numeral fault => fault.message
  | .notANumber => "cannot convert float NaN to integer"
  | .infiniteNumber => "cannot convert float infinity to integer"
  | .negativeAmount field shown => "negative " ++ field ++ " in pool response: " ++ shown
  | .unsupportedNetwork shown =>
    "Failed to init pair contracts; unsupported chain id " ++ shown
  | .noName kind => "unhashable type: '" ++ kind ++ "'"
  | .yearOutOfRange year => "year " ++ intText year ++ " is out of range"
  | .yearTooLarge => "[Errno 75] Value too large for defined data type"
  | .timeTooLarge => "timestamp out of range for platform time_t"
  | .notNumeric kind =>
    "int() argument must be a string, a bytes-like object or a real number, not '" ++ kind ++ "'"
  | .noFields kind => "'" ++ kind ++ "' object is not subscriptable"
  | .fieldOfList => "list indices must be integers or slices, not str"
  | .fieldOfText => "string indices must be integers, not 'str'"
  | .noLimit => "list index out of range"
  | .notRational => "both arguments should be Rational instances"
  | .divisionByZero numerator => "Fraction(" ++ intText numerator ++ ", 0)"
  | .tooDeep => "maximum recursion depth exceeded while decoding a JSON document"
  | .invalid _ => ""
  | .library _ text => text

/-- A numeral for a message or an answer. -/
def numeralOf (n : Nat) : Except Error String :=
  match Number.numeral n with
  | .ok s => .ok s
  | .error f => .error (.numeral f)

def aboveLimitOf (amount : Nat) (denom : String) : Error :=
  match numeralOf amount with
  | .ok s => .aboveLimit s denom
  | .error e => e

def debtFirstOf (debt : Nat) : Error :=
  match numeralOf debt with
  | .ok s => .debtFirst s
  | .error e => e

/-- Complaints as a failure. -/
def ofChecked {α : Type} : Checked α → Except Error α
  | .ok a => .ok a
  | .issues is => .error (.invalid is)

end Error

/-- The outcome of a call on a record, and the record after it. -/
abbrev Outcome (ρ α : Type) := Except Error α × ρ

end AllowanceProxy
