import AllowanceProxy.Log.Pattern

/-! Structured log lines, kept from a level on. -/
namespace AllowanceProxy.Log

inductive Level where
  | debug
  | info
  | warning
  | error
  | critical
  deriving DecidableEq

namespace Level

def all : List Level := [.debug, .info, .warning, .error, .critical]

def name : Level → String
  | .debug => "debug"
  | .info => "info"
  | .warning => "warning"
  | .error => "error"
  | .critical => "critical"

def rank : Level → Nat
  | .debug => 10
  | .info => 20
  | .warning => 30
  | .error => 40
  | .critical => 50

def ofName? (s : String) : Option Level :=
  if s = "warn" then some .warning
  else if s = "fatal" then some .critical
  else all.find? fun l => l.name = s

end Level

/-- The least rank that passes under the name of a level; one name lets everything pass. -/
def leastRank (name : String) : Nat :=
  if name = "NOTSET" then 0 else ((Level.ofName? name.toLower).getD .info).rank

/-- A pattern filled with arguments, or an event with fields of its own. -/
inductive Content where
  | pattern (text : String) (arguments : List Json)
  | event (name : String) (fields : Members)

/-- An entry may report the fault at hand along with its content. -/
structure Entry where
  logger : String
  level : Level
  reportsFault : Bool
  content : Content

/-- Fields that an event cannot set. -/
def reserved : List LooseText :=
  ["event", "level", "logger", "timestamp", "stack_info", "_record", "_from_structlog"]

def faultField : String := "exc_info"

/-- The text of an entry and its fields. There is no fault at hand, so that a report of it says
only that it was asked for. -/
def Entry.event? (e : Entry) : Option (String × Members) :=
  match e.content with
  | .pattern text args => (filled? text args).map fun s =>
    (s, if e.reportsFault then [(faultField, .arr [.null, .null, .null])] else [])
  | .event name fields =>
    let own := fields.filter fun m => !reserved.contains m.1
    some (name, if e.reportsFault && (Json.lookup? faultField own).isNone then
      Json.put faultField (.bool true) own else own)

def rootName : String := "root"

/-- The line of an entry, if its level is high enough and its pattern can be filled. -/
def line? (least : Nat) (e : Entry) : Option Json :=
  if e.level.rank < least then none
  else e.event?.map fun (event, fields) =>
    .obj (("event", .str event) :: ("level", .str e.level.name) ::
      ("logger", .str (if e.logger = "" then rootName else e.logger)) :: fields)

/-- Lines come out where a handler is set up. -/
def lines (handlers : List String) (least : Nat) (entries : List Entry) : List Json :=
  if handlers = [] then [] else entries.filterMap (line? least)

/-- Handlers by name; configuring again replaces the one that is there. -/
def configure (handlers : List String) (name : String) : List String :=
  handlers.filter (· ≠ name) ++ [name]

def handlerName : String := "spendguard"

def configureTimes : Nat → List String → List String
  | 0, handlers => handlers
  | n + 1, handlers => configureTimes n (configure handlers handlerName)

end AllowanceProxy.Log
