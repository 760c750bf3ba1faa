import FilterQuery.Text.Lowercase

/-!
# Logging

* `Event`: what a compilation tells of its progress; `Event.text`;
* `LogSettings.fromLookup`: which events are of interest and how they are written, from named texts
  such as the environment of a process.
-/

namespace FilterQuery

/-- How urgent an event is. -/
inductive LogLevel where
  | trace
  | debug
  | info
  | warn
  | error
deriving DecidableEq, Repr

namespace LogLevel

def all : List LogLevel := [trace, debug, info, warn, error]

def name : LogLevel → String
  | trace => "trace"
  | debug => "debug"
  | info => "info"
  | warn => "warn"
  | error => "error"

/-- The level with exactly this name. -/
def ofName? (s : String) : Option LogLevel := all.find? fun l => l.name == s

end LogLevel

/-- A step of a compilation. -/
inductive Event where
  | scanned (fields : Nat)
  | addingJoin
  | joinedRelation
  | emptyMembership
  | compiledField
  | assembled (predicates : Nat)
  | executing (params : Nat)
deriving DecidableEq, Repr

namespace Event

def level : Event → LogLevel
  | scanned _ => .debug
  | addingJoin => .trace
  | joinedRelation => .trace
  | emptyMembership => .warn
  | compiledField => .debug
  | assembled _ => .debug
  | executing _ => .debug

/-- What happened, with its number if it has one. -/
def message : Event → String
  | scanned fields => "scanned filter declarations fields=" ++ toString fields
  | addingJoin => "adding join"
  | joinedRelation => "joined relation"
  | emptyMembership => "empty membership list matches no rows"
  | compiledField => "compiled filter field"
  | assembled predicates => "assembled constraint predicates=" ++ toString predicates
  | executing params => "executing specification query params=" ++ toString params

/-- Level and message. -/
def text (e : Event) : String := Text.asciiUppercase e.level.name ++ " " ++ e.message

end Event

/-- How log lines are written. -/
inductive LogFormat where
  | json
  | pretty
  | compact
deriving DecidableEq, Repr

def LogFormat.name : LogFormat → String
  | json => "json"
  | pretty => "pretty"
  | compact => "compact"

/-- What is logged and how. -/
structure LogSettings where
  /-- Single fields are logged. -/
  debug : Bool := false
  level : LogLevel := .warn
  format : LogFormat := .json
deriving DecidableEq, Repr

namespace LogSettings

def debugKey : String := "SIEVE_DEBUG"

def levelKey : String := "SIEVE_LOG_LEVEL"

def formatKey : String := "SIEVE_LOG_FORMAT"

/-- The text says yes, in any letter case. -/
def isYes (s : String) : Bool := ["true", "1", "yes"].contains (Text.lowercase s)

/-- The format that a text names, in any letter case. -/
def formatOf (s : String) : LogFormat :=
  let lower := Text.lowercase s
  if lower = "pretty" then .pretty else if lower = "compact" then .compact else .json

/-- The settings under their keys. Without a known level, fields are logged or only warnings. -/
def fromLookup (lookup : String → Option String) : LogSettings :=
  let debug := ((lookup debugKey).map isYes).getD false
  { debug := debug
    level := ((lookup levelKey).bind fun s => LogLevel.ofName? (Text.lowercase s)).getD
      (if debug then .debug else .warn)
    format := ((lookup formatKey).map formatOf).getD .json }

end LogSettings

end FilterQuery
