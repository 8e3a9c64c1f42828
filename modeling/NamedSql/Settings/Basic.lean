import NamedSql.Keyed
import NamedSql.Naming

/-!
The settings of a mapper. They are collected one by one in a draft, where the
last value given for a setting counts, and checked when the draft is complete.
-/

namespace NamedSql

inductive Setting where
  | driver (name : String)
  | host (name : String)
  | port (number : Nat)
  | username (name : String)
  | password (secret : String)
  | database (name : String)
  | debug (enabled : Bool)
  | maxOpen (limit : Nat)
  | maxIdle (limit : Nat)
  | lifetime (seconds : Nat)
  | naming (naming : Naming)
  | recordExecutions (enabled : Bool)
  | queueSize (size : Nat)
  | option (key value : String)
deriving DecidableEq, Repr

/-- Complete settings. A limit of no open connections is none, and `lifetime`
counts seconds. -/
structure Settings where
  driver : String
  host : Option String
  port : Option Nat
  username : Option String
  password : Option String
  database : Option String
  debug : Bool
  maxOpen : Nat
  maxIdle : Nat
  lifetime : Option Nat
  naming : Naming
  recordExecutions : Bool
  queueSize : Nat
  options : List (String × String)
deriving DecidableEq, Repr

/-- The settings given so far. -/
structure SettingsDraft where
  driver : Option String := none
  host : Option String := none
  port : Option Nat := none
  username : Option String := none
  password : Option String := none
  database : Option String := none
  debug : Option Bool := none
  maxOpen : Option Nat := none
  maxIdle : Option Nat := none
  lifetime : Option Nat := none
  naming : Option Naming := none
  recordExecutions : Option Bool := none
  queueSize : Option Nat := none
  options : List (String × String) := []
deriving DecidableEq, Repr

namespace SettingsDraft

def empty : SettingsDraft := {}

def set (draft : SettingsDraft) : Setting → SettingsDraft
  | .driver name => { draft with driver := some name }
  | .host name => { draft with host := some name }
  | .port number => { draft with port := some number }
  | .username name => { draft with username := some name }
  | .password secret => { draft with password := some secret }
  | .database name => { draft with database := some name }
  | .debug enabled => { draft with debug := some enabled }
  | .maxOpen limit => { draft with maxOpen := some limit }
  | .maxIdle limit => { draft with maxIdle := some limit }
  | .lifetime seconds => { draft with lifetime := some seconds }
  | .naming naming => { draft with naming := some naming }
  | .recordExecutions enabled => { draft with recordExecutions := some enabled }
  | .queueSize size => { draft with queueSize := some size }
  | .option key value =>
      { draft with options := Keyed.insert key value draft.options }

def setAll (draft : SettingsDraft) (settings : List Setting) : SettingsDraft :=
  settings.foldl set draft

def defaultQueueSize : Nat := 1024

def defaultMaxIdle : Nat := 2

/-- The limit of idle connections: the default stays within a limit of open
ones. -/
def idleLimit (draft : SettingsDraft) (maxOpen : Nat) : Nat :=
  match draft.maxIdle with
  | some limit => limit
  | none => if maxOpen = 0 then defaultMaxIdle else min defaultMaxIdle maxOpen

/-- An empty text counts as none. -/
def given (text : Option String) : Option String :=
  text.filter fun s => !s.isEmpty

/-- Checks the draft and fills in the defaults. -/
def build (draft : SettingsDraft) : Except ConfigError Settings :=
  let driver := draft.driver.getD ""
  let queueSize := draft.queueSize.getD defaultQueueSize
  let maxOpen := draft.maxOpen.getD 0
  let maxIdle := draft.idleLimit maxOpen
  if (Text.trim driver.toList).isEmpty then
    .error (.setting "driver" .emptyDriver)
  else if draft.port = some 0 then .error (.setting "port" .zeroPort)
  else if queueSize = 0 then .error (.setting "record_queue_size" .zeroQueue)
  else if 0 < maxOpen ∧ maxOpen < maxIdle then
    .error (.setting "max_idle_conns" (.idleExceedsOpen maxIdle maxOpen))
  else
    .ok {
      driver := Text.toAsciiLower driver
      host := given draft.host
      port := draft.port
      username := given draft.username
      password := draft.password
      database := draft.database
      debug := draft.debug.getD false
      maxOpen
      maxIdle
      lifetime := draft.lifetime
      naming := draft.naming.getD .snake
      recordExecutions := draft.recordExecutions.getD false
      queueSize
      options := draft.options }

end SettingsDraft

namespace Settings

def numberOption : Option Nat → String
  | none => "None"
  | some n => "Some(" ++ toString n ++ ")"

/-- A lifetime of nothing is written in the smallest unit. -/
def lifetimeText : Option Nat → String
  | none => "None"
  | some 0 => "Some(0ns)"
  | some seconds => "Some(" ++ toString seconds ++ "s)"

def optionsText (options : List (String × String)) : String :=
  let entries :=
    options.map fun (key, value) => Text.quoted key ++ ": " ++ Text.quoted value
  "\x7b" ++ ", ".intercalate entries ++ "\x7d"

/-- The fields of a written form between braces. -/
def fieldsText (fields : List (String × String)) : String :=
  "MapperPreference \x7b " ++
    ", ".intercalate (fields.map fun (name, text) => name ++ ": " ++ text) ++
    " \x7d"

/-- The short form, which leaves the password out. -/
def summary (settings : Settings) : String :=
  fieldsText [
    ("driver", settings.driver),
    ("host", Text.quotedOption settings.host),
    ("port", numberOption settings.port),
    ("username", Text.quotedOption settings.username),
    ("database", Text.quotedOption settings.database),
    ("debug", toString settings.debug)]

/-- The full form, which shows only whether there is a password. -/
def describe (settings : Settings) : String :=
  fieldsText [
    ("driver", Text.quoted settings.driver),
    ("host", Text.quotedOption settings.host),
    ("port", numberOption settings.port),
    ("username", Text.quotedOption settings.username),
    ("password",
      Text.quotedOption (settings.password.map fun _ => "<redacted>")),
    ("database", Text.quotedOption settings.database),
    ("debug", toString settings.debug),
    ("max_open_conns", toString settings.maxOpen),
    ("max_idle_conns", toString settings.maxIdle),
    ("conn_max_lifetime", lifetimeText settings.lifetime),
    ("field_naming", settings.naming.name),
    ("record_executions", toString settings.recordExecutions),
    ("record_queue_size", toString settings.queueSize),
    ("options", optionsText settings.options)]

end Settings

end NamedSql
