import NamedSql.Param.Basic
import NamedSql.Statement.Basic
import NamedSql.Value.Convert

/-!
What can go wrong. A cause belongs to the stage that raises it; a failure is a
cause under any number of layers that name the statement, or the statement and
the row of a batch.
-/

namespace NamedSql

inductive BindError where
  | missingKey (name : String)
  | countMismatch (defined given : Nat)
  | severalLists
  | notScalar (name : String)
deriving DecidableEq, Repr

def BindError.message : BindError → String
  | .missingKey name => s!"not found {name} from parameter values"
  | .countMismatch defined given =>
      s!"binding parameter count mismatch. defined={defined}, args={given}"
  | .severalLists => "this version only support 1 IN array binding"
  | .notScalar name => s!"column {name} needs a scalar value"

inductive ResultError where
  | noRows
  | noInsertId
  | missingInsertId (reason : String)
  | columnCount (expected got : Nat)
  | scan (column : String) (cause : ConversionError)
  | cursorClosed
  | noCurrentRow
deriving DecidableEq, Repr

def ResultError.message : ResultError → String
  | .noRows => "sql: no rows in result set"
  | .noInsertId => "sql: no insert id"
  | .missingInsertId reason => s!"fail to get last inserted id : {reason}"
  | .columnCount expected got =>
      s!"expected {expected} destination arguments in scan, not {got}"
  | .scan column cause =>
      "fail to scan column " ++ column ++ ": " ++ cause.message
  | .cursorClosed => "result cursor is closed"
  | .noCurrentRow => "scan called without a current row"

inductive DriverError where
  | badConnection
  | failed (reason : String)
deriving DecidableEq, Repr

def DriverError.message : DriverError → String
  | .badConnection => "driver: bad connection"
  | .failed reason => s!"driver: {reason}"

/-- Why a data source name cannot be read. -/
inductive DataSourceError where
  | noDriver
  | queryPair (pair : String)
  | undecodable (part : String) (cause : Text.Utf8Error)
  | unterminatedAddress (address : String)
  | port (number : String)
  | integer (cause : IntegerError)
deriving DecidableEq, Repr

def DataSourceError.message : DataSourceError → String
  | .noDriver => "Data source name must start with '<driver>://'"
  | .queryPair pair => s!"Invalid query parameter format: {pair}"
  | .undecodable part cause =>
      "Failed to decode " ++ part ++ ": " ++ cause.message
  | .unterminatedAddress address => s!"Unterminated IPv6 address: {address}"
  | .port number => s!"Invalid port: {number}"
  | .integer cause => cause.message

/-- Why the value of a setting is refused. -/
inductive SettingError where
  | notBoolean (value : String)
  | notNumber (value : String)
  | unknownNaming (value : String)
  | emptyDriver
  | zeroPort
  | zeroQueue
  | idleExceedsOpen (idle openLimit : Nat)
  | noBackend
  | noRuntime
deriving DecidableEq, Repr

def SettingError.message : SettingError → String
  | .notBoolean value => s!"Invalid boolean value: {value}"
  | .notNumber value => s!"Invalid number: {value}"
  | .unknownNaming value => s!"Unknown field naming: {value}"
  | .emptyDriver => "Driver name cannot be empty"
  | .zeroPort => "Port must be greater than 0"
  | .zeroQueue => "Queue size must be greater than 0"
  | .idleExceedsOpen idle openLimit =>
      s!"Idle connections ({idle}) cannot exceed open connections ({openLimit})"
  | .noBackend => "A backend is required"
  | .noRuntime => "Recording executions requires a running tokio runtime"

inductive ConfigError where
  | dataSource (cause : DataSourceError)
  | setting (name : String) (cause : SettingError)
deriving DecidableEq, Repr

def ConfigError.message : ConfigError → String
  | .dataSource cause => "Failed to parse data source name: " ++ cause.message
  | .setting name cause =>
      "Invalid preference '" ++ name ++ "': " ++ cause.message

inductive Cause where
  | param (e : ParamError)
  | bind (e : BindError)
  | statement (e : StatementError)
  | result (e : ResultError)
  | driver (e : DriverError)
  | conversion (e : ConversionError)
  | config (e : ConfigError)
deriving DecidableEq, Repr

def Cause.message : Cause → String
  | .param e => e.message
  | .bind e => e.message
  | .statement e => e.message
  | .result e => e.message
  | .driver e => e.message
  | .conversion e => e.message
  | .config e => e.message

instance : Coe ParamError Cause := ⟨.param⟩
instance : Coe BindError Cause := ⟨.bind⟩
instance : Coe StatementError Cause := ⟨.statement⟩
instance : Coe ResultError Cause := ⟨.result⟩
instance : Coe DriverError Cause := ⟨.driver⟩
instance : Coe ConversionError Cause := ⟨.conversion⟩
instance : Coe ConfigError Cause := ⟨.config⟩

/-- What executions have applied: the generated ids in order, and the rows they
touched. -/
structure Tally where
  insertIds : List Int
  rows : Int
deriving DecidableEq, Repr

namespace Tally

def empty : Tally := ⟨[], 0⟩

def append (first second : Tally) : Tally :=
  ⟨first.insertIds ++ second.insertIds, first.rows + second.rows⟩

/-- The tally after one more execution. -/
def push (tally : Tally) (insertId : Option Int) (rows : Int) : Tally :=
  ⟨tally.insertIds ++ insertId.toList, tally.rows + rows⟩

def lastInsertId (tally : Tally) : Except ResultError Int :=
  match tally.insertIds.getLast? with
  | some id => .ok id
  | none => .error .noInsertId

end Tally

/-- A cause under its layers. A batch layer names the row that stopped the
batch, counted from the first row, and what the batch had applied in its first
pass. -/
inductive Failure where
  | plain (cause : Cause)
  | annotated (id : String) (source : Failure)
  | batch (id : String) (row : Nat) (applied : Tally) (source : Failure)
deriving DecidableEq, Repr

namespace Failure

def message : Failure → String
  | .plain cause => cause.message
  | .annotated id source => "[" ++ id ++ "] " ++ source.message
  | .batch id row _ source =>
      "[" ++ id ++ "] batch stopped at row " ++ toString row ++ ": " ++
        source.message

/-- Names the statement, unless a layer already does. -/
def inStatement (id : String) : Failure → Failure
  | .plain cause => .annotated id (.plain cause)
  | layered => layered

/-- The cause under all layers. -/
def root : Failure → Cause
  | .plain cause => cause
  | .annotated _ source => source.root
  | .batch _ _ _ source => source.root

def isBadConnection (failure : Failure) : Bool :=
  failure.root == .driver .badConnection

/-- The row that stopped the batch of the outermost batch layer. -/
def failedRow? : Failure → Option Nat
  | .plain _ => none
  | .annotated _ source => source.failedRow?
  | .batch _ row _ _ => some row

/-- What that batch had applied. -/
def partialTally? : Failure → Option Tally
  | .plain _ => none
  | .annotated _ source => source.partialTally?
  | .batch _ _ applied _ => some applied

end Failure

instance : Coe Cause Failure := ⟨.plain⟩

end NamedSql
