import RowStream.Config

/-! # Settings in place

A configuration that somebody holds is changed by calls. Whatever a call has assigned stays, also where the
call fails after that. -/
namespace RowStream.Config
open RowStream.Columnar

abbrev InPlace := ExceptT Error (StateM Config)

def put {α : Type} (name value : String) (read? : String → Option α) (assigned : α → Config → Config) :
    InPlace Unit :=
  match read? value with
  | some x => modify (assigned x)
  | none => throw (.invalidOption name value)

def assign (name value : String) : InPlace Unit :=
  match Key.ofName? name with
  | none => throw (.invalidArgument ("unknown option '" ++ name ++ "'"))
  | some key =>
    match key with
    | .prefetchLimit => put name value readPositive? fun n c => { c with prefetchLimit := n }
    | .maxRetries => put name value readCount? fun n c => { c with retry := { c.retry with maxRetries := n } }
    | .retryDelay => put name value readNat? fun n c => { c with retry := { c.retry with delay := n } }
    | .maxRetryDelay => put name value readNat? fun n c => { c with retry := { c.retry with maxDelay := n } }
    | .retryableStatuses =>
      put name value readStatuses? fun ss c => { c with retry := { c.retry with statuses := ss } }
    | .retryServerErrors =>
      put name value readBool? fun b c => { c with retry := { c.retry with serverErrors := b } }
    | .chunkReadyTimeout =>
      put name value readNat? fun n c => { c with chunkReadyTimeout := if n = 0 then none else some n }
    | .speedThreshold => put name value readSpeed? fun x c => { c with speedThreshold := x }
    | .higherPrecision => put name value readBool? fun b c => { c with higherPrecision := b }
    | .timestampUnit => put name value TimeUnit.ofText? fun u c => { c with timestampUnit := u }
    | .connectTimeout => put name value readNat? fun n c => { c with connectTimeout := n }
    | .requestTimeout => put name value readNat? fun n c => { c with requestTimeout := n }
    | .maxConnectionsPerHost => put name value readNat? fun n c => { c with maxConnectionsPerHost := n }
    | .logLevel => put name value some fun text c => { c with logLevel := some text }
    | .logFile => put name value some fun text c => { c with logFile := some text }

/-- Takes the prefetch limit over from the session. What is no positive number is left aside. -/
def adopt (ps : List SessionParameter) : InPlace Unit :=
  match SessionParameter.find? ps "CLIENT_PREFETCH_THREADS" with
  | none => pure ()
  | some p =>
    match readPositive? p.valueText with
    | some n => modify fun c => { c with prefetchLimit := n }
    | none => pure ()

inductive Call
  | set (name value : String)
  | session (ps : List SessionParameter)

def Call.run (call : Call) (c : Config) : Result Unit × Config :=
  match call with
  | .set name value => (assign name value).run.run c
  | .session ps => (adopt ps).run.run c

def set (c : Config) (name value : String) : Result Config :=
  match (Call.set name value).run c with
  | (.ok _, d) => .ok d
  | (.error e, _) => .error e

def applyParameters (c : Config) (ps : List SessionParameter) : Config := ((Call.session ps).run c).2

/-- The configuration after calls. After one that fails the holder goes on with what it left. -/
def after (c : Config) (calls : List Call) : Config := calls.foldl (fun c call => (call.run c).2) c

end RowStream.Config
