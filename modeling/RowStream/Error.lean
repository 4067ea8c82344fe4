/-! # Errors of the result pipeline -/
namespace RowStream

/-- The stage an error comes from. -/
inductive ErrorKind
  | fetch | decode | cancelled | manifest | server | invalidState | invalidArgument | scan
deriving Repr, DecidableEq

def ErrorKind.text : ErrorKind → String
  | .fetch => "fetch error"
  | .decode => "decode error"
  | .cancelled => "cancelled"
  | .manifest => "invalid result manifest"
  | .server => "server error"
  | .invalidState => "invalid state"
  | .invalidArgument => "invalid argument"
  | .scan => "scan error"

/-- A failure with the chunk it belongs to and the status the storage answered, where known. -/
structure Error where
  kind : ErrorKind
  message : String
  chunk : Option Nat := none
  status : Option Nat := none
deriving Repr, DecidableEq

namespace Error

def fetch (message : String) : Error := { kind := .fetch, message }
def decode (message : String) : Error := { kind := .decode, message }
def manifest (message : String) : Error := { kind := .manifest, message }
def server (message : String) : Error := { kind := .server, message }
def invalidState (message : String) : Error := { kind := .invalidState, message }
def invalidArgument (message : String) : Error := { kind := .invalidArgument, message }
def scan (message : String) : Error := { kind := .scan, message }

/-- The caller gave up while a chunk was on its way. -/
def cancelled (message : String) : Error := { kind := .cancelled, message }

def isCancelled (e : Error) : Bool := e.kind == .cancelled

/-- Attributes the error to a chunk unless it names one already. -/
def withChunk (e : Error) (ordinal : Nat) : Error :=
  { e with chunk := some (e.chunk.getD ordinal) }

def invalidOption (key value : String) : Error :=
  invalidArgument ("invalid value '" ++ value ++ "' for option '" ++ key ++ "'")

def origin (e : Error) : String :=
  match e.chunk, e.status with
  | some c, some s => " (chunk " ++ toString c ++ ", HTTP " ++ toString s ++ ")"
  | some c, none => " (chunk " ++ toString c ++ ")"
  | none, some s => " (HTTP " ++ toString s ++ ")"
  | none, none => ""

def render (e : Error) : String := e.kind.text ++ e.origin ++ ": " ++ e.message

end Error

abbrev Result (α : Type) := Except Error α

def Result.mapError {α : Type} (f : Error → Error) : Result α → Result α
  | .ok a => .ok a
  | .error e => .error (f e)

end RowStream
