import RowStream.Config
import RowStream.Overflow
import RowStream.Response
import RowStream.Codec.Decompress
import RowStream.Fetch.Headers
import RowStream.Fetch.Location
import RowStream.Text.Utf8

/-! # Downloading chunks

A request is tried again as the policy says. The answers to the attempts are a function of their
number, so that a download is a function of what the network does. -/
namespace RowStream
open RowStream.Text

/-- What comes of one request: no answer, or an answer with as much of its body as could be read. -/
inductive Exchange
  | failed (retryable : Bool) (message : String)
  | answered (status : Nat) (body : Except String (List UInt8))

structure Request where
  location : String
  headers : List (String × String)
deriving Repr, DecidableEq

namespace Request

def isValid (r : Request) : Bool :=
  Location.isValid r.location && r.headers.all fun h => isHeaderName h.1 && isHeaderValue h.2

/-- A request that cannot be made fails for good before it reaches the network. -/
def exchange (r : Request) (network : Exchange) : Exchange :=
  if r.isValid then network else .failed false "builder error"

end Request

inductive Attempt
  | body (bytes : List UInt8)
  /-- Worth another attempt. -/
  | transient (status : Option Nat) (message : String)
  | fatal (status : Option Nat) (message : String)
deriving Repr, DecidableEq

namespace Exchange

def quoteLimit : Nat := 256

def quoted : Except String (List UInt8) → String
  | .ok bytes => String.ofList (trim ((Utf8.decodeLossy bytes).take quoteLimit))
  | .error _ => ""

def judge (policy : RetryPolicy) : Exchange → Attempt
  | .failed true message => .transient none message
  | .failed false message => .fatal none message
  | .answered status body =>
    if 200 ≤ status ∧ status < 300 then
      match body with
      | .ok bytes => .body bytes
      | .error message => .transient none ("failed to read body: " ++ message)
    else
      let message := "HTTP " ++ toString status ++ " - " ++ quoted body
      if policy.retries status then .transient (some status) message else .fatal (some status) message

end Exchange

/-- An attempt and the delay after it, as the token sees them: it is fired before the exchange ends,
or the exchange ends and the token may be fired in the delay that follows. -/
inductive Round
  | cancelled
  | ended (e : Exchange) (cancelledInDelay : Bool)

/-- The result of a download, the number of exchanges that came to an end, and the delays that were begun. -/
structure Download where
  result : Result (List UInt8)
  ended : Nat
  delays : List Span := []

namespace Download

/-- The number of attempts is a word of 32 bits. -/
def maxAttempts (policy : RetryPolicy) : Except Overflow Nat :=
  if policy.maxRetries + 1 < UInt32.size then .ok (policy.maxRetries + 1) else .error .addition

def cancelledError (ordinal : Nat) : Error :=
  { Error.cancelled "chunk download cancelled" with chunk := some ordinal }

def fetchError (ordinal : Nat) (status : Option Nat) (message : String) : Error :=
  { Error.fetch message with chunk := some ordinal, status }

def gaveUp (attempts : Nat) (message : String) : String :=
  "giving up after " ++ toString attempts ++ " attempts: " ++ message

/-- Goes on with attempt number `n`, counted from one, of `limit` attempts. -/
def attemptFrom (policy : RetryPolicy) (ordinal : Nat) (rounds : Nat → Round) (limit n : Nat) : Download :=
  match rounds n with
  | .cancelled => { result := .error (cancelledError ordinal), ended := n - 1 }
  | .ended e cancelledInDelay =>
    match e.judge policy with
    | .body bytes => { result := .ok bytes, ended := n }
    | .fatal status message => { result := .error (fetchError ordinal status message), ended := n }
    | .transient status message =>
      if n < limit then
        let delay := policy.wait (UInt32.ofNat n)
        if cancelledInDelay then { result := .error (cancelledError ordinal), ended := n, delays := [delay] }
        else
          let later := attemptFrom policy ordinal rounds limit (n + 1)
          { later with delays := delay :: later.delays }
      else { result := .error (fetchError ordinal status (gaveUp n message)), ended := n }
termination_by limit - n

/-- Downloads until an attempt succeeds, fails for good or is the last one. -/
def run (policy : RetryPolicy) (ordinal : Nat) (rounds : Nat → Round) : Except Overflow Download := do
  .ok (attemptFrom policy ordinal rounds (← maxAttempts policy) 1)

end Download

/-- What the downloads of one result have in common. -/
structure Downloader where
  headers : List (String × String)
  format : ResultFormat
  retry : RetryPolicy

namespace Downloader

def ofResponse (config : Config) (r : Response) : Result Downloader := do
  .ok ⟨requestHeaders r.masterKey r.chunkHeaders, ← r.format, config.retry⟩

/-- The content of a chunk, with compression undone. The network says what happens in each round;
a request that cannot be made never gets there. -/
def fetch (d : Downloader) (ordinal : Nat) (location : String) (network : Nat → Round) : Except Overflow Download := do
  let request : Request := ⟨location, d.headers⟩
  let rounds (n : Nat) : Round :=
    match network n with
    | .cancelled => .cancelled
    | .ended e cancelledInDelay => .ended (request.exchange e) cancelledInDelay
  let download ← Download.run d.retry ordinal rounds
  .ok { download with
    result := download.result.bind fun bytes => Result.mapError (·.withChunk ordinal) (Codec.decompress bytes) }

end Downloader
end RowStream
