import RowStream.Error
import RowStream.Span
import RowStream.SessionFormat
import RowStream.Number.Binary64
import RowStream.Columnar.Target
import RowStream.Decode.Scalar

/-! # Configuration -/
namespace RowStream
open RowStream.Number RowStream.Text RowStream.Columnar

/-- When and how often a download is tried again. Delays are in milliseconds. -/
structure RetryPolicy where
  maxRetries : Nat := 5
  delay : Nat := 250
  maxDelay : Nat := 16000
  statuses : List Nat := [429]
  serverErrors : Bool := true
deriving Repr, DecidableEq

namespace RetryPolicy

def retries (p : RetryPolicy) (status : Nat) : Bool :=
  (p.serverErrors && 500 ≤ status && status < 600) || p.statuses.contains status

/-- The factor before retry number `attempt`, counted from one: it doubles from retry to retry. Where it leaves
32 bits it is the largest one. -/
def factorWord (attempt : UInt32) : UInt32 :=
  let doublings := if attempt = 0 then 0 else attempt - 1
  if doublings < 32 then 1 <<< doublings else 0xFFFFFFFF

/-- The span before a retry, in words throughout. -/
def spanBefore (delay cap : Span) (attempt : UInt32) : Span := (delay.times (factorWord attempt)).shorter cap

def wait (p : RetryPolicy) (attempt : UInt32) : Span :=
  spanBefore (Span.ofMillis (UInt64.ofNat p.delay)) (Span.ofMillis (UInt64.ofNat p.maxDelay)) attempt

end RetryPolicy

/-- Everything that can be set. Times are in milliseconds. -/
structure Config where
  prefetchLimit : Nat := 4
  retry : RetryPolicy := {}
  /-- The time between two notes on a chunk that is late. -/
  chunkReadyTimeout : Option Nat := some 30000
  speedThreshold : Binary64 := ⟨0x3FB999999999999A⟩
  higherPrecision : Bool := false
  timestampUnit : TimeUnit := .nanosecond
  connectTimeout : Nat := 30000
  requestTimeout : Nat := 120000
  maxConnectionsPerHost : Nat := 16
  logLevel : Option String := none
  logFile : Option String := none
deriving Repr, DecidableEq

namespace Config

inductive Key
  | prefetchLimit | maxRetries | retryDelay | maxRetryDelay | retryableStatuses | retryServerErrors
  | chunkReadyTimeout | speedThreshold | higherPrecision | timestampUnit
  | connectTimeout | requestTimeout | maxConnectionsPerHost | logLevel | logFile
deriving Repr, DecidableEq

def Key.all : List Key :=
  [.prefetchLimit, .maxRetries, .retryDelay, .maxRetryDelay, .retryableStatuses, .retryServerErrors,
    .chunkReadyTimeout, .speedThreshold, .higherPrecision, .timestampUnit,
    .connectTimeout, .requestTimeout, .maxConnectionsPerHost, .logLevel, .logFile]

def Key.name : Key → String
  | .prefetchLimit => "snowflake.result.prefetch_limit"
  | .maxRetries => "snowflake.result.max_retries"
  | .retryDelay => "snowflake.result.retry_delay_ms"
  | .maxRetryDelay => "snowflake.result.max_retry_delay_ms"
  | .retryableStatuses => "snowflake.result.retryable_statuses"
  | .retryServerErrors => "snowflake.result.retry_server_errors"
  | .chunkReadyTimeout => "snowflake.result.chunk_ready_timeout_ms"
  | .speedThreshold => "snowflake.result.speed_threshold_mbps"
  | .higherPrecision => "snowflake.result.higher_precision"
  | .timestampUnit => "snowflake.result.arrow_timestamp_unit"
  | .connectTimeout => "snowflake.http.connect_timeout_ms"
  | .requestTimeout => "snowflake.http.request_timeout_ms"
  | .maxConnectionsPerHost => "snowflake.http.max_connections_per_host"
  | .logLevel => "snowflake.log_level"
  | .logFile => "snowflake.log_file"

def Key.ofName? (name : String) : Option Key := Key.all.find? (·.name = name)

def readBool? (value : String) : Option Bool :=
  let word := String.ofList (lower value.toList)
  if word ∈ ["true", "1", "yes"] then some true
  else if word ∈ ["false", "0", "no"] then some false
  else none

def readInt? (value : String) : Option Int := Range.int64.read? (trimmed value)

/-- A number of milliseconds, or another count that may be zero. -/
def readNat? (value : String) : Option Nat := do
  let n ← readInt? value
  if 0 ≤ n then some n.toNat else none

def readPositive? (value : String) : Option Nat := (readNat? value).filter (0 < ·)

def readCount? (value : String) : Option Nat := (readNat? value).filter fun n => (n : Int) ∈ Range.nat32

/-- Statuses between commas; blank parts do not count. -/
def readStatuses? (value : String) : Option (List Nat) :=
  (((splitAt ',' value.toList).map trim).filter fun s => !s.isEmpty).mapM fun s =>
    (Range.nat16.read? s).map Int.toNat

def readSpeed? (value : String) : Option Binary64 :=
  (Binary64.read? (trimmed value)).filter (·.isNonNegative)

def batchOptions (c : Config) : BatchOptions := ⟨c.higherPrecision, c.timestampUnit⟩

def decodeOptions (c : Config) (ps : List SessionParameter) : DecodeOptions :=
  ⟨c.higherPrecision, OutputFormats.ofParameters ps⟩

end Config
end RowStream
