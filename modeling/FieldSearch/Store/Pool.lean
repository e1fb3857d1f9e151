import FieldSearch.Json.Decoder
import FieldSearch.Number.Digits

/-!
# Connection pools

How a database file is opened. A file is served by a pool of connections between a least and a
greatest number; a database in memory is served by exactly one, since every further connection
would open a database of its own.

## Main results

* `idle_le_size`: no more connections are kept than the pool may hold.
-/

namespace FieldSearch

/-- How a database file is opened. -/
structure FileOptions where
  maxConnections : Nat := 10
  minConnections : Nat := 1
  connectionTimeoutMs : Nat := 30000
  busyTimeoutMs : Nat := 5000
  /-- Whether changes are first written to a log beside the file. -/
  writeAheadLog : Bool := true
deriving DecidableEq, Repr

namespace FileOptions

/-- Reads options; none of them has to be given. -/
def decoder : Json.Decoder FileOptions :=
  .struct "struct SqliteBackendConfig" {} [
    .defaulted "max_connections" (.natural Number.maxNat32 "u32") fun maxConnections options =>
      { options with maxConnections },
    .defaulted "min_connections" (.natural Number.maxNat32 "u32") fun minConnections options =>
      { options with minConnections },
    .defaulted "connection_timeout_ms" (.natural Number.maxNat64 "u64")
      fun connectionTimeoutMs options => { options with connectionTimeoutMs },
    .defaulted "busy_timeout_ms" (.natural Number.maxNat32 "u32") fun busyTimeoutMs options =>
      { options with busyTimeoutMs },
    .defaulted "enable_wal" .bool fun writeAheadLog options => { options with writeAheadLog }]

/-- Options as an object. -/
def toJson (options : FileOptions) : Json :=
  .object [("busy_timeout_ms", .integer options.busyTimeoutMs),
    ("connection_timeout_ms", .integer options.connectionTimeoutMs),
    ("enable_wal", .bool options.writeAheadLog),
    ("max_connections", .integer options.maxConnections),
    ("min_connections", .integer options.minConnections)]

/-- Options as they are shown. -/
def describe (options : FileOptions) : String :=
  s!"SqliteBackendConfig \x7b max_connections: {options.maxConnections}, " ++
  s!"min_connections: {options.minConnections}, " ++
  s!"connection_timeout_ms: {options.connectionTimeoutMs}, " ++
  s!"busy_timeout_ms: {options.busyTimeoutMs}, enable_wal: {options.writeAheadLog} \x7d"

end FileOptions

/-- The settings of a pool of connections. -/
structure PoolSettings where
  /-- The greatest number of connections. -/
  size : Nat
  /-- The number of connections that are opened at once and kept. -/
  idle : Nat
  connectionTimeoutMs : Nat
  busyTimeoutMs : Nat
deriving DecidableEq, Repr

namespace PoolSettings

/-- The longest time that a connection can be told to wait for a lock. -/
def maxBusyTimeoutMs : Nat := Number.maxInt32

/-- Whether a pool can be built with the settings. -/
def isAdmissible (settings : PoolSettings) : Bool :=
  decide (0 < settings.size) && decide (settings.idle ≤ settings.size) &&
    decide (0 < settings.connectionTimeoutMs)

/-- Whether a connection can be told how long to wait. -/
def canConnect (settings : PoolSettings) : Bool :=
  decide (settings.busyTimeoutMs ≤ maxBusyTimeoutMs)

end PoolSettings

/-- The pool for a database in memory or in a file. -/
def FileOptions.pool (options : FileOptions) (inMemory : Bool) : PoolSettings :=
  let size := if inMemory then 1 else max options.maxConnections 1
  { size
    idle := if inMemory then 1 else min options.minConnections size
    connectionTimeoutMs := options.connectionTimeoutMs
    busyTimeoutMs := options.busyTimeoutMs }

theorem FileOptions.idle_le_size (options : FileOptions) (inMemory : Bool) :
    (options.pool inMemory).idle ≤ (options.pool inMemory).size := by
  cases inMemory
  · exact Nat.min_le_right _ _
  · exact Nat.le_refl _

end FieldSearch
