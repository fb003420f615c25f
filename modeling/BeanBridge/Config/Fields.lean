import BeanBridge.Config.Basic

/-! The settings of a connection as named fields, whatever the format that holds the fields. -/

namespace BeanBridge.Config

/-- The names of the fields, in their order. -/
def fieldNames : List String :=
  ["connectionURL", "hostname", "port", "uriPath", "username", "password", "keyStore",
    "keyStorePassword", "trustStore", "trustStorePassword", "isRemote", "isJBossStandaloneMode",
    "useSSL", "requestTimeoutMs", "verbose", "enableInternalStats", "maxInternalStatsSize"]

/-- The whole number `n` as a port. -/
def port? (n : Int) : Option UInt16 :=
  if 0 ≤ n ∧ n < 2 ^ 16 then some (.ofNat n.toNat) else none

/-- The whole number `n` in 64 bits. -/
def int64? (n : Int) : Option Int64 :=
  if -2 ^ 63 ≤ n ∧ n < 2 ^ 63 then some (.ofInt n) else none

/-- How the fields of a format are read. -/
structure Reader (φ : Type) where
  text? : φ → Option String
  whole? : φ → Option Int
  flag? : φ → Option Bool

/-- The settings in the fields given by position; a field that is not there has its usual value,
and one that is there has to hold a value of its kind. -/
def ofFields {φ : Type} (reader : Reader φ) (field? : Nat → Option φ) : Option Config := do
  let text (position : Nat) : Option String :=
    match field? position with
    | none => some ""
    | some field => reader.text? field
  let int64 (position : Nat) : Option Int64 :=
    match field? position with
    | none => some 0
    | some field => reader.whole? field >>= int64?
  let flag (position : Nat) : Option Bool :=
    match field? position with
    | none => some false
    | some field => reader.flag? field
  let port : Option UInt16 :=
    match field? 2 with
    | none => some 0
    | some field => reader.whole? field >>= port?
  some {
    url := ← text 0
    host := ← text 1
    port := ← port
    path := ← text 3
    user := ← text 4
    password := ← text 5
    keyStore := ← text 6
    keyStorePassword := ← text 7
    trustStore := ← text 8
    trustStorePassword := ← text 9
    isRemote := ← flag 10
    isStandalone := ← flag 11
    useTls := ← flag 12
    requestTimeout := ← int64 13
    verbose := ← flag 14
    recordsStats := ← flag 15
    statsCapacity := ← int64 16 }

end BeanBridge.Config
