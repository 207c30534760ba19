import SqlMapper.Json.Basic
import SqlMapper.Json.Reader

/-!
# Options of a connection pool

How many connections a pool keeps and how long they live. Every option may be unset; then it has a
default.

* `PoolOptions.check`: whether the options that are set agree with each other.
* `PoolOptions.maxSize`, `PoolOptions.minSize`, …: the options in effect.
* `PoolOptions.ofJson`: reads options, from an object or from an array of all of them.
-/

namespace SqlMapper

/-- The options of a pool. Times are in seconds. -/
structure PoolOptions where
  maxConnections? : Option UInt32
  minConnections? : Option UInt32
  idleTimeout? : Option UInt64
  acquireTimeout? : Option UInt64
  /-- Whether a connection is tested before it is handed out. -/
  testBefore? : Option Bool
deriving DecidableEq

/-- Why options do not agree. -/
inductive PoolFault where
  | noMaximum
  | noMinimum
  | minimumAbove (least most : UInt32)
deriving DecidableEq

/-- The wording of a `PoolFault`. -/
def PoolFault.message : PoolFault → String
  | noMaximum => "max_connections must be greater than 0"
  | noMinimum => "min_connections must be greater than 0"
  | minimumAbove least most =>
    "min_connections (" ++ Nat.repr least.toNat ++ ") cannot exceed max_connections (" ++
      Nat.repr most.toNat ++ ")"

namespace PoolOptions

/-- Nothing is set. -/
def unset : PoolOptions := ⟨none, none, none, none, none⟩

/-! ## Options in effect -/

def maxSize (o : PoolOptions) : UInt32 := o.maxConnections?.getD 10

def minSize (o : PoolOptions) : UInt32 := o.minConnections?.getD 1

def idleTimeout (o : PoolOptions) : UInt64 := o.idleTimeout?.getD 600

def acquireTimeout (o : PoolOptions) : UInt64 := o.acquireTimeout?.getD 30

def testBefore (o : PoolOptions) : Bool := o.testBefore?.getD true

/-- Checks the options that are set: sizes are positive, and the least is not above the greatest
    (`PoolOptions.validate`). -/
def check (o : PoolOptions) : Except PoolFault Unit :=
  if o.maxConnections? = some 0 then .error .noMaximum
  else if o.minConnections? = some 0 then .error .noMinimum
  else match o.minConnections?, o.maxConnections? with
    | some least, some most =>
      if most < least then .error (.minimumAbove least most) else .ok ()
    | _, _ => .ok ()

/-! ## JSON -/

/-- An optional number. -/
def optNumber (n? : Option Nat) : Json := (n?.map fun n => Json.int n).getD .null

/-- The JSON object for options. -/
def toJson (o : PoolOptions) : Json :=
  .object [("max_connections", optNumber (o.maxConnections?.map (·.toNat))),
    ("min_connections", optNumber (o.minConnections?.map (·.toNat))),
    ("idle_timeout_secs", optNumber (o.idleTimeout?.map (·.toNat))),
    ("acquire_timeout_secs", optNumber (o.acquireTimeout?.map (·.toNat))),
    ("test_before_acquire", (o.testBefore?.map Json.bool).getD .null)]

/-- The members of options that have been read. -/
structure Fields where
  maxConnections : Option (Option UInt32)
  minConnections : Option (Option UInt32)
  idleTimeout : Option (Option UInt64)
  acquireTimeout : Option (Option UInt64)
  testBefore : Option (Option Bool)

open Json.Reader in
/-- An optional number of 32 bits. -/
def word : Json.Reader (Option UInt32) := optional (UInt32.ofNat <$> natBelow UInt32.size)

open Json.Reader in
/-- An optional number of 64 bits. -/
def longWord : Json.Reader (Option UInt64) := optional (UInt64.ofNat <$> natBelow UInt64.size)

open Json.Reader in
/-- Options from an object, whose members may all be missing, or from an array of all of them. -/
def reader : Json.Reader PoolOptions :=
  object (⟨none, none, none, none, none⟩ : Fields)
    (fun o member =>
      match member with
      | "max_connections" =>
        .once o.maxConnections word fun x => { o with maxConnections := some x }
      | "min_connections" =>
        .once o.minConnections word fun x => { o with minConnections := some x }
      | "idle_timeout_secs" => .once o.idleTimeout longWord fun x => { o with idleTimeout := some x }
      | "acquire_timeout_secs" =>
        .once o.acquireTimeout longWord fun x => { o with acquireTimeout := some x }
      | "test_before_acquire" =>
        .once o.testBefore (optional bool) fun x => { o with testBefore := some x }
      | _ => .unknown)
    (fun o => some ⟨o.maxConnections.getD none, o.minConnections.getD none, o.idleTimeout.getD none,
      o.acquireTimeout.getD none, o.testBefore.getD none⟩)
    (do
      return ⟨← item true word, ← item false word, ← item false longWord, ← item false longWord,
        ← item false (optional bool)⟩)

/-- Reads the JSON text of options. -/
def ofJson (text : String) : Except Json.ReadError PoolOptions :=
  Json.Reader.whole reader text.toList

end PoolOptions

end SqlMapper
