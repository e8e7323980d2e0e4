import CiClient.Number.Binary64
/-!
# JSON values

A JSON value as this library reads it. Numbers keep the form the reader gave them: a
non-negative integer below `2 ^ 64`, a negative integer not below `-2 ^ 63`, or a binary64
value for everything else. Objects keep their fields sorted by key with each key once, so that
two objects with the same fields are the same value; `Value.insert` is the one way fields are
added, and a later field replaces an earlier one of the same key.
-/

namespace CiClient.Json

open CiClient.Number

/-- A JSON number. -/
inductive Number where
  /-- An integer in `[0, 2 ^ 64)`. -/
  | unsigned (n : Nat)
  /-- A negative integer in `[-2 ^ 63, 0)`. -/
  | signed (n : Int)
  /-- Any other number. -/
  | float (x : Binary64)
  deriving DecidableEq, Repr, Inhabited

/-- A JSON value. -/
inductive Value where
  | null
  | bool (b : Bool)
  | number (n : Number)
  | string (s : String)
  | array (items : List Value)
  /-- Fields sorted by key, each key once. -/
  | object (fields : List (String × Value))
  deriving Repr, Inhabited

/-- Adds a field to fields sorted by key; a field of the same key is replaced. -/
def insertField (k : String) (v : Value) : List (String × Value) → List (String × Value)
  | [] => [(k, v)]
  | (k', v') :: rest =>
    if k < k' then (k, v) :: (k', v') :: rest
    else if k = k' then (k, v) :: rest
    else (k', v') :: insertField k v rest

/-- The value of a key among fields. -/
def lookupField (k : String) : List (String × Value) → Option Value
  | [] => none
  | (k', v) :: rest => if k = k' then some v else lookupField k rest

namespace Value

/-- An object built from fields in order, a later field replacing an earlier one. -/
def ofFields (fields : List (String × Value)) : Value :=
  .object (fields.foldl (fun acc (k, v) => insertField k v acc) [])

/-- The value under a key of an object. -/
def get? : Value → String → Option Value
  | .object fields, k => lookupField k fields
  | _, _ => none

/-- The text of a string value. -/
def str? : Value → Option String
  | .string s => some s
  | _ => none

/-- The natural number of a non-negative integer value. -/
def nat? : Value → Option Nat
  | .number (.unsigned n) => some n
  | _ => none

/-- The truth value of a boolean. -/
def bool? : Value → Option Bool
  | .bool b => some b
  | _ => none

/-- The items of an array. -/
def array? : Value → Option (List Value)
  | .array items => some items
  | _ => none

/-- An unsigned integer value. -/
def nat (n : Nat) : Value := .number (.unsigned n)

/-- Adds a field to an object value; any other value is left as it is. -/
def insert (v : Value) (k : String) (x : Value) : Value :=
  match v with
  | .object fields => .object (insertField k x fields)
  | other => other

end Value

end CiClient.Json
