/-
Purpose: a bounded map whose entries expire (`relay_ttl_table.hpp`).

Points in time are nanoseconds of the steady clock, lifetimes are milliseconds.  The
counters for diagnostics and the snapshot made of them are left out.
-/
import Heyaki.Core.Limits
import Heyaki.Foundation.SortedMap

namespace Heyaki

open Foundation (SortedMap)

inductive RelayTtlUpsertOutcome where
  | inserted | updated
  deriving Repr, DecidableEq

structure RelayTtlEntry (υ : Type) where
  value : υ
  expiresAt : Int
  deriving Repr, DecidableEq

structure RelayTtlTable (κ υ : Type) [LinearOrder κ] where
  capacity : Nat
  entries : SortedMap κ (RelayTtlEntry υ) := {}

def ttlError (code : ErrorCode) (detail : String) : Error :=
  { code := code, component := "relay_ttl", safeDetail := detail }

namespace RelayTtlTable

variable {κ υ : Type} [LinearOrder κ]

def create (capacity : Nat) : Except Error (RelayTtlTable κ υ) :=
  if capacity = 0 then .error (ttlError .configuration "relay_ttl_capacity_invalid")
  else .ok { capacity := capacity }

variable (table : RelayTtlTable κ υ)

def expire (now : Int) : RelayTtlTable κ υ :=
  { table with entries := table.entries.filter fun _ entry => !decide (entry.expiresAt ≤ now) }

/-- A key without an entry: a full table first loses what has expired. -/
def insertEntry (key : κ) (value : υ) (ttl now : Int) :
    Except Error RelayTtlUpsertOutcome × RelayTtlTable κ υ :=
  let table := if table.entries.size ≥ table.capacity then table.expire now else table
  if table.entries.size ≥ table.capacity then
    (.error (ttlError .resourceExhausted "relay_ttl_capacity_exhausted"), table)
  else
    (.ok .inserted,
      { table with entries := table.entries.insert key ⟨value, now + ttl * 1000000⟩ })

def upsert (key : κ) (value : υ) (ttl now : Int) :
    Except Error RelayTtlUpsertOutcome × RelayTtlTable κ υ :=
  if ttl ≤ 0 then (.error (ttlError .configuration "relay_ttl_ttl_invalid"), table)
  else
    match table.entries.find? key with
    | none => table.insertEntry key value ttl now
    | some existing =>
      if existing.expiresAt > now then
        (.ok .updated,
          { table with entries := table.entries.insert key ⟨value, now + ttl * 1000000⟩ })
      else
        { table with entries := table.entries.erase key }.insertEntry key value ttl now

def get (key : κ) (now : Int) : Option υ :=
  match table.entries.find? key with
  | none => none
  | some entry => if entry.expiresAt ≤ now then none else some entry.value

def contains (key : κ) (now : Int) : Bool :=
  (table.get key now).isSome

def erase (table : RelayTtlTable κ υ) (key : κ) : RelayTtlTable κ υ :=
  { table with entries := table.entries.erase key }

/-- The entry leaves the table whether or not it has expired. -/
def take (key : κ) (now : Int) : Option υ × RelayTtlTable κ υ :=
  match table.entries.find? key with
  | none => (none, table)
  | some entry => (if entry.expiresAt ≤ now then none else some entry.value, table.erase key)

end RelayTtlTable

end Heyaki
