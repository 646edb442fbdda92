import TestCluster.Config.Error
import TestCluster.Text.Utf8

namespace TestCluster

/-- Message headers in order; a name may occur more than once. -/
abbrev HeaderSet := List (String × Bytes)

structure Record where
  value : Bytes
  key : Option Bytes
  headers : Option HeaderSet
  deriving DecidableEq, Repr

/-- The values to send and the keys and headers that cycle beside them. -/
structure Seed where
  values : List Bytes
  keys : List (Option Bytes)
  headers : Option (List HeaderSet)
  keys_ne_nil : keys ≠ []

namespace Seed

variable (s : Seed)

/-- A source without any key is refused. -/
def ofLists (values : List Bytes) (keys : List (Option Bytes))
    (headers : Option (List HeaderSet)) : Except ConfigError Seed :=
  if h : keys ≠ [] then .ok ⟨values, keys, headers, h⟩ else .error .noKeys

def unkeyed (values : List Bytes) : Seed :=
  ⟨values, [none], none, by simp⟩

def numberedValue (i : Nat) : Bytes :=
  Utf8.encode (("test-data" ++ toString i).toList)

def numbered (count : Nat) : Seed :=
  unkeyed ((List.range count).map numberedValue)

def replaceKeys (keys : List (Option Bytes)) : Except ConfigError Seed :=
  if h : keys ≠ [] then .ok { s with keys := keys, keys_ne_nil := h } else .error .noKeys

def attachHeaders (headers : List HeaderSet) : Seed :=
  { s with headers := some headers }

def size : Nat :=
  s.values.length

def keySlot (i : Nat) : Nat :=
  i % s.keys.length

theorem keySlot_lt (i : Nat) : s.keySlot i < s.keys.length :=
  Nat.mod_lt _ (List.length_pos_iff.2 s.keys_ne_nil)

/-- Header sets cycle with one slot more than there are sets; the last slot is empty. -/
def headerSlot? (i : Nat) : Option Nat :=
  s.headers.map fun sets => i % (sets.length + 1)

def keyAt (i : Nat) : Option Bytes :=
  s.keys.get ⟨s.keySlot i, s.keySlot_lt i⟩

def headersAt (i : Nat) : Option HeaderSet :=
  s.headers.bind fun sets => sets[i % (sets.length + 1)]?

def record? (i : Nat) : Option Record :=
  s.values[i]?.map fun value => ⟨value, s.keyAt i, s.headersAt i⟩

def records : List Record :=
  s.values.zipIdx.map fun (value, i) => ⟨value, s.keyAt i, s.headersAt i⟩

theorem length_records : s.records.length = s.size := by
  simp [records, size]

theorem getElem?_records (i : Nat) : s.records[i]? = s.record? i := by
  simp [records, record?, Function.comp_def]

end Seed

end TestCluster
