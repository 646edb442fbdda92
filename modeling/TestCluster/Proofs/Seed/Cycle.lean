import Mathlib.Data.List.Zip
import Mathlib.Data.Stream.Init
import TestCluster.Seed

namespace Stream'

theorem get_cycle {α : Type} (l : List α) (h : l ≠ []) (i : Nat) :
    (cycle l h).get i = l.get ⟨i % l.length, Nat.mod_lt i (List.length_pos_iff.mpr h)⟩ := by
  have hpos := List.length_pos_iff.mpr h
  induction i using Nat.strong_induction_on with
  | _ i ih =>
    rw [cycle_eq l h]
    obtain hlt | hle := Nat.lt_or_ge i l.length
    · rw [get_append_left i l _ hlt]
      simp only [Nat.mod_eq_of_lt hlt, List.get_eq_getElem]
    · obtain ⟨j, rfl⟩ := Nat.exists_eq_add_of_le hle
      rw [get_append_right, ih j (by omega)]
      simp only [Nat.add_mod_left]

end Stream'

namespace TestCluster.Seed

inductive Source
  | lists (values : List Bytes) (keys : List (Option Bytes)) (headers : Option (List HeaderSet))
  | unkeyed (values : List Bytes)
  | numbered (count : Nat)
  deriving DecidableEq, Repr

namespace Source

def seed : Source → Except ConfigError Seed
  | lists values keys headers => ofLists values keys headers
  | unkeyed values => .ok (Seed.unkeyed values)
  | numbered count => .ok (Seed.numbered count)

def values : Source → List Bytes
  | lists values _ _ | unkeyed values => values
  | numbered count => (List.range count).map numberedValue

def keys : Source → List (Option Bytes)
  | lists _ keys _ => keys
  | unkeyed _ | numbered _ => [none]

def headers : Source → Option (List HeaderSet)
  | lists _ _ headers => headers
  | unkeyed _ | numbered _ => none

end Source

inductive Change
  | replaceKeys (keys : List (Option Bytes))
  | attachHeaders (sets : List HeaderSet)
  deriving DecidableEq, Repr

namespace Change

def apply (s : Seed) : Change → Except ConfigError Seed
  | replaceKeys keys => s.replaceKeys keys
  | attachHeaders sets => .ok (s.attachHeaders sets)

def keys? : Change → Option (List (Option Bytes))
  | replaceKeys keys => some keys
  | attachHeaders _ => none

def headers? : Change → Option (List HeaderSet)
  | replaceKeys _ => none
  | attachHeaders sets => some sets

end Change

/-- A seed with changes made to it one after the other, up to the first that fails. -/
def assemble (source : Source) (changes : List Change) : Except ConfigError Seed := do
  changes.foldlM Change.apply (← source.seed)

/-- The keys that are given last, `first` being those before all changes. -/
def lastKeys (first : List (Option Bytes)) (changes : List Change) : List (Option Bytes) :=
  (changes.filterMap Change.keys?).getLast?.getD first

def lastHeaders (first : Option (List HeaderSet)) (changes : List Change) :
    Option (List HeaderSet) :=
  (changes.filterMap Change.headers?).getLast?.or first

section

variable {s t : Seed} {change : Change} {changes : List Change}

theorem lastKeys_cons (first : List (Option Bytes)) :
    lastKeys first (change :: changes) = lastKeys (change.keys?.getD first) changes := by
  cases change with
  | replaceKeys keys =>
    have hcons : (Change.replaceKeys keys :: changes).filterMap Change.keys? =
        keys :: changes.filterMap Change.keys? := rfl
    unfold lastKeys
    rw [hcons, List.getLast?_cons]
    cases (changes.filterMap Change.keys?).getLast? <;> rfl
  | attachHeaders sets => rfl

theorem lastHeaders_cons (first : Option (List HeaderSet)) :
    lastHeaders first (change :: changes) = lastHeaders (change.headers?.or first) changes := by
  cases change with
  | replaceKeys keys => rfl
  | attachHeaders sets =>
    have hcons : (Change.attachHeaders sets :: changes).filterMap Change.headers? =
        sets :: changes.filterMap Change.headers? := rfl
    unfold lastHeaders
    rw [hcons, List.getLast?_cons]
    cases (changes.filterMap Change.headers?).getLast? <;> rfl

theorem apply_eq (change : Change) (s : Seed) :
    (change = .replaceKeys [] ∧ change.apply s = .error .noKeys) ∨
      change ≠ .replaceKeys [] ∧ ∃ t, change.apply s = .ok t ∧ t.values = s.values ∧
        t.keys = change.keys?.getD s.keys ∧ t.headers = change.headers?.or s.headers := by
  cases change with
  | replaceKeys keys =>
    by_cases hkeys : keys = []
    · subst hkeys
      exact .inl ⟨rfl, rfl⟩
    · refine .inr ⟨fun heq => hkeys (Change.replaceKeys.inj heq), _, dif_pos hkeys, rfl, rfl, rfl⟩
  | attachHeaders sets => exact .inr ⟨nofun, _, rfl, rfl, rfl, rfl⟩

theorem foldlM_apply (changes : List Change) (s : Seed) :
    (.replaceKeys [] ∈ changes ∧ changes.foldlM Change.apply s = .error .noKeys) ∨
      .replaceKeys [] ∉ changes ∧ ∃ t, changes.foldlM Change.apply s = .ok t ∧
        t.values = s.values ∧ t.keys = lastKeys s.keys changes ∧
        t.headers = lastHeaders s.headers changes := by
  induction changes generalizing s with
  | nil => exact .inr ⟨List.not_mem_nil, s, rfl, rfl, rfl, rfl⟩
  | cons change changes ih =>
    rw [List.foldlM_cons, lastKeys_cons, lastHeaders_cons]
    obtain ⟨rfl, happly⟩ | ⟨hchange, t, happly, hvalues, hkeys, hheaders⟩ := apply_eq change s
    · rw [happly]
      exact .inl ⟨List.mem_cons_self, rfl⟩
    · have hmem : .replaceKeys [] ∈ change :: changes ↔ .replaceKeys [] ∈ changes := by
        rw [List.mem_cons, or_iff_right hchange.symm]
      rw [happly, ← hvalues, ← hkeys, ← hheaders, hmem]
      exact ih t

theorem seed_eq (source : Source) :
    (source.keys = [] ∧ source.seed = .error .noKeys) ∨
      source.keys ≠ [] ∧ ∃ s, source.seed = .ok s ∧ s.values = source.values ∧
        s.keys = source.keys ∧ s.headers = source.headers := by
  cases source with
  | lists values keys headers =>
    by_cases hkeys : keys = []
    · subst hkeys
      exact .inl ⟨rfl, rfl⟩
    · exact .inr ⟨hkeys, _, dif_pos hkeys, rfl, rfl, rfl⟩
  | unkeyed values => exact .inr ⟨List.cons_ne_nil _ _, _, rfl, rfl, rfl, rfl⟩
  | numbered count => exact .inr ⟨List.cons_ne_nil _ _, _, rfl, rfl, rfl, rfl⟩

theorem assemble_eq (source : Source) (changes : List Change) :
    ((source.keys = [] ∨ .replaceKeys [] ∈ changes) ∧
        assemble source changes = .error .noKeys) ∨
      ¬(source.keys = [] ∨ .replaceKeys [] ∈ changes) ∧ ∃ s, assemble source changes = .ok s ∧
        s.values = source.values ∧ s.keys = lastKeys source.keys changes ∧
        s.headers = lastHeaders source.headers changes := by
  unfold assemble
  obtain ⟨hkeys, hseed⟩ | ⟨hkeys, s, hseed, hvalues, hkept, hheaders⟩ := seed_eq source
  · rw [hseed]
    exact .inl ⟨.inl hkeys, rfl⟩
  · have hfails : source.keys = [] ∨ .replaceKeys [] ∈ changes ↔ .replaceKeys [] ∈ changes :=
      or_iff_right hkeys
    rw [hseed, hfails, ← hvalues, ← hkept, ← hheaders]
    exact foldlM_apply changes s

end

variable (s : Seed)

def keyCycle : Stream' (Option Bytes) :=
  Stream'.cycle s.keys s.keys_ne_nil

/-- The header sets with a gap after the last of them, over and over. -/
def headerCycle : Stream' (Option HeaderSet) :=
  match s.headers with
  | none => Stream'.const none
  | some sets => Stream'.cycle (sets.map some ++ [none]) (by simp)

theorem get_keyCycle (i : Nat) : s.keyCycle.get i = s.keyAt i :=
  Stream'.get_cycle s.keys s.keys_ne_nil i

theorem get_headerCycle (i : Nat) : s.headerCycle.get i = s.headersAt i := by
  unfold headerCycle headersAt
  cases s.headers with
  | none => rfl
  | some sets =>
    have hlen : (sets.map some ++ [none]).length = sets.length + 1 := by simp
    have hlt : i % (sets.length + 1) < sets.length + 1 := Nat.mod_lt i (Nat.succ_pos _)
    dsimp only
    rw [Option.bind_some, Stream'.get_cycle, List.get_eq_getElem, List.getElem_append]
    simp only [hlen, List.length_map, List.getElem_map, List.getElem_singleton]
    split
    · rename_i hin
      rw [List.getElem?_eq_getElem hin]
    · rename_i hout
      rw [List.getElem?_eq_none (by omega)]

theorem map_zipIdx_eq_zipWith3 (keys : Stream' (Option Bytes))
    (headers : Stream' (Option HeaderSet)) (values : List Bytes) (k : Nat) :
    ((values.zipIdx k).map fun (value, i) => Record.mk value (keys.get i) (headers.get i)) =
      List.zipWith3 Record.mk values ((keys.drop k).take values.length)
        ((headers.drop k).take values.length) := by
  induction values generalizing k with
  | nil => rfl
  | cons value values ih =>
    have htail {α : Type} (a : Stream' α) : (a.drop k).tail = a.drop (k + 1) := a.tail_drop'
    have hhead {α : Type} (a : Stream' α) : (a.drop k).head = a.get k := a.head_drop k
    rw [List.zipIdx_cons, List.map_cons, ih, List.length_cons, Stream'.take_succ, Stream'.take_succ,
      List.zipWith3, htail, htail, hhead, hhead]

theorem records_eq_zipWith3 :
    s.records = List.zipWith3 Record.mk s.values (s.keyCycle.take s.size)
      (s.headerCycle.take s.size) := by
  have hrecords := map_zipIdx_eq_zipWith3 s.keyCycle s.headerCycle s.values 0
  simp only [get_keyCycle, get_headerCycle] at hrecords
  exact hrecords

theorem headers_of_mem_records (h : s.headers = none ∨ s.headers = some []) {x : Record}
    (hx : x ∈ s.records) : x.headers = none := by
  have hnone : ∀ i, s.headersAt i = none := by
    intro i
    unfold headersAt
    obtain h | h := h <;> rw [h] <;> rfl
  obtain ⟨⟨value, i⟩, -, rfl⟩ := List.mem_map.mp hx
  exact hnone i

theorem record?_eq_none_iff (i : Nat) : s.record? i = none ↔ s.size ≤ i := by
  simp [record?, size]

/-- A seed comes about unless keys are given of which there are none. It has the values that it
began with, and the keys and header sets that were given last. Its records take the keys in their
order over and over, and the header sets with a gap after the last of them. -/
theorem assemble_cycles (source : Source) (changes : List Change) :
    (∀ e, assemble source changes = .error e ↔
      e = .noKeys ∧ (source.keys = [] ∨ .replaceKeys [] ∈ changes)) ∧
    ∀ s, assemble source changes = .ok s →
      s.values = source.values ∧ s.keys = lastKeys source.keys changes ∧
      s.headers = lastHeaders source.headers changes ∧ s.keys ≠ [] ∧
      (∀ i, s.keySlot i < s.keys.length) ∧
      (∀ i, s.record? i = none ↔ source.values.length ≤ i) ∧
      (∀ i, s.record? i = s.records[i]?) ∧
      s.records = List.zipWith3 Record.mk source.values (s.keyCycle.take source.values.length)
        (s.headerCycle.take source.values.length) ∧
      (s.headers = none ∨ s.headers = some [] → ∀ x ∈ s.records, x.headers = none) := by
  obtain ⟨hfails, hassemble⟩ | ⟨hfails, s, hassemble, hvalues, hkeys, hheaders⟩ :=
    assemble_eq source changes
  · rw [hassemble]
    refine ⟨fun e => ⟨?_, ?_⟩, fun s => nofun⟩
    · rintro ⟨⟩
      exact ⟨rfl, hfails⟩
    · rintro ⟨rfl, -⟩
      rfl
  · rw [hassemble]
    refine ⟨fun e => ⟨nofun, fun h => absurd h.2 hfails⟩, ?_⟩
    rintro _ ⟨⟩
    have hsize : s.size = source.values.length := congrArg List.length hvalues
    have hrecords := s.records_eq_zipWith3
    rw [hsize, hvalues] at hrecords
    refine ⟨hvalues, hkeys, hheaders, s.keys_ne_nil, s.keySlot_lt, ?_,
      fun i => (s.getElem?_records i).symm, hrecords, fun h x => s.headers_of_mem_records h⟩
    intro i
    rw [record?_eq_none_iff, hsize]

example : (assemble (.unkeyed [[1], [2], [3]]) [.attachHeaders [[("h", [7])]]]).map
    (·.records.map (·.headers)) = .ok [some [("h", [7])], none, some [("h", [7])]] := rfl

end TestCluster.Seed
