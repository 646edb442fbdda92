import TestCluster.Cluster.Readiness

namespace TestCluster

def Remark.event? : Remark → Option Event
  | event e => some e
  | slept _ => none

namespace Readiness

variable {w : Type}

def looks (probe : w → Probe × w) : Nat → w → List Probe × w
  | 0, world => ([], world)
  | n + 1, world =>
    ((probe world).1 :: (looks probe n (probe world).2).1, (looks probe n (probe world).2).2)

/-- Looks in the same way and writes down what is seen. -/
def watched (probe : w → Probe × w) : w × List Probe → Probe × (w × List Probe)
  | (world, seen) => ((probe world).1, ((probe world).2, seen ++ [(probe world).1]))

def reports (launcher : String) (expected attempt : Nat) (shown : List Probe) : List Event :=
  (shown.zipIdx attempt).map fun (look, i) => report launcher expected i look

/-- The level at which a look is told of that does not show enough brokers. -/
def Probe.missLevel : Probe → Level
  | .crashed _ => .warn
  | _ => .debug

/-- How many looks it takes until one shows enough brokers, if any does. -/
def needed (expected : Nat) : List Probe → Nat
  | [] => 0
  | look :: later => if Probe.isReady expected look then 1 else needed expected later + 1

variable (r : Readiness) (launcher : String) (expected : Nat) (probe : w → Probe × w)

def paced (events : List Event) : List Remark :=
  (events.map Remark.event).intersperse (.slept r.interval)

theorem length_looks (n : Nat) (world : w) : (looks probe n world).1.length = n := by
  induction n generalizing world with
  | zero => rfl
  | succ n ih => exact congrArg (· + 1) (ih _)

theorem looks_add (m n : Nat) (world : w) :
    looks probe (m + n) world =
      ((looks probe m world).1 ++ (looks probe n (looks probe m world).2).1,
        (looks probe n (looks probe m world).2).2) := by
  induction m generalizing world with
  | zero => simp [looks]
  | succ m ih =>
    rw [Nat.add_right_comm, looks, looks, ih]
    rfl

theorem take_looks {m n : Nat} (h : m ≤ n) (world : w) :
    (looks probe n world).1.take m = (looks probe m world).1 := by
  obtain ⟨k, rfl⟩ := Nat.exists_eq_add_of_le h
  rw [looks_add]
  exact List.take_left' (length_looks probe m world)

theorem looks_watched (n : Nat) (world : w) (seen : List Probe) :
    looks (watched probe) n (world, seen) =
      ((looks probe n world).1, ((looks probe n world).2, seen ++ (looks probe n world).1)) := by
  induction n generalizing world seen with
  | zero => simp [looks]
  | succ n ih => simp [looks, watched, ih]

variable {expected}

theorem needed_le (expected : Nat) (shown : List Probe) : needed expected shown ≤ shown.length := by
  induction shown with
  | nil => exact Nat.le_refl 0
  | cons look later ih =>
    rw [needed, List.length_cons]
    split <;> omega

theorem needed_eq (expected : Nat) (shown : List Probe) :
    needed expected shown = match shown.findIdx? (Probe.isReady expected) with
      | some k => k + 1
      | none => shown.length := by
  induction shown with
  | nil => rfl
  | cons look later ih =>
    rw [needed, List.findIdx?_cons, ih]
    split
    · rfl
    · cases later.findIdx? (Probe.isReady expected) <;> rfl

theorem needed_append_of_ready {shown : List Probe} (h : shown.any (Probe.isReady expected))
    (later : List Probe) : needed expected (shown ++ later) = needed expected shown := by
  induction shown with
  | nil => contradiction
  | cons look rest ih =>
    rw [List.cons_append, needed, needed]
    split
    · rfl
    · rename_i hlook
      have hrest : rest.any (Probe.isReady expected) := by simpa [hlook] using h
      rw [ih hrest]

theorem needed_eq_zero_iff (shown : List Probe) : needed expected shown = 0 ↔ shown = [] := by
  cases shown with
  | nil => exact iff_of_true rfl rfl
  | cons look later =>
    rw [needed]
    split <;> simp

theorem any_isReady_iff (shown : List Probe) :
    shown.any (Probe.isReady expected) = true ↔ ∃ count, expected ≤ count ∧ .brokers count ∈ shown := by
  rw [List.any_eq_true]
  constructor
  · rintro ⟨look, hmem, hready⟩
    cases look with
    | brokers count => exact ⟨count, of_decide_eq_true hready, hmem⟩
    | failed error | crashed error => exact nomatch hready
  · rintro ⟨count, hle, hmem⟩
    exact ⟨_, hmem, decide_eq_true hle⟩

theorem level_report (attempt : Nat) (look : Probe) :
    (report launcher expected attempt look).level =
      if Probe.isReady expected look then .info else Probe.missLevel look := by
  cases look with
  | brokers count =>
    by_cases h : expected ≤ count <;>
      simp [report, Probe.isReady, Probe.missLevel, h, Event.level]
  | failed error | crashed error => rfl

theorem lookup_attempt_fields (attempt : Nat) (look : Probe) :
    (report launcher expected attempt look).fields.lookup "attempt" = some (.number attempt) := by
  cases look with
  | brokers count =>
    by_cases h : expected ≤ count <;> simp [report, h, Event.fields, List.lookup_cons]
  | failed error | crashed error => rfl

variable (expected)

theorem reports_cons (attempt : Nat) (look : Probe) (later : List Probe) :
    reports launcher expected attempt (look :: later) =
      report launcher expected attempt look :: reports launcher expected (attempt + 1) later := rfl

theorem length_reports (attempt : Nat) (shown : List Probe) :
    (reports launcher expected attempt shown).length = shown.length := by
  rw [reports, List.length_map, List.length_zipIdx]

theorem map_level_reports (attempt : Nat) (shown : List Probe) :
    (reports launcher expected attempt shown).map Event.level =
      shown.map fun look => if Probe.isReady expected look then .info else Probe.missLevel look := by
  induction shown generalizing attempt with
  | nil => rfl
  | cons look later ih => rw [reports_cons, List.map_cons, List.map_cons, level_report, ih]

theorem map_attempt_reports (attempt : Nat) (shown : List Probe) :
    (reports launcher expected attempt shown).map (·.fields.lookup "attempt") =
      (List.range' attempt shown.length).map fun i => some (.number i) := by
  induction shown generalizing attempt with
  | nil => rfl
  | cons look later ih =>
    rw [reports_cons, List.map_cons, lookup_attempt_fields, ih]
    rfl

theorem levels_needed (shown : List Probe) :
    (shown.take (needed expected shown)).map
        (fun look => if Probe.isReady expected look then .info else Probe.missLevel look) =
      match shown.findIdx? (Probe.isReady expected) with
      | some k => (shown.take k).map Probe.missLevel ++ [.info]
      | none => shown.map Probe.missLevel := by
  induction shown with
  | nil => rfl
  | cons look later ih =>
    rw [needed, List.findIdx?_cons]
    by_cases hready : Probe.isReady expected look = true
    · simp [hready]
    · rw [if_neg hready, if_neg hready, List.take_succ_cons, List.map_cons, if_neg hready, ih]
      cases later.findIdx? (Probe.isReady expected) <;> rfl

theorem paced_cons (e : Event) (events : List Event) :
    r.paced (e :: events) =
      .event e :: (if events.length = 0 then [] else [.slept r.interval]) ++ r.paced events := by
  cases events <;> rfl

theorem filterMap_event?_paced (events : List Event) :
    (r.paced events).filterMap Remark.event? = events := by
  induction events with
  | nil => rfl
  | cons e events ih =>
    rw [paced_cons, List.filterMap_append, ih]
    split <;> rfl

theorem needed_looks_eq_zero_iff (n : Nat) (world : w) :
    needed expected (looks probe n world).1 = 0 ↔ n = 0 := by
  rw [needed_eq_zero_iff, ← List.length_eq_zero_iff, length_looks]

/-- A wait goes as far as it needs to, by induction on the attempts that are left. -/
theorem waitFrom_eq (attempt left : Nat) (world : w) :
    r.waitFrom launcher expected probe attempt left world =
      let shown := (looks probe left world).1
      let seen := looks probe (needed expected shown) world
      ⟨if shown.any (Probe.isReady expected) then .ok ()
          else .error (.notOperational launcher r.attempts expected),
        r.paced (reports launcher expected attempt seen.1), seen.2⟩ := by
  induction left generalizing attempt world with
  | zero => rfl
  | succ left ih =>
    rw [waitFrom, ih]
    dsimp only [looks]
    by_cases hready : Probe.isReady expected (probe world).1 = true
    · simp [needed, hready, looks, reports, paced]
    · simp [needed, hready, looks, reports_cons, paced_cons, length_reports, length_looks,
        needed_looks_eq_zero_iff]

theorem wait_eq (world : w) :
    r.wait launcher expected probe world =
      let shown := (looks probe r.attempts.toNat world).1
      let seen := looks probe (needed expected shown) world
      ⟨if shown.any (Probe.isReady expected) then .ok ()
          else .error (.notOperational launcher r.attempts expected),
        r.paced (reports launcher expected 1 seen.1), seen.2⟩ :=
  waitFrom_eq ..

variable {launcher expected probe}

theorem wait_eq_ok_iff {world : w} :
    (r.wait launcher expected probe world).result = .ok () ↔
      (looks probe r.attempts.toNat world).1.any (Probe.isReady expected) = true := by
  rw [wait_eq]
  dsimp only
  split <;> simp [*]

theorem wait_raised {world : w} (h : (r.wait launcher expected probe world).result = .ok ())
    {attempts : UInt32} (hle : r.attempts ≤ attempts) :
    ({ r with attempts } : Readiness).wait launcher expected probe world =
      r.wait launcher expected probe world := by
  have hready := r.wait_eq_ok_iff.mp h
  obtain ⟨more, hmore⟩ := Nat.exists_eq_add_of_le (UInt32.le_iff_toNat_le.mp hle)
  have hshown := congrArg Prod.fst (looks_add probe r.attempts.toNat more world)
  rw [wait_eq, wait_eq]
  dsimp only
  rw [hmore, hshown, needed_append_of_ready hready, List.any_append, hready]
  rfl

variable (launcher expected probe)

theorem wait_ends (world : w) :
    let shown := (looks probe r.attempts.toNat world).1
    let result := (r.wait launcher expected probe world).result
    let events := reports launcher expected 1 (shown.take (needed expected shown))
    match shown.findIdx? (Probe.isReady expected) with
    | some k => needed expected shown = k + 1 ∧ result = .ok () ∧
      events.map Event.level = (shown.take k).map Probe.missLevel ++ [.info]
    | none => needed expected shown = r.attempts.toNat ∧
      result = .error (.notOperational launcher r.attempts expected) ∧
      events.map Event.level = shown.map Probe.missLevel := by
  intro shown result events
  have hneeded := needed_eq expected shown
  have hlevels : events.map Event.level = _ :=
    (map_level_reports launcher expected 1 _).trans (levels_needed expected shown)
  have hresult : result = if shown.any (Probe.isReady expected) then _ else _ :=
    congrArg Reaction.result (r.wait_eq launcher expected probe world)
  rw [← List.findIdx?_isSome] at hresult
  cases hfind : shown.findIdx? (Probe.isReady expected) with
  | some k =>
    rw [hfind] at hneeded hlevels hresult
    exact ⟨hneeded, hresult, hlevels⟩
  | none =>
    rw [hfind] at hneeded hlevels hresult
    exact ⟨hneeded.trans (length_looks ..), hresult, hlevels⟩

theorem wait_watched (world : w) :
    let outcome := r.wait launcher expected probe world
    let shown := (looks probe r.attempts.toNat world).1
    r.wait launcher expected (watched probe) (world, []) =
      ⟨outcome.result, outcome.remarks, (outcome.world, shown.take (needed expected shown))⟩ := by
  have hshown : (looks (watched probe) r.attempts.toNat (world, [])).1 =
      (looks probe r.attempts.toNat world).1 := congrArg Prod.fst (looks_watched probe _ world [])
  have hle := needed_le expected (looks probe r.attempts.toNat world).1
  rw [length_looks] at hle
  rw [wait_eq, wait_eq]
  dsimp only
  rw [hshown, looks_watched, take_looks probe hle]
  rfl

/-- A wait is over with the first look that shows enough brokers, and fails when no attempt does. It
sleeps between two looks, tells of every look, and more attempts change nothing of a good end. -/
theorem wait_course (world : w) :
    (∀ (p : Platform w) (c : Connection), p.waitForBrokers launcher c expected r =
      r.wait launcher expected (p.probe c r.metadataTimeout)) ∧
    let shown := (looks probe r.attempts.toNat world).1
    let outcome := r.wait launcher expected probe world
    let recorded := r.wait launcher expected (watched probe) (world, [])
    let events := outcome.remarks.filterMap Remark.event?
    (outcome.result = .ok () ↔ ∃ count, expected ≤ count ∧ .brokers count ∈ shown) ∧
    (∃ n,
      recorded.world = (outcome.world, shown.take n) ∧
      outcome.world = (looks probe n world).2 ∧
      outcome.remarks = (events.map Remark.event).intersperse (.slept r.interval) ∧
      events = reports launcher expected 1 (shown.take n) ∧
      events.map (·.fields.lookup "attempt") =
        (List.range' 1 n).map (fun i => some (.number i)) ∧
      match shown.findIdx? (Probe.isReady expected) with
      | some k => n = k + 1 ∧ outcome.result = .ok () ∧
        events.map Event.level = (shown.take k).map Probe.missLevel ++ [.info]
      | none => n = r.attempts.toNat ∧
        outcome.result = .error (.notOperational launcher r.attempts expected) ∧
        events.map Event.level = shown.map Probe.missLevel) ∧
    (outcome.result = .ok () → ∀ attempts, r.attempts ≤ attempts →
      let raised : Readiness := { r with attempts }
      raised.wait launcher expected probe world = outcome ∧
      raised.wait launcher expected (watched probe) (world, []) = recorded) := by
  refine ⟨fun _ _ => rfl, ?_⟩
  intro shown outcome recorded events
  have hlength : shown.length = r.attempts.toNat := length_looks ..
  have hle : needed expected shown ≤ r.attempts.toNat := hlength ▸ needed_le expected shown
  have hseen : shown.take (needed expected shown) =
      (looks probe (needed expected shown) world).1 := take_looks probe hle world
  have houtcome : outcome = ⟨_, _, _⟩ := r.wait_eq launcher expected probe world
  have hevents : events = reports launcher expected 1 (shown.take (needed expected shown)) := by
    have h := r.filterMap_event?_paced (reports launcher expected 1
      (looks probe (needed expected shown) world).1)
    rw [hseen, ← h]
    exact congrArg (fun o => o.remarks.filterMap Remark.event?) houtcome
  have hrecorded : recorded = ⟨_, _, _⟩ := r.wait_watched launcher expected probe world
  refine ⟨?_, ⟨needed expected shown, ?_, ?_, ?_, hevents, ?_, ?_⟩, ?_⟩
  · rw [← any_isReady_iff]
    exact r.wait_eq_ok_iff
  · rw [hrecorded]
  · rw [houtcome]
  · rw [hevents, hseen, houtcome]
    rfl
  · rw [hevents, map_attempt_reports, List.length_take_of_le (needed_le expected shown)]
  · rw [hevents]
    exact r.wait_ends launcher expected probe world
  · intro hok attempts hattempts
    refine ⟨r.wait_raised hok hattempts, ?_⟩
    apply r.wait_raised _ hattempts
    change recorded.result = .ok ()
    rw [hrecorded]
    exact hok

end Readiness

end TestCluster
