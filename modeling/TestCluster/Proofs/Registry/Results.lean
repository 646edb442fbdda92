import TestCluster.Proofs.Registry.Calls
import TestCluster.Proofs.Text.Utf8

namespace TestCluster

theorem Utf8.decodeLossy_encode (text : List Char) :
    Utf8.decodeLossy (Utf8.encode text) = text := by
  unfold Utf8.decodeLossy
  rw [Utf8.pieces_encode, List.map_map]
  exact List.map_id text

namespace Json.Value

def ofText (s : String) : Value :=
  .text (some s.toList)

theorem string?_eq_some_iff (v : Value) (s : String) : v.string? = some s ↔ v = ofText s := by
  constructor
  · intro h
    cases v with
    | text content =>
      obtain ⟨chars, rfl, rfl⟩ := Option.map_eq_some_iff.mp h
      rw [ofText, String.toList_ofList]
    | _ => cases h
  · rintro rfl
    exact congrArg some String.ofList_toList

theorem strings?_eq_some_iff (v : Value) (names : List String) :
    v.strings? = some names ↔ v = .list (names.map ofText) := by
  have hitems : ∀ items : List Value, items.mapM string? = some names ↔
      items = names.map ofText := by
    induction names with
    | nil =>
      intro items
      cases items <;> simp [Option.bind_eq_some_iff]
    | cons name names ih =>
      intro items
      cases items with
      | nil => simp
      | cons item items => simp [Option.bind_eq_some_iff, string?_eq_some_iff, ih]
  cases v with
  | list items => simpa [strings?] using hitems items
  | _ => simp [strings?]

end Json.Value

namespace Registry

open Json (Value)

namespace Response

/-- A body that can be read and is the text of a JSON value. -/
def Shows (a : Response) (v : Value) : Prop :=
  ∃ bytes, a.content? = some bytes ∧ Value.ofBytes? bytes = some v

/-- What stands in a body: characters, with a replacement for each stretch that is none. -/
inductive Reads (a : Response) : String → Prop
  | characters {bytes : Bytes} (h : a.content? = some bytes) :
      Reads a (String.ofList (Utf8.decodeLossy bytes))
  | nothing (h : a.content? = none) : Reads a ""

theorem reads_iff (a : Response) (text : String) : a.Reads text ↔ text = a.text := by
  have hempty : String.ofList (Utf8.decodeLossy []) = "" := by
    rw [Utf8.decodeLossy, Utf8.pieces]
    rfl
  unfold Response.text
  constructor
  · rintro (h | h)
    · rw [h, Option.getD_some]
    · rw [h, Option.getD_none, hempty]
  · rintro rfl
    cases h : a.content? with
    | none =>
      rw [Option.getD_none, hempty]
      exact .nothing h
    | some bytes => exact .characters h

theorem Reads.of_encode {a : Response} {text : List Char}
    (h : a.content? = some (Utf8.encode text)) : a.Reads (String.ofList text) := by
  rw [← Utf8.decodeLossy_encode text]
  exact .characters h

theorem Reads.unique {a : Response} {s t : String} (hs : a.Reads s) (ht : a.Reads t) : s = t :=
  ((a.reads_iff s).mp hs).trans ((a.reads_iff t).mp ht).symm

theorem isSuccess_iff (a : Response) : a.isSuccess = true ↔ 200 ≤ a.status ∧ a.status < 300 := by
  simp [isSuccess]

theorem Shows.unique {a : Response} {v w : Value} (hv : a.Shows v) (hw : a.Shows w) : v = w := by
  obtain ⟨bytes, hbytes, hv⟩ := hv
  obtain ⟨bytes', hbytes', hw⟩ := hw
  rw [hbytes] at hbytes'
  cases hbytes'
  rw [hv] at hw
  exact Option.some.inj hw

theorem content?_bind_eq_some_iff (a : Response) (v : Value) :
    a.content?.bind Value.ofBytes? = some v ↔ a.Shows v :=
  Option.bind_eq_some_iff

end Response

section

variable (a : Response) {α : Type} (read : Value → Option α)

theorem body_eq_ok_iff (found : α) :
    body a read = .ok found ↔ ∃ v, a.Shows v ∧ read v = some found := by
  unfold body
  simp only [← a.content?_bind_eq_some_iff, ← Option.bind_eq_some_iff]
  split <;> rename_i h <;> rw [h] <;> simp

theorem body_eq_error_iff (e : Failure) :
    body a read = .error e ↔
      e = .registry .undecodable ∧ ∀ found v, a.Shows v → read v ≠ some found := by
  have hnone : (∀ found v, a.Shows v → read v ≠ some found) ↔ ∀ found, body a read ≠ .ok found := by
    simp only [ne_eq, body_eq_ok_iff, not_exists, not_and]
  rw [hnone]
  unfold body
  split <;> simp [eq_comm]

end

inductive Finding
  | names (names : List String)
  | schema (schema : Option RegisteredSchema)
  deriving DecidableEq, Repr

/-- How a call ends that has got this final response, or none. -/
inductive Ends : Call → Except RegistryError Response → Except Failure Finding → Prop
  | registered {subject : String} {a : Response} {v : Value} {schema : RegisteredSchema}
      (status : a.status = 200) (body : a.Shows v)
      (decodes : RegisteredSchema.ofValue? v = some schema) :
      Ends (.latestSchema subject) (.ok a) (.ok (.schema (some schema)))
  | garbled {subject : String} {a : Response} (status : a.status = 200)
      (body : ∀ schema v, a.Shows v → RegisteredSchema.ofValue? v ≠ some schema) :
      Ends (.latestSchema subject) (.ok a) (.error (.registry .undecodable))
  | unknown {subject : String} {a : Response} (status : a.status = 404) :
      Ends (.latestSchema subject) (.ok a) (.ok (.schema none))
  | unexpected {subject : String} {a : Response} {text : String} (found : a.status ≠ 200)
      (unknown : a.status ≠ 404) (body : a.Reads text) :
      Ends (.latestSchema subject) (.ok a) (.error (.registryStatus a.status text))
  | listed {a : Response} {names : List String} (least : 200 ≤ a.status) (most : a.status < 300)
      (body : a.Shows (.list (names.map Value.ofText))) :
      Ends .subjects (.ok a) (.ok (.names names))
  | unlisted {a : Response} (least : 200 ≤ a.status) (most : a.status < 300)
      (body : ∀ names : List String, ¬a.Shows (.list (names.map Value.ofText))) :
      Ends .subjects (.ok a) (.error (.registry .undecodable))
  | refused {a : Response} {text : String} (status : a.status < 200 ∨ 300 ≤ a.status)
      (body : a.Reads text) :
      Ends .subjects (.ok a) (.error (.registryStatus a.status text))
  | lost (call : Call) (e : RegistryError) : Ends call (.error e) (.error (.registry e))

namespace Call

variable (call : Call) (r : Registry) (network : Network)

/-- The response that is left after all redirects, if one is. -/
def final : Except RegistryError Response :=
  (send network (call.request r)).result

def result : Call → Except Failure Finding
  | subjects => (r.subjects network).result.map .names
  | latestSchema subject => (r.latestSchema network subject).result.map .schema

end Call

section

variable {a : Response}

theorem ends_of_isSuccess (h : a.isSuccess = true) :
    Ends .subjects (.ok a) ((body a Value.strings?).map .names) := by
  obtain ⟨least, most⟩ := a.isSuccess_iff.mp h
  cases hbody : body a Value.strings? with
  | ok names =>
    obtain ⟨v, hv, hnames⟩ := (body_eq_ok_iff a _ names).mp hbody
    rw [Value.strings?_eq_some_iff] at hnames
    exact .listed least most (hnames ▸ hv)
  | error e =>
    obtain ⟨rfl, hnone⟩ := (body_eq_error_iff a _ e).mp hbody
    refine .unlisted least most fun names hv => hnone names _ hv ?_
    exact (Value.strings?_eq_some_iff _ names).mpr rfl

theorem ends_of_not_isSuccess (h : ¬a.isSuccess = true) :
    Ends .subjects (.ok a) (.error (statusFailure a)) := by
  rw [a.isSuccess_iff] at h
  exact .refused (by omega) ((a.reads_iff _).mpr rfl)

theorem ends_of_found (h : a.status = 200) (subject : String) :
    Ends (.latestSchema subject) (.ok a)
      ((some <$> body a RegisteredSchema.ofValue?).map .schema) := by
  cases hbody : body a RegisteredSchema.ofValue? with
  | ok schema =>
    obtain ⟨v, hv, hschema⟩ := (body_eq_ok_iff a _ schema).mp hbody
    exact .registered h hv hschema
  | error e =>
    obtain ⟨rfl, hnone⟩ := (body_eq_error_iff a _ e).mp hbody
    exact .garbled h hnone

end

namespace Ends

theorem unique {call : Call} {final : Except RegistryError Response} {x y : Except Failure Finding}
    (hx : Ends call final x) (hy : Ends call final y) : x = y := by
  cases hx with
  | registered status body decodes =>
    cases hy with
    | registered _ body' decodes' =>
      rw [body'.unique body, decodes] at decodes'
      rw [Option.some.inj decodes']
    | garbled _ body' => exact absurd decodes (body' _ _ body)
    | unknown status' => omega
    | unexpected found => exact absurd status found
  | garbled status body =>
    cases hy with
    | registered _ body' decodes' => exact absurd decodes' (body _ _ body')
    | garbled => rfl
    | unknown status' => omega
    | unexpected found => exact absurd status found
  | unknown status =>
    cases hy with
    | registered status' => omega
    | garbled status' => omega
    | unknown => rfl
    | unexpected _ unknown => exact absurd status unknown
  | unexpected found unknown body =>
    cases hy with
    | registered status => exact absurd status found
    | garbled status => exact absurd status found
    | unknown status => exact absurd status unknown
    | unexpected _ _ body' => rw [body.unique body']
  | listed least most body =>
    cases hy with
    | listed _ _ body' =>
      have hnames := body.unique body'
      rw [← Value.strings?_eq_some_iff, (Value.strings?_eq_some_iff _ _).mpr rfl] at hnames
      rw [Option.some.inj hnames]
    | unlisted _ _ body' => exact absurd body (body' _)
    | refused status => omega
  | unlisted least most body =>
    cases hy with
    | listed _ _ body' => exact absurd body' (body _)
    | unlisted => rfl
    | refused status => omega
  | refused status body =>
    cases hy with
    | listed => omega
    | unlisted => omega
    | refused _ body' => rw [body.unique body']
  | lost e =>
    cases hy
    rfl

end Ends

namespace Call

variable (call : Call) (r : Registry) (network : Network)

theorem ends_result : Ends call (call.final r network) (call.result r network) := by
  cases call with
  | subjects =>
    change Ends .subjects (send network (.get r.subjectsUrl r.login)).result _
    unfold result Registry.subjects
    dsimp only
    cases (send network (.get r.subjectsUrl r.login)).result with
    | error e => exact .lost .subjects e
    | ok a =>
      dsimp only
      split
      · rename_i h
        exact ends_of_isSuccess h
      · rename_i h
        exact ends_of_not_isSuccess h
  | latestSchema subject =>
    change Ends _ (send network (.get (r.latestUrl subject) r.login)).result _
    unfold result Registry.latestSchema
    dsimp only
    cases (send network (.get (r.latestUrl subject) r.login)).result with
    | error e => exact .lost _ e
    | ok a =>
      dsimp only
      split
      · rename_i h
        exact ends_of_found h subject
      · rename_i hfound
        split
        · rename_i h
          exact .unknown h
        · rename_i hunknown
          exact .unexpected hfound hunknown ((a.reads_iff _).mpr rfl)

theorem result_eq_iff (x : Except Failure Finding) :
    call.result r network = x ↔ Ends call (call.final r network) x := by
  constructor
  · rintro rfl
    exact call.ends_result r network
  · intro hx
    exact (call.ends_result r network).unique hx

theorem final_of_constant {a : Response} (hhttp : r.base.isHttp = true)
    (hinterim : a.isInterim = false) (hstays : a.isRedirect = true → a.location? = none) :
    call.final r (fun _ => some a) = .ok a := by
  have hnext : (call.request r).next? a = none := by
    unfold Request.next?
    cases hredirect : a.isRedirect with
    | false => rfl
    | true =>
      rw [hstays hredirect]
      rfl
  have hanswer : (some a).filter (!·.isInterim) = some a := by
    rw [Option.filter_some_pos]
    rw [hinterim]
    rfl
  unfold final send
  rw [if_pos ((call.isHttp_request r).trans hhttp), exchange, hanswer]
  dsimp only
  rw [hnext]

end Call

structure Turn where
  call : Call
  final : Except RegistryError Response
  result : Except Failure Finding

variable (r : Registry)

/-- Calls one after the other. What is answered may depend on all requests before. -/
def converse (world : List Request → Network) : List Request → List Call → List Turn
  | _, [] => []
  | past, call :: calls =>
    ⟨call, call.final r (world past), call.result r (world past)⟩ ::
      converse world (past ++ call.requests r (world past)) calls

theorem map_call_converse (world : List Request → Network) (past : List Request)
    (calls : List Call) : (r.converse world past calls).map Turn.call = calls := by
  induction calls generalizing past with
  | nil => rfl
  | cons call calls ih => rw [converse, List.map_cons, ih]

theorem ends_of_mem_converse {world : List Request → Network} {past : List Request}
    {calls : List Call} {turn : Turn} (h : turn ∈ r.converse world past calls) :
    Ends turn.call turn.final turn.result := by
  induction calls generalizing past with
  | nil => cases h
  | cons call calls ih =>
    obtain rfl | hmem := List.mem_cons.mp h
    · exact call.ends_result r (world past)
    · exact ih hmem

/-- The result of a call is the one end that goes with its final response, or with there being
none. A body of characters is read as it is. This is so for every response that can be the final
one, and for every call among others: where two calls ask the same and get the same response, in
different conversations perhaps, they have the same result. -/
theorem results_by_response (r : Registry) :
    (∀ (call : Call) (network : Network) (x : Except Failure Finding),
      call.result r network = x ↔ Ends call (call.final r network) x) ∧
    (∀ (a : Response) (text : List Char), a.content? = some (Utf8.encode text) →
      a.Reads (String.ofList text)) ∧
    (r.base.isHttp = true → ∀ (call : Call) (a : Response), a.isInterim = false →
      (a.isRedirect = true → a.location? = none) → call.final r (fun _ => some a) = .ok a) ∧
    ∀ (world : List Request → Network) (past : List Request) (calls : List Call),
      (r.converse world past calls).map Turn.call = calls ∧
      ∀ turn ∈ r.converse world past calls, Ends turn.call turn.final turn.result ∧
        ∀ (r' : Registry) (world' : List Request → Network) (past' : List Request)
          (calls' : List Call), ∀ turn' ∈ r'.converse world' past' calls',
          turn'.call = turn.call → turn'.final = turn.final → turn'.result = turn.result := by
  refine ⟨fun call network x => call.result_eq_iff r network x, fun a text => .of_encode,
    fun hhttp call a hinterim hstays => call.final_of_constant r hhttp hinterim hstays, ?_⟩
  intro world past calls
  refine ⟨r.map_call_converse world past calls, ?_⟩
  intro turn hturn
  have hends := r.ends_of_mem_converse hturn
  refine ⟨hends, ?_⟩
  intro r' world' past' calls' turn' hturn' hcall hfinal
  have hends' := r'.ends_of_mem_converse hturn'
  rw [hcall, hfinal] at hends'
  exact hends'.unique hends

end Registry

end TestCluster
