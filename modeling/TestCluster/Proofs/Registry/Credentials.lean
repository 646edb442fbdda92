import Mathlib.Data.List.TakeDrop
import Mathlib.Data.List.TakeWhile
import TestCluster.Proofs.Registry.Calls
import TestCluster.Proofs.Text.Base64

namespace TestCluster

namespace Registry

namespace Login

def text (l : Login) : List Char :=
  l.1 ++ ':' :: l.2

/-- A header value of basic authentication that carries a text. -/
def Carries (value : String) (text : List Char) : Prop :=
  ∃ code, value = "Basic " ++ String.ofList code ∧
    (Text.Base64.decode? code).bind Utf8.decode? = some text

theorem header_eq (l : Login) :
    l.header = "Basic " ++ String.ofList (Text.Base64.encode (Utf8.encode l.text)) := by
  unfold header
  rw [String.ofList_append, String.ofList_toList]
  rfl

theorem carries_header (l : Login) : Carries l.header l.text := by
  refine ⟨Text.Base64.encode (Utf8.encode l.text), header_eq l, ?_⟩
  rw [Text.Base64.decode?_encode, Option.bind_some, Utf8.decode?_encode]

theorem Carries.unique {value : String} {s t : List Char} (hs : Carries value s)
    (ht : Carries value t) : s = t := by
  obtain ⟨code, rfl, hcode⟩ := hs
  obtain ⟨code', hvalue, hcode'⟩ := ht
  have hsame : code = code' :=
    String.ofList_injective ((String.append_right_inj "Basic ").mp hvalue)
  rw [← hsame, hcode] at hcode'
  exact Option.some.inj hcode'

theorem header_eq_iff (l l' : Login) : l.header = l'.header ↔ l.text = l'.text := by
  constructor
  · intro h
    exact (carries_header l).unique (h ▸ carries_header l')
  · intro h
    rw [header_eq, header_eq, h]

def withColon (info : List Char) : List Char :=
  if ':' ∈ info then info else info ++ [':']

variable (info : String)

theorem ofInfo_eq :
    ofInfo info = (info.toList.takeWhile (· ≠ ':'), (info.toList.dropWhile (· ≠ ':')).tail) := by
  unfold ofInfo
  rw [List.span_eq_takeWhile_dropWhile]

theorem ne_colon_of_not_mem {text : List Char} (h : ':' ∉ text) :
    ∀ c ∈ text, decide (c ≠ ':') = true := by
  intro c hc
  refine decide_eq_true ?_
  rintro rfl
  exact h hc

theorem ofInfo_of_user {user : List Char} (h : ':' ∉ user) (password : List Char) :
    ofInfo (String.ofList (user ++ ':' :: password)) = (user, password) := by
  have hall := ne_colon_of_not_mem h
  rw [ofInfo_eq, String.toList_ofList, List.takeWhile_append_of_pos hall,
    List.dropWhile_append_of_pos hall]
  simp

theorem ofInfo_of_not_mem (h : ':' ∉ info.toList) : ofInfo info = (info.toList, []) := by
  have hall := ne_colon_of_not_mem h
  rw [ofInfo_eq, List.takeWhile_eq_self_iff.mpr hall, List.dropWhile_eq_nil_iff.mpr hall]
  rfl

theorem text_ofInfo : (ofInfo info).text = withColon info.toList := by
  unfold withColon
  split
  · rename_i hcolon
    obtain ⟨user, password, hinfo, huser⟩ := List.eq_append_cons_of_mem hcolon
    have hsplit := ofInfo_of_user huser password
    rw [← hinfo, String.ofList_toList] at hsplit
    rw [hsplit, hinfo]
    rfl
  · rename_i hcolon
    rw [ofInfo_of_not_mem info hcolon]
    rfl

theorem withColon_inj_iff (info info' : List Char) :
    withColon info = withColon info' ↔
      info = info' ∨ (':' ∉ info ∧ info' = info ++ [':']) ∨
        (':' ∉ info' ∧ info = info' ++ [':']) := by
  unfold withColon
  by_cases h : ':' ∈ info <;> by_cases h' : ':' ∈ info'
  · simp [h, h']
  · have hne : info ≠ info' := by
      rintro rfl
      exact h' h
    simp [h, h', hne]
  · have hne : info ≠ info' := by
      rintro rfl
      exact h h'
    simp [h, h', hne, eq_comm]
  · have hne : info' ≠ info ++ [':'] := by
      rintro rfl
      simp at h'
    have hne' : info ≠ info' ++ [':'] := by
      rintro rfl
      simp at h
    simp [h, h', hne, hne']

theorem carries_ofInfo : Carries (ofInfo info).header (withColon info.toList) := by
  rw [← text_ofInfo]
  exact carries_header _

theorem header_ofInfo_eq_iff (info info' : String) :
    (ofInfo info).header = (ofInfo info').header ↔
      info = info' ∨ (':' ∉ info.toList ∧ info' = info ++ ":") ∨
        (':' ∉ info'.toList ∧ info = info' ++ ":") := by
  rw [header_eq_iff, text_ofInfo, text_ofInfo, withColon_inj_iff]
  simp only [← String.toList_inj, String.toList_append]
  rfl

end Login

/-- The values that a registry sends: one for a login in its URL, and one for a configured login. -/
theorem Made.authorization {p : Properties} {r : Registry} (h : Made p r) {call : Call}
    {network : Network} {q : Request} (hq : (call.requests r network).head? = some q) :
    q.authorization = (urlLogin? r.base).toList.map Login.header ++
      (p.get? loginProperty).toList.map fun info => (Login.ofInfo info).header := by
  rw [call.head?_requests] at hq
  split at hq
  · cases hq
    rw [call.request_authorization, h.login]
    cases p.get? loginProperty <;> simp
  · cases hq

theorem accept_of_head? {r : Registry} {call : Call} {network : Network} {q : Request}
    (hq : (call.requests r network).head? = some q) : q.accept = [accepted] := by
  rw [call.head?_requests] at hq
  split at hq <;> cases hq
  rfl

theorem isSome_head? {r : Registry} (h : r.base.isHttp = true) (call : Call) (network : Network) :
    (call.requests r network).head?.isSome = true := by
  rw [call.head?_requests, if_pos h]
  rfl

/-- With no user in the URL, the first request of every call accepts the registry's media type and
nothing else, and carries the configured credentials, if there are any. Different credentials are
sent differently, except that a colon at the end counts for nothing where there is no other. -/
theorem login_survives (p : Properties) (r : Registry) (h : ofProperties p = .ok r)
    (huser : r.base.userInfo = []) :
    (∀ (call : Call) (network : Network),
      (r.base.isHttp = true → (call.requests r network).head?.isSome = true) ∧
      ∀ q, (call.requests r network).head? = some q →
        q.accept = ["application/vnd.schemaregistry.v1+json"] ∧
        match p.get? loginProperty with
        | none => q.authorization = []
        | some info => q.authorization = [(Login.ofInfo info).header]) ∧
    (∀ info, Login.Carries (Login.ofInfo info).header (Login.withColon info.toList)) ∧
    (∀ user password : List Char, ':' ∉ user →
      Login.ofInfo (String.ofList (user ++ ':' :: password)) = (user, password)) ∧
    ∀ info info' : String, (Login.ofInfo info).header = (Login.ofInfo info').header ↔
      info = info' ∨ (':' ∉ info.toList ∧ info' = info ++ ":") ∨
        (':' ∉ info'.toList ∧ info = info' ++ ":") := by
  refine ⟨fun call network => ⟨fun hhttp => isSome_head? hhttp call network, fun q hq => ?_⟩,
    Login.carries_ofInfo, fun user password hcolon => Login.ofInfo_of_user hcolon password,
    Login.header_ofInfo_eq_iff⟩
  have hvalues := (made_of_ofProperties h).authorization hq
  rw [urlLogin?_of_userInfo huser] at hvalues
  refine ⟨accept_of_head? hq, ?_⟩
  cases hinfo : p.get? loginProperty with
  | none =>
    rw [hinfo] at hvalues
    exact hvalues
  | some info =>
    rw [hinfo] at hvalues
    exact hvalues

def guarded : Registry where
  url := "http://[::1]:8081"
  base := ⟨"http".toList, [], none, some (.ipv6 [0, 0, 0, 0, 0, 0, 0, 1]), some 8081, [[]], none,
    none⟩
  login := some ("é".toList, "p:w".toList)
  properties := .ofList [(loginProperty, "é:p:w"), (urlProperty, "http://[::1]:8081/")]

theorem login_of_guarded :
    ofProperties (.ofList [(loginProperty, "é:p:w"), (urlProperty, "http://[::1]:8081/")]) =
        .ok guarded ∧
      guarded.base.userInfo = [] ∧
      (Call.subjects.requests guarded fun _ => none).head?.map Request.authorization =
        some ["Basic w6k6cDp3"] ∧
      Login.Carries (Login.ofInfo "é:p:w").header "é:p:w".toList ∧
      (Login.ofInfo "é:p:w").header ≠ (Login.ofInfo "é:p:w:").header := by
  have hmade : ofProperties (.ofList [(loginProperty, "é:p:w"),
      (urlProperty, "http://[::1]:8081/")]) = .ok guarded := rfl
  obtain ⟨hsent, hcarries, -, hiff⟩ := login_survives _ guarded hmade rfl
  obtain ⟨hsome, hvalues⟩ := hsent .subjects fun _ => none
  obtain ⟨q, hq⟩ := Option.isSome_iff_exists.mp (hsome rfl)
  refine ⟨hmade, rfl, ?_, hcarries "é:p:w", ?_⟩
  · obtain ⟨-, hone⟩ := hvalues q hq
    rw [hq, Option.map_some, hone]
    rfl
  · rw [ne_eq, hiff]
    decide

/-- The first request of a call carries the login in the URL and the configured one, each in a value
of its own. There is one value at most unless both are there, and the configured one comes last. -/
theorem authorization_by_source (p : Properties) (r : Registry) (h : ofProperties p = .ok r)
    (call : Call) (network : Network) (q : Request)
    (hq : (call.requests r network).head? = some q) :
    (q.authorization.length ≤ 1 ↔ urlLogin? r.base = none ∨ p.get? loginProperty = none) ∧
    (r.base.userInfo = [] → urlLogin? r.base = none) ∧
    (∀ l, urlLogin? r.base = some l → ∃ value, q.authorization.head? = some value ∧
      Login.Carries value l.text) ∧
    (∀ info, p.get? loginProperty = some info → ∃ value, q.authorization.getLast? = some value ∧
      Login.Carries value (Login.withColon info.toList)) ∧
    ∀ value ∈ q.authorization,
      (∃ l, urlLogin? r.base = some l ∧ value = l.header) ∨
        ∃ info, p.get? loginProperty = some info ∧ value = (Login.ofInfo info).header := by
  have hvalues := (made_of_ofProperties h).authorization hq
  refine ⟨?_, urlLogin?_of_userInfo, ?_, ?_, ?_⟩
  · rw [hvalues]
    cases urlLogin? r.base <;> cases p.get? loginProperty <;> simp
  · intro l hl
    refine ⟨l.header, ?_, Login.carries_header l⟩
    rw [hvalues, hl]
    rfl
  · intro info hinfo
    refine ⟨(Login.ofInfo info).header, ?_, Login.carries_ofInfo info⟩
    rw [hvalues, hinfo, Option.toList_some, List.map_singleton, List.getLast?_concat]
  · intro value hvalue
    rw [hvalues] at hvalue
    obtain hmem | hmem := List.mem_append.mp hvalue
    · obtain ⟨l, hl, rfl⟩ := List.mem_map.mp hmem
      exact .inl ⟨l, Option.mem_toList.mp hl, rfl⟩
    · obtain ⟨info, hinfo, rfl⟩ := List.mem_map.mp hmem
      exact .inr ⟨info, Option.mem_toList.mp hinfo, rfl⟩

def twofold : Registry where
  url := "http://u:p@[::1]:8081"
  base := ⟨"http".toList, ['u'], some ['p'], some (.ipv6 [0, 0, 0, 0, 0, 0, 0, 1]), some 8081,
    [[]], none, none⟩
  login := some (['x'], ['y'])
  properties := .ofList [(loginProperty, "x:y"), (urlProperty, "http://u:p@[::1]:8081/")]

theorem authorization_by_source_of_twofold :
    ofProperties (.ofList [(loginProperty, "x:y"), (urlProperty, "http://u:p@[::1]:8081/")]) =
        .ok twofold ∧
      ∃ q, (Call.subjects.requests twofold fun _ => none).head? = some q ∧
        ¬q.authorization.length ≤ 1 ∧
        ∃ value, q.authorization.getLast? = some value ∧ Login.Carries value "x:y".toList := by
  have hmade : ofProperties (.ofList [(loginProperty, "x:y"),
      (urlProperty, "http://u:p@[::1]:8081/")]) = .ok twofold := rfl
  obtain ⟨q, hq⟩ := Option.isSome_iff_exists.mp (isSome_head? (r := twofold) rfl .subjects
    fun _ => none)
  obtain ⟨hlength, -, -, hlast, -⟩ := authorization_by_source _ twofold hmade .subjects _ q hq
  refine ⟨hmade, q, hq, ?_, hlast "x:y" rfl⟩
  rw [hlength]
  decide +kernel

/-- Two values are sent, of which a request may have one. -/
theorem authorization_of_twofold :
    ofProperties (.ofList [(loginProperty, "x:y"), (urlProperty, "http://u:p@[::1]:8081/")]) =
        .ok twofold ∧
      (Call.subjects.requests twofold fun _ => none).head?.map Request.authorization =
        some ["Basic dTpw", "Basic eDp5"] := by
  refine ⟨rfl, ?_⟩
  decide +kernel

end Registry

end TestCluster
