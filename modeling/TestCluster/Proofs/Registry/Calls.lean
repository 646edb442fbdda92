import TestCluster.Proofs.Registry.Lookup

namespace TestCluster

namespace Registry

open Url

inductive Call
  | subjects
  | latestSchema (subject : String)
  deriving DecidableEq, Repr

/-- A registry and the properties that it was made from. -/
structure Made (p : Properties) (r : Registry) : Prop where
  url : ∃ text, p.get? urlProperty = some text ∧ r.url = trimSlashes text
  base : Url.read r.url = .ok r.base
  login : r.login = (p.get? loginProperty).map Login.ofInfo

theorem made_of_ofProperties {p : Properties} {r : Registry} (h : ofProperties p = .ok r) :
    Made p r := by
  unfold ofProperties at h
  split at h
  · cases h
  · rename_i text htext
    dsimp only at h
    split at h
    · cases h
    · rename_i base hbase
      cases h
      exact ⟨⟨text, htext, rfl⟩, hbase, rfl⟩

theorem send_of_not_isHttp (network : Network) {q : Request} (h : q.url.isHttp = false) :
    (send network q).requests = [] := by
  unfold send
  rw [h]
  rfl

theorem urlLogin?_of_userInfo {u : Url} (h : u.userInfo = []) : urlLogin? u = none := by
  unfold Url.userInfo at h
  dsimp only at h
  split at h
  · rename_i hlogin
    obtain ⟨hname, hpassword⟩ := List.append_eq_nil_iff.mp hlogin
    have hnone : u.password = none := by
      cases hp : u.password with
      | none => rfl
      | some password =>
        rw [hp] at hpassword
        cases hpassword
    have hdecode : Utf8.decode? (Percent.decode []) = some [] := by
      simp [Percent.decode, Utf8.decode?, Utf8.pieces]
    unfold urlLogin?
    rw [hname, hnone, hdecode]
    rfl
  · simp at h

namespace Call

variable (call : Call) (r : Registry) (network : Network)

def url : Call → Url
  | subjects => r.subjectsUrl
  | latestSchema subject => r.latestUrl subject

def requests : Call → List Request
  | subjects => (r.subjects network).requests
  | latestSchema subject => (r.latestSchema network subject).requests

theorem requests_eq :
    call.requests r network = (send network (.get (call.url r) r.login)).requests := by
  cases call with
  | subjects => rfl
  | latestSchema subject => exact r.latestSchema_requests network subject

theorem url_eq : call.url r = { r.base with path := (call.url r).path } := by
  cases call <;> rfl

theorem urlLogin?_url : urlLogin? (call.url r) = urlLogin? r.base := by
  rw [url_eq]
  rfl

/-- The request that a call sends before any other. -/
def request : Request :=
  .get (call.url r) r.login

theorem request_url :
    (call.request r).url = { r.base with
      path := (call.url r).path
      username := (call.request r).url.username
      password := (call.request r).url.password } := by
  unfold request Request.get
  dsimp only
  split
  · rw [url_eq]
    rfl
  · rw [url_eq]

theorem request_authorization :
    (call.request r).authorization =
      ((urlLogin? r.base).toList ++ r.login.toList).map Login.header := by
  unfold request Request.get
  dsimp only
  rw [urlLogin?_url]

theorem isHttp_request : (call.request r).url.isHttp = r.base.isHttp := by
  rw [request_url]
  rfl

theorem head?_requests :
    (call.requests r network).head? =
      if r.base.isHttp = true then some (call.request r) else none := by
  have hhttp := call.isHttp_request r
  rw [requests_eq]
  split
  · rename_i h
    exact send_of_isHttp network (hhttp.trans h)
  · rename_i h
    change (send network (call.request r)).requests.head? = none
    rw [send_of_not_isHttp network (hhttp.trans (Bool.eq_false_iff.mpr h))]
    rfl

end Call

end Registry

end TestCluster
