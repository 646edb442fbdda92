import TestCluster.Event
import TestCluster.Properties
import TestCluster.Registry.Exchange
import TestCluster.Registry.Schema

namespace TestCluster

open Registry

structure Registry where
  url : String
  base : Url
  login : Option Login
  properties : Properties

namespace Registry

def urlProperty : String := "url"

def loginProperty : String := "basic.auth.user.info"

def trimSlashes (url : String) : String :=
  String.ofList (url.toList.reverse.dropWhile (· = '/')).reverse

def ofProperties (p : Properties) : Except ConfigError Registry :=
  match p.get? urlProperty with
  | none => .error .noRegistryUrl
  | some text =>
    let url := trimSlashes text
    match Url.read url with
    | .error fault => .error (.registryUrl url fault.message)
    | .ok base => .ok ⟨url, base, (p.get? loginProperty).map Login.ofInfo, p⟩

variable (r : Registry)

def endpoint (segments : List String) : Url :=
  r.base.extend (segments.map String.toList)

def subjectsUrl : Url :=
  r.endpoint ["subjects"]

def latestUrl (subject : String) : Url :=
  r.endpoint ["subjects", subject, "versions", "latest"]

structure Reply (α : Type) where
  requests : List Request
  result : Except Failure α
  events : List Event := []

def statusFailure (a : Response) : Failure :=
  .registryStatus a.status a.text

def body (a : Response) {α : Type} (read : Json.Value → Option α) : Except Failure α :=
  match (a.content?.bind Json.Value.ofBytes?).bind read with
  | some found => .ok found
  | none => .error (.registry .undecodable)

def subjects (network : Network) : Reply (List String) :=
  let x := send network (.get r.subjectsUrl r.login)
  ⟨x.requests, match x.result with
    | .error e => .error (.registry e)
    | .ok a => if a.isSuccess then body a Json.Value.strings? else .error (statusFailure a), []⟩

/-- An unknown subject has no schema. -/
def latestSchema (network : Network) (subject : String) : Reply (Option RegisteredSchema) :=
  let x := send network (.get (r.latestUrl subject) r.login)
  match x.result with
  | .error e => ⟨x.requests, .error (.registry e), []⟩
  | .ok a =>
    if a.status = 200 then ⟨x.requests, some <$> body a RegisteredSchema.ofValue?, []⟩
    else if a.status = 404 then ⟨x.requests, .ok none, [.subjectUnknown subject]⟩
    else ⟨x.requests, .error (statusFailure a), []⟩

end Registry

end TestCluster
