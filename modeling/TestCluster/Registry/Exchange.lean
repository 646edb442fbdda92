import TestCluster.Failure
import TestCluster.Text.Base64
import TestCluster.Url.Read

namespace TestCluster.Registry

structure Request where
  url : Url
  accept : List String
  authorization : List String
  deriving DecidableEq, Repr

structure Response where
  status : Nat
  headers : List (String × String)
  /-- A body that breaks off cannot be read. -/
  body : Option Bytes
  deriving DecidableEq, Repr

/-- What answers requests; where nothing listens no response comes. -/
abbrev Network := Request → Option Response

abbrev Login := List Char × List Char

def Login.header (l : Login) : String :=
  String.ofList ("Basic ".toList ++ Text.Base64.encode (Utf8.encode (l.1 ++ ':' :: l.2)))

/-- A user ends at the first colon. -/
def Login.ofInfo (info : String) : Login :=
  let (user, password) := info.toList.span (· ≠ ':')
  (user, password.tail)

/-- The login that stands in a URL, if its user is text. -/
def urlLogin? (u : Url) : Option Login := do
  let user ← Utf8.decode? (Url.Percent.decode u.username)
  let password := u.password.bind fun p => Utf8.decode? (Url.Percent.decode p)
  if user = [] && password = none then none else some (user, password.getD [])

def accepted : String :=
  "application/vnd.schemaregistry.v1+json"

/-- A login in the URL becomes a header; one of its own is sent as well. -/
def Request.get (url : Url) (login : Option Login) : Request :=
  let inUrl := urlLogin? url
  ⟨if inUrl.isSome then url.withoutUser else url, [accepted],
    (inUrl.toList ++ login.toList).map Login.header⟩

namespace Response

def isSuccess (r : Response) : Bool :=
  200 ≤ r.status && r.status < 300

def isRedirect (r : Response) : Bool :=
  [301, 302, 303, 307, 308].contains r.status

/-- A response that only announces another one. -/
def isInterim (r : Response) : Bool :=
  100 ≤ r.status && r.status < 200 && r.status ≠ 101

/-- Some responses never carry a body. -/
def content? (r : Response) : Option Bytes :=
  if r.status < 200 || r.status = 204 || r.status = 304 then some [] else r.body

def text (r : Response) : String :=
  String.ofList (Utf8.decodeLossy (r.content?.getD []))

def location? (r : Response) : Option String :=
  (r.headers.find? fun (name, _) => name.map Char.toLower = "location").map (·.2)

end Response

/-- The request that a response asks for instead. The login goes no further than one server. -/
def Request.next? (q : Request) (r : Response) : Option Request := do
  guard r.isRedirect
  let url ← (q.url.resolve (← r.location?)).toOption
  some ⟨url, q.accept, if q.url.sameServer url then q.authorization else []⟩

structure Exchange where
  requests : List Request
  result : Except RegistryError Response

def exchange (network : Network) (left : Nat) (q : Request) : Exchange :=
  match (network q).filter (!·.isInterim) with
  | none => ⟨[q], .error (.unreachable q.url.write)⟩
  | some r =>
    match q.next? r, left with
    | none, _ => ⟨[q], .ok r⟩
    | some _, 0 => ⟨[q], .error (.tooManyRedirects q.url.write)⟩
    | some next, left + 1 =>
      if next.url.isHttp then
        let later := exchange network left next
        ⟨q :: later.requests, later.result⟩
      else ⟨[q], .error (.notHttp next.url.write)⟩

def redirectLimit : Nat := 10

def send (network : Network) (q : Request) : Exchange :=
  if q.url.isHttp then exchange network redirectLimit q
  else ⟨[], .error (.notHttp q.url.write)⟩

end TestCluster.Registry
