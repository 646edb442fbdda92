import TestCluster.Url.Path

namespace TestCluster

/-- A hierarchical URL. Its parts are kept as they are written. -/
structure Url where
  scheme : List Char
  username : List Char
  password : Option (List Char)
  host : Option Url.Host
  port : Option Nat
  path : Url.Path
  query : Option (List Char)
  fragment : Option (List Char)
  deriving DecidableEq, Repr

namespace Url

/-- How a scheme writes its URLs. -/
inductive Kind
  | file
  | network (port : Nat)
  | other
  deriving DecidableEq

def Kind.ofScheme (scheme : List Char) : Kind :=
  match String.ofList scheme with
  | "file" => .file
  | "http" | "ws" => .network 80
  | "https" | "wss" => .network 443
  | "ftp" => .network 21
  | _ => .other

def Kind.isSpecial : Kind → Bool
  | .other => false
  | .file | .network _ => true

variable (u : Url)

def isSpecial : Bool :=
  (Kind.ofScheme u.scheme).isSpecial

def isHttp : Bool :=
  u.scheme = "http".toList || u.scheme = "https".toList

def portOrDefault : Option Nat :=
  u.port <|> match Kind.ofScheme u.scheme with
    | .network port => some port
    | _ => none

def userInfo : List Char :=
  let login := u.username ++ u.password.elim [] (':' :: ·)
  if login = [] then [] else login ++ ['@']

def authority : List Char :=
  u.host.elim [] fun host =>
    ['/', '/'] ++ u.userInfo ++ host.write ++ u.port.elim [] (':' :: Nat.toDigits 10 ·)

def target : List Char :=
  u.path.write ++ u.query.elim [] ('?' :: ·)

/-- A path that would read as a host is set apart by a dot. -/
def write : String :=
  String.ofList <| u.scheme ++ [':'] ++ u.authority
    ++ (if u.host = none && u.path.head? = some [] && 1 < u.path.length then ['/', '.'] else [])
    ++ u.target ++ u.fragment.elim [] ('#' :: ·)

def withoutUser : Url :=
  { u with username := [], password := none }

/-- The URL with segments after its path; an empty last segment makes room for them. -/
def extend (segments : List (List Char)) : Url :=
  { u with path := u.path.extend u.isSpecial segments }

def sameServer (v : Url) : Bool :=
  u.host = v.host && u.portOrDefault = v.portOrDefault

end Url

end TestCluster
