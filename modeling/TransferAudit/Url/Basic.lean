import TransferAudit.Url.Host

namespace TransferAudit

namespace Url

structure Authority where
  userinfo : List Char
  host : Option Host
  port : Option Nat
  deriving DecidableEq

inductive Path
  | segments (ss : List (List Char))
  | opaqueText (cs : List Char)
  deriving DecidableEq

end Url

structure Url where
  scheme : List Char
  authority : Option Url.Authority
  path : Url.Path
  query : Option (List Char)
  fragment : Option (List Char)
  deriving DecidableEq

namespace Url

def Authority.chars (a : Authority) : List Char :=
  (if a.userinfo = [] then [] else a.userinfo ++ ['@']) ++ (a.host.map Host.chars).getD [] ++
    match a.port with
    | none => []
    | some p => ':' :: Nat.toDigits 10 p

def Path.chars : Path → List Char
  | .segments ss => ss.flatMap ('/' :: ·)
  | .opaqueText cs => cs

/-- A path that starts with two slashes is told from an authority by a dot before it. -/
def chars (u : Url) : List Char :=
  let path := u.path.chars
  let head := match u.authority with
    | some a => '/' :: '/' :: a.chars
    | none => if path.take 2 = ['/', '/'] then ['/', '.'] else []
  u.scheme ++ ':' :: head ++ path ++ (u.query.map ('?' :: ·)).getD [] ++
    (u.fragment.map ('#' :: ·)).getD []

def text (u : Url) : String := String.ofList u.chars

end Url

end TransferAudit
