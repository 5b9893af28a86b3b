import TransferAudit.Url.Basic

/-! Reading a URL that stands alone. The special schemes take a backslash for a slash, always have a
host, and leave out their own port. -/

namespace TransferAudit.Url

def clean (cs : List Char) : List Char :=
  let outer (c : Char) : Bool := c.toNat ≤ 0x20
  let cs := ((cs.dropWhile outer).reverse.dropWhile outer).reverse
  cs.filter fun c => c != '\t' && c != '\n' && c != '\r'

def isLetter (c : Char) : Bool := ('a' ≤ c && c ≤ 'z') || ('A' ≤ c && c ≤ 'Z')

def isDecimal (c : Char) : Bool := '0' ≤ c && c ≤ '9'

def scheme? (cs : List Char) : Option (List Char × List Char) :=
  let inScheme (c : Char) : Bool := isLetter c || isDecimal c || c == '+' || c == '-' || c == '.'
  match cs.takeWhile inScheme, cs.dropWhile inScheme with
  | c :: name, ':' :: rest => if isLetter c then some ((c :: name).map Char.toLower, rest) else none
  | _, _ => none

inductive Kind
  | special (port : Nat)
  | file
  | other
  deriving DecidableEq

def kind (scheme : List Char) : Kind :=
  match String.ofList scheme with
  | "http" => .special 80
  | "https" => .special 443
  | "ws" => .special 80
  | "wss" => .special 443
  | "ftp" => .special 21
  | "file" => .file
  | _ => .other

def Kind.isSpecial : Kind → Bool
  | .other => false
  | _ => true

def Kind.port? : Kind → Option Nat
  | .special p => some p
  | _ => none

def isSlash (k : Kind) (c : Char) : Bool := c == '/' || (k.isSpecial && c == '\\')

def endsPath (c : Char) : Bool := c == '?' || c == '#'

def endsAuthority (k : Kind) (c : Char) : Bool := isSlash k c || endsPath c

def splitAt (cs : List Char) : Option (List Char × List Char) :=
  if cs.contains '@' then
    let after := (cs.reverse.takeWhile (· != '@')).reverse
    some (cs.take (cs.length - after.length - 1), after)
  else none

def userinfo (cs : List Char) : List Char :=
  let user := Percent.encode Percent.inUserinfo (cs.takeWhile (· != ':'))
  match cs.dropWhile (· != ':') with
  | _ :: c :: rest => user ++ ':' :: Percent.encode Percent.inUserinfo (c :: rest)
  | _ => user

def splitHost : Bool → List Char → List Char × List Char
  | _, [] => ([], [])
  | inside, c :: cs =>
    if c = ':' ∧ !inside then ([], c :: cs)
    else
      let (host, rest) := splitHost (if c = '[' then true else if c = ']' then false else inside) cs
      (c :: host, rest)

def port? (cs : List Char) : Option (Option Nat) :=
  if cs = [] then some none
  else if cs.all isDecimal then
    let n := cs.foldl (fun n c => 10 * n + (c.toNat - 48)) 0
    if n < 65536 then some (some n) else none
  else none

def readHost (k : Kind) (cs : List Char) : Except Fault (Option Host) :=
  if k.isSpecial then if cs = [] then .error .emptyHost else (Host.read cs).map some
  else if cs = [] then .ok none
  else (Host.readOpaque cs).map some

/-- The authority in a text that ends before the path. A port is cut off at a backslash even where that
is no slash; the rest then belongs to the path. -/
def readAuthority (k : Kind) (cs : List Char) : Except Fault (Authority × List Char) := do
  let (user, cs) := match splitAt cs with
    | none => ([], cs)
    | some (user, rest) => (user, rest)
  let user := userinfo user
  let (host, rest) := splitHost false cs
  let h ← readHost k host
  match rest with
  | ':' :: rest =>
    if host = [] then .error .emptyHost
    else match port? (rest.takeWhile (· != '\\')) with
      | none => .error .port
      | some p =>
        .ok (⟨user, h, if p = k.port? then none else p⟩, rest.dropWhile (· != '\\'))
  | rest => if host = [] ∧ user ≠ [] then .error .emptyHost else .ok (⟨user, h, none⟩, rest)

def isSingleDot (cs : List Char) : Bool :=
  let cs := cs.map Char.toLower
  cs == ".".toList || cs == "%2e".toList

def isDoubleDot (cs : List Char) : Bool :=
  let cs := cs.map Char.toLower
  cs == "..".toList || cs == ".%2e".toList || cs == "%2e.".toList || cs == "%2e%2e".toList

def isDrive : List Char → Bool
  | [c, d] => isLetter c && (d == ':' || d == '|')
  | _ => false

def shorten (ss : List (List Char)) : List (List Char) :=
  if (ss.getLast?.map isDrive).getD false then ss else ss.dropLast

def resolve : List (List Char) → List (List Char) → List (List Char)
  | done, [] => done
  | done, s :: ss =>
    let close (done : List (List Char)) := if ss = [] then done ++ [[]] else done
    if isDoubleDot s then resolve (close (shorten done)) ss
    else if isSingleDot s then resolve (close done) ss
    else resolve (done ++ [s]) ss

def splitSlashes (k : Kind) (cs : List Char) : List (List Char) :=
  cs.splitOnP (isSlash k)

def readPath (k : Kind) (cs : List Char) : List (List Char) :=
  let ss := resolve [] ((splitSlashes k cs).map (Percent.encode Percent.inPath))
  if k = .file then
    match ss.dropWhile (· = []) with
    | [] => [[]]
    | ss => ss
  else ss

def readTail (k : Kind) (cs : List Char) : Option (List Char) × Option (List Char) :=
  let inSet := if k.isSpecial then Percent.inSpecialQuery else Percent.inQuery
  let fragment (cs : List Char) := match cs with
    | '#' :: cs => some (Percent.encode Percent.inFragment cs)
    | _ => none
  match cs with
  | '?' :: cs => (some (Percent.encode inSet (cs.takeWhile (· != '#'))), fragment (cs.dropWhile (· != '#')))
  | cs => (none, fragment cs)

def assemble (scheme : List Char) (k : Kind) (authority : Option Authority) (path : Path)
    (rest : List Char) : Url :=
  let (query, fragment) := readTail k rest
  ⟨scheme, authority, path, query, fragment⟩

def readAfterSlashes (scheme : List Char) (k : Kind) (cs : List Char) : Except Fault Url := do
  let authority := cs.takeWhile fun c => !endsAuthority k c
  let rest := cs.dropWhile fun c => !endsAuthority k c
  if authority = ['@'] ∧ rest ≠ [] then throw .emptyHost
  let (a, between) ← readAuthority k authority
  let cs := between ++ rest
  let path := cs.takeWhile fun c => !endsPath c
  let rest := cs.dropWhile fun c => !endsPath c
  let path := match path with
    | [] => if k.isSpecial then [[]] else []
    | c :: cs => readPath k (if isSlash k c then cs else c :: cs)
  .ok (assemble scheme k (some a) (.segments path) rest)

def readFile (cs : List Char) : Except Fault Url := do
  let scheme := "file".toList
  let path := cs.takeWhile fun c => !endsPath c
  let rest := cs.dropWhile fun c => !endsPath c
  let whole (host : Option Host) (path : List Char) : Url :=
    assemble scheme .file (some ⟨[], host, none⟩) (.segments (readPath .file path)) rest
  match path with
  | a :: b :: path =>
    if isSlash .file a && isSlash .file b then
      let host := path.takeWhile fun c => !isSlash .file c
      if host = [] ∨ isDrive host then .ok (whole none path)
      else
        let h ← Host.read host
        let h := if h = .domain "localhost".toList then none else some h
        .ok (whole h (path.dropWhile fun c => !isSlash .file c))
    else .ok (whole none (a :: b :: path))
  | path => .ok (whole none path)

def read (s : String) : Except Fault Url :=
  match scheme? (clean s.toList) with
  | none => .error .relative
  | some (scheme, cs) =>
    match kind scheme with
    | .file => readFile cs
    | .special p => readAfterSlashes scheme (.special p) (cs.dropWhile (isSlash (.special p)))
    | .other =>
      match cs with
      | '/' :: '/' :: cs => readAfterSlashes scheme .other cs
      | cs =>
        let path := cs.takeWhile fun c => !endsPath c
        let rest := cs.dropWhile fun c => !endsPath c
        match path with
        | '/' :: path => .ok (assemble scheme .other none (.segments (readPath .other path)) rest)
        | path => .ok (assemble scheme .other none (.opaqueText (Percent.encode Percent.isControl path)) rest)

end TransferAudit.Url
