import TransferAudit.Url.Fault
import TransferAudit.Url.Domain

/-! Hosts of URLs: domains, addresses of four bytes, and addresses of eight pieces in brackets. -/

namespace TransferAudit.Url

inductive Host
  | domain (cs : List Char)
  | ipv4 (address : Nat)
  | ipv6 (pieces : List Nat)
  deriving DecidableEq

namespace Host

def digitValue? (base : Nat) (c : Char) : Option Nat :=
  let n := c.toNat
  let d := if 48 ≤ n ∧ n ≤ 57 then n - 48
    else if 97 ≤ n ∧ n ≤ 102 then n - 87
    else if 65 ≤ n ∧ n ≤ 70 then n - 55
    else 16
  if d < base then some d else none

def number? (base : Nat) (cs : List Char) : Option Nat :=
  cs.foldlM (fun n c => (digitValue? base c).map (base * n + ·)) 0

/-- A part of an address of four bytes: `0x` marks base sixteen and `0` base eight. -/
def ipv4Part? : List Char → Option Nat
  | [] => none
  | '0' :: 'x' :: cs | '0' :: 'X' :: cs => number? 16 cs
  | '0' :: c :: cs => number? 8 (c :: cs)
  | cs => number? 10 cs

def ipv4Parts (cs : List Char) : List (List Char) :=
  let parts := cs.splitOn '.'
  if parts.getLast? = some [] ∧ 1 < parts.length then parts.dropLast else parts

def endsInNumber (cs : List Char) : Bool :=
  match (ipv4Parts cs).getLast? with
  | none => false
  | some part =>
    (part != [] && part.all fun c => (digitValue? 10 c).isSome) || (ipv4Part? part).isSome

def readIpv4 (cs : List Char) : Except Fault Nat :=
  let parts := ipv4Parts cs
  match parts.mapM ipv4Part? with
  | none => .error .ipv4
  | some ns =>
    match ns.getLast? with
    | none => .error .ipv4
    | some last =>
      let front := ns.dropLast
      if 4 < ns.length ∨ 1 <<< (8 * (4 - front.length)) ≤ last ∨ front.any (255 < ·) then .error .ipv4
      else .ok (front.foldr (fun n a => n <<< 24 + a / 256) 0 + last)

def byteQuad? (cs : List Char) : Option (List Nat) :=
  let parts := cs.splitOn '.'
  if parts.length ≠ 4 then none
  else parts.mapM fun part => do
    let n ← number? 10 part
    if part = [] ∨ 255 < n ∨ (part.head? = some '0' ∧ 1 < part.length) then none else some n

def piece? (cs : List Char) : Option Nat :=
  if cs = [] ∨ 4 < cs.length then none else number? 16 cs

def pieces? (parts : List (List Char)) (last : Bool) : Option (List Nat) :=
  match parts with
  | [] => some []
  | [part] =>
    if last ∧ part.contains '.' then do
      match ← byteQuad? part with
      | [a, b, c, d] => some [256 * a + b, 256 * c + d]
      | _ => none
    else (piece? part).map ([·])
  | part :: parts => do
    let p ← piece? part
    let ps ← pieces? parts last
    some (p :: ps)

def splitGap : List Char → List Char × Option (List Char)
  | ':' :: ':' :: cs => ([], some cs)
  | c :: cs =>
    let (before, after) := splitGap cs
    (c :: before, after)
  | [] => ([], none)

def colonParts (cs : List Char) : List (List Char) :=
  if cs = [] then [] else cs.splitOn ':'

def readIpv6 (cs : List Char) : Except Fault (List Nat) :=
  let found : Option (List Nat) := do
    match splitGap cs with
    | (cs, none) =>
      let ps ← pieces? (colonParts cs) true
      if ps.length = 8 then some ps else none
    | (before, some after) =>
      let ps ← pieces? (colonParts before) false
      let qs ← pieces? (colonParts after) true
      if ps.length + qs.length < 8 then
        some (ps ++ List.replicate (8 - ps.length - qs.length) 0 ++ qs)
      else none
  match found with
  | some ps => .ok ps
  | none => .error .ipv6

def readBracketed (cs : List Char) : Except Fault Host :=
  if cs.getLast? = some ']' then (readIpv6 cs.dropLast).map .ipv6 else .error .ipv6

def read : List Char → Except Fault Host
  | '[' :: cs => readBracketed cs
  | cs =>
    match Domain.toAscii? (Percent.decode (Text.utf8 cs)) with
    | none => .error .domain
    | some [] => .error .emptyHost
    | some cs => if endsInNumber cs then (readIpv4 cs).map .ipv4 else .ok (.domain cs)

def isOpaqueForbidden (c : Char) : Bool := "\x00\t\n\r #/:<>?@[\\]^|".toList.contains c

def readOpaque : List Char → Except Fault Host
  | '[' :: cs => readBracketed cs
  | cs =>
    if cs.any isOpaqueForbidden then .error .hostCharacter
    else .ok (.domain (Percent.encode Percent.isControl cs))

def ipv4Chars (n : Nat) : List Char :=
  ['.'].intercalate ([n >>> 24 % 256, n >>> 16 % 256, n >>> 8 % 256, n % 256].map (Nat.toDigits 10))

/-- The place and the length of the longest run of at least two zeros, the first of equal ones. -/
def longestGap (ps : List Nat) : Option (Nat × Nat) :=
  let run (i : Nat) := ((ps.drop i).takeWhile (· == 0)).length
  (List.range ps.length).foldl (fun best i =>
    if max 1 ((best.map (·.2)).getD 0) < run i then some (i, run i) else best) none

def ipv6Chars (ps : List Nat) : List Char :=
  let side (qs : List Nat) := [':'].intercalate (qs.map (Nat.toDigits 16))
  match longestGap ps with
  | none => side ps
  | some (i, k) => side (ps.take i) ++ [':', ':'] ++ side (ps.drop (i + k))

def chars : Host → List Char
  | .domain cs => cs
  | .ipv4 n => ipv4Chars n
  | .ipv6 ps => '[' :: ipv6Chars ps ++ [']']

end Host

end TransferAudit.Url
