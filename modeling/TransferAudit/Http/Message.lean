import TransferAudit.Rpc.Reply
import TransferAudit.Url.Basic

/-! Messages of HTTP/1.1 on a connection of their own: the request that posts a JSON text, and the
response with a body up to its length, in chunks, or up to the end of the connection. -/

namespace TransferAudit.Http

def port? (u : Url) : Option UInt16 :=
  if u.scheme = "http".toList then
    some (UInt16.ofNat (((u.authority.bind Url.Authority.port)).getD 80))
  else none

def host? (u : Url) : Option Url.Host := u.authority.bind Url.Authority.host

def target (u : Url) : List Char := u.path.chars ++ (u.query.map ('?' :: ·)).getD []

def hostText (u : Url) : List Char :=
  match u.authority with
  | none => []
  | some a => { a with userinfo := [] }.chars

def header (name value : String) : String := name ++ ": " ++ value ++ "\r\n"

def post (u : Url) (body : String) : String :=
  "POST " ++ String.ofList (target u) ++ " HTTP/1.1\r\n" ++
    header "host" (String.ofList (hostText u)) ++
    header "content-type" "application/json" ++
    header "accept" "*/*" ++
    header "connection" "close" ++
    header "content-length" body.utf8ByteSize.repr ++ "\r\n" ++ body

def line? : List UInt8 → Option (List UInt8 × List UInt8)
  | 13 :: 10 :: rest => some ([], rest)
  | b :: rest => (line? rest).map fun (l, rest) => (b :: l, rest)
  | [] => none

theorem length_of_line? {bs l rest : List UInt8} (h : line? bs = some (l, rest)) :
    rest.length < bs.length := by
  induction bs using line?.induct generalizing l with
  | case1 rest =>
    simp only [line?, Option.some.injEq, Prod.mk.injEq] at h
    obtain ⟨-, rfl⟩ := h
    simp only [List.length_cons]
    omega
  | case2 b bs hb ih =>
    rw [line?] at h
    · obtain ⟨⟨l', r⟩, hl, he⟩ := Option.map_eq_some_iff.1 h
      cases he
      have := ih hl
      simp only [List.length_cons]
      omega
    · exact hb
  | case3 => cases h

def headLines? (bs : List UInt8) : Option (List (List UInt8) × List UInt8) :=
  match h : line? bs with
  | none => none
  | some ([], rest) => some ([], rest)
  | some (l, rest) =>
    have := length_of_line? h
    (headLines? rest).map fun (ls, rest) => (l :: ls, rest)
termination_by bs.length

def latin (bs : List UInt8) : List Char := bs.map fun b => Char.ofNat b.toNat

def field? (l : List UInt8) : Option (String × String) :=
  let cs := latin l
  match cs.dropWhile (· != ':') with
  | ':' :: value =>
    some (String.ofList ((cs.takeWhile (· != ':')).map Char.toLower), String.ofList (Text.trim value))
  | _ => none

def chunkSize? (l : List UInt8) : Option Nat :=
  let ds := (l.map Text.Hex.value?).takeWhile Option.isSome
  if ds = [] then none else some (ds.foldl (fun n d => 16 * n + d.getD 0) 0)

def unchunk? (bs : List UInt8) : Option (List UInt8) :=
  match h : line? bs with
  | none => none
  | some (l, rest) =>
    match chunkSize? l with
    | none => none
    | some 0 => some []
    | some n =>
      if rest.length < n + 2 then none
      else
        have := length_of_line? h
        (unchunk? (rest.drop (n + 2))).map (rest.take n ++ ·)
termination_by bs.length
decreasing_by
  simp only [List.length_drop]
  omega

def status? (l : List UInt8) : Option (Nat × String) :=
  match (latin l).dropWhile (· != ' ') with
  | ' ' :: a :: b :: c :: rest => do
    let code ← (String.ofList [a, b, c]).toNat?
    some (code, String.ofList (Text.trim rest))
  | _ => none

def body? (fields : List (String × String)) (rest : List UInt8) : Option (List UInt8) :=
  match fields.lookup "transfer-encoding", (fields.lookup "content-length").bind String.toNat? with
  | some "chunked", _ => unchunk? rest
  | _, some n => if n ≤ rest.length then some (rest.take n) else none
  | _, none => some rest

def reply? (bs : List UInt8) : Option Rpc.Reply := do
  let (ls, rest) ← headLines? bs
  let (code, reason) ← ls.head?.bind status?
  let body ← body? (ls.tail.filterMap field?) rest
  some (.answered code reason ((String.fromUTF8? ⟨body.toArray⟩).getD ""))

def reply (bs : List UInt8) : Rpc.Reply := (reply? bs).getD .closed

end TransferAudit.Http
