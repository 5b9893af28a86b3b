import TransferAudit.Account.Fresh
import TransferAudit.Http.Message
import TransferAudit.Ledger.OverNode
import TransferAudit.Program.Check
import TransferAudit.Program.Help
import TransferAudit.Program.Note
import Std.Async.DNS
import Std.Async.TCP

/-! The command line: it reads arguments and environment, talks to a node over the network and prints
what is told. -/

namespace TransferAudit.Main

abbrev Live := ExceptT Overflow IO

open Std.Net in
def addresses (h : Url.Host) : IO (List IPAddr) :=
  match h with
  | .domain cs => return (← (Std.Async.DNS.getAddrInfo (String.ofList cs) "").block).toList
  | .ipv4 n =>
    let byte (i : Nat) := UInt8.ofNat (n >>> (8 * i))
    return [.v4 (IPv4Addr.ofParts (byte 3) (byte 2) (byte 1) (byte 0))]
  | .ipv6 ps =>
    let piece (i : Nat) := UInt16.ofNat (ps.getD i 0)
    return [.v6 (IPv6Addr.ofParts (piece 0) (piece 1) (piece 2) (piece 3) (piece 4) (piece 5) (piece 6)
      (piece 7))]

open Std.Net in
def socketAddress (port : UInt16) : IPAddr → SocketAddress
  | .v4 a => .v4 ⟨a, port⟩
  | .v6 a => .v6 ⟨a, port⟩

partial def receive (s : Std.Async.TCP.Socket.Client) (read : ByteArray) : IO ByteArray := do
  match ← (s.recv? 65536).block with
  | none => return read
  | some bytes => receive s (read ++ bytes)

def talk (text : String) (port : UInt16) : List Std.Net.IPAddr → IO Rpc.Reply
  | [] => return .closed
  | a :: rest => do
    let connected : Option Std.Async.TCP.Socket.Client ←
      try
        let s ← Std.Async.TCP.Socket.Client.mk
        (s.connect (socketAddress port a)).block
        pure (some s)
      catch _ => pure none
    match connected with
    | none => talk text port rest
    | some s =>
      (s.send text.toUTF8).block
      return Http.reply (← receive s .empty).toList

def exchange (u : Url) (r : Rpc.Request) : IO Rpc.Reply := do
  match Http.port? u, Http.host? u with
  | some port, some h =>
    try talk (Http.post u r.toJson.text) port (← addresses h)
    catch _ => return .closed
  | _, _ => return .closed

def tell (f : Log.Filter) (json : Bool) (n : Program.Note) : Live Unit :=
  match n.line? f json with
  | none => pure ()
  | some line => IO.println line

def ledger (n : Network) (ids : IO.Ref UInt64) (event : Log.Event → Live Unit) :
    Ledger.OverNode Live where
  client :=
    { endpoint := n.endpoint.text
      takeId := ids.modifyGet fun i => (i, i + 1)
      exchange := fun r => exchange n.endpoint r
      event }
  key := n.key
  chainId := n.chainId
  pollInterval := n.pollInterval
  pollInterval_pos := n.pollInterval_pos
  pause := IO.sleep (UInt32.ofNat ((n.pollInterval.nanos + 999999) / 1000000))

def check (s : Program.Setup) (json : Bool) : IO UInt32 := do
  let seed := (← IO.getRandomBytes 32).toList
  let ids ← IO.mkRef 1
  let event (e : Log.Event) := tell s.filter json (.event e)
  let o : Scenario.Observer Live := ⟨event, fun v => tell s.filter json (.verdict v)⟩
  let l := (ledger s.network ids event).ledger
  match ← (Program.check s l o fun i => (Key.drawn seed i).address).run with
  | .ok passed => return if passed then 0 else 1
  | .error e =>
    IO.eprintln e.message
    return 101

def readEnvironment (file : Option String) : IO Program.Environment := do
  let names := Program.Opt.all.filterMap Program.Opt.fallback? ++
    (Program.EnvFile.words (file.getD "").toList).map String.ofList
  let values ← names.filterMapM fun name => return (← IO.getEnv name).map (name, ·)
  let env := Program.Environment.ofStrings values
  return match file with
    | none => env
    | some text => env.withFile text

def readFile? (name : String) : IO (Option String) := do
  try return some (← IO.FS.readFile name)
  catch _ => return none

end TransferAudit.Main

open TransferAudit in
def main (args : List String) : IO UInt32 := do
  let env ← Main.readEnvironment (← Main.readFile? ".env")
  match Program.Options.read args env with
  | .error u =>
    if u.exitCode = 0 then IO.print u.text else IO.eprint u.text
    return UInt32.ofNat u.exitCode
  | .ok o =>
    match Program.Setup.read o with
    | .error e =>
      IO.eprint e.text
      return 1
    | .ok s => Main.check s o.json
