import TransferAudit.Json.Raw

namespace TransferAudit.Rpc

inductive Method
  | getBalance
  | getTransactionCount
  | gasPrice
  | chainId
  | blockNumber
  | sendRawTransaction
  | getTransactionReceipt
  deriving DecidableEq

def Method.name : Method → String
  | .getBalance => "eth_getBalance"
  | .getTransactionCount => "eth_getTransactionCount"
  | .gasPrice => "eth_gasPrice"
  | .chainId => "eth_chainId"
  | .blockNumber => "eth_blockNumber"
  | .sendRawTransaction => "eth_sendRawTransaction"
  | .getTransactionReceipt => "eth_getTransactionReceipt"

inductive BlockTag
  | latest
  | pending
  deriving DecidableEq

def BlockTag.name : BlockTag → String
  | .latest => "latest"
  | .pending => "pending"

def BlockTag.toJson (t : BlockTag) : Json := .string t.name

def BlockTag.ofName? (s : String) : Option BlockTag :=
  if s = "latest" then some .latest else if s = "pending" then some .pending else none

def BlockTag.ofRaw? : Json.Raw → Option BlockTag
  | .string ps => (Json.stringOfPieces? ps).bind ofName?
  | .object [(ps, .null)] => (Json.stringOfPieces? ps).bind ofName?
  | _ => none

def BlockTag.read? (s : String) : Option BlockTag := (Json.Raw.ofChars? s.toList).bind ofRaw?

structure Request where
  id : UInt64
  method : Method
  params : Json

def Request.toJson (r : Request) : Json :=
  .object [("jsonrpc", .string "2.0"), ("id", .nat r.id.toNat), ("method", .string r.method.name),
    ("params", r.params)]

end TransferAudit.Rpc
