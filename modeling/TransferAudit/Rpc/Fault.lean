import TransferAudit.Account.Key
import TransferAudit.Url.Fault

/-! What can go wrong between this program and a node. -/

namespace TransferAudit.Rpc

inductive Transport
  | unreachable (url : String)
  | status (code : Nat) (reason url : String)
  | badBody
  deriving DecidableEq

inductive Fault
  | transport (cause : Transport)
  | badValue
  | url (cause : Url.Fault)
  | hex (cause : Text.Hex.Fault)
  | badKey (cause : String)
  | signing (cause : String)
  | refused (method : String) (code : Int) (message : String)
  | empty (method : String)
  deriving DecidableEq

def Transport.message : Transport → String
  | .unreachable url => "error sending request for url (" ++ url ++ ")"
  | .status code reason url =>
    let side := if code < 500 then "client" else "server"
    "HTTP status " ++ side ++ " error (" ++ code.repr ++ " " ++ reason ++ ") for url (" ++ url ++ ")"
  | .badBody => "error decoding response body"

/-- Stands for the reader's own words on a value of the wrong shape. -/
def badValueText : String := "the value has the wrong shape"

/-- Stands for the curve's own words on a number that is no key and on a failed signature. -/
def signatureText : String := "signature error"

def Fault.message : Fault → String
  | .transport t => t.message
  | .badValue => badValueText
  | .url e => e.message
  | .hex e => e.message
  | .badKey s => "invalid signing key: " ++ s
  | .signing s => "signing failed: " ++ s
  | .refused method code message => method ++ " failed with code " ++ toString code ++ ": " ++ message
  | .empty method => method ++ " returned an empty response"

def Fault.isRefusal : Fault → Bool
  | .refused .. => true
  | _ => false

def Fault.ofKey : Key.Fault → Fault
  | .digits e => .hex e
  | .range => .badKey signatureText

end TransferAudit.Rpc
