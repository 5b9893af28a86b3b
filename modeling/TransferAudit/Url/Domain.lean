import TransferAudit.Url.Domain.Label
import TransferAudit.Url.Percent

namespace TransferAudit.Url.Domain

def isForbidden (c : Char) : Bool :=
  c.toNat ≤ 0x20 || c.toNat == 0x7f || "%#/:<>?@[\\]^|".toList.contains c

def labels? (cs : List Char) : Option (List (List Char)) := do
  let forms ← cs.mapM form?
  let cs := Text.Composition.compose forms.flatten
  if cs.any isForbidden then none
  else
    let labels ← (cs.splitOn '.').mapM Label.read?
    if labels.any Label.hasRightward ∧
        !(labels.all fun l => Label.isDirected (l.map Text.Direction.ofChar)) then none
    else some labels

def toAscii? (bs : List UInt8) : Option (List Char) := do
  let s ← String.fromUTF8? ⟨bs.toArray⟩
  let labels ← labels? s.toList
  some (['.'].intercalate (labels.map Label.ascii))

end TransferAudit.Url.Domain
