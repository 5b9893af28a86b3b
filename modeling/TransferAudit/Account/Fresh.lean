import TransferAudit.Account.Key

namespace TransferAudit.Key

def drawn (seed : List UInt8) (i : Nat) : Key :=
  let h := Crypto.Keccak.hash (seed ++ BigEndian.word i)
  ⟨BigEndian.toNat h.toList % (Crypto.Secp256k1.n - 1) + 1, Nat.succ_pos _, by
    have h1 : 0 < Crypto.Secp256k1.n - 1 := by decide
    have h2 := Nat.mod_lt (BigEndian.toNat h.toList) h1
    omega⟩

end TransferAudit.Key
