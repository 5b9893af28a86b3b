import TransferAudit.Proofs.Ledger.Confirmation

/-! Depths are counted in 64 bits, one short of the greatest depth that there is: a wait breaks off when
the node puts the block at the first number and the head at the last. -/

namespace TransferAudit

namespace Ledger

variable {head included : UInt64}

lemma size_le_depth_iff : UInt64.size ≤ head.toNat - included.toNat + 1 ↔
    included = 0 ∧ head.toNat + 1 = UInt64.size := by
  have hhead := head.toNat_lt_size
  have hsize : 1 < UInt64.size := by decide
  rw [← UInt64.toNat_inj, UInt64.toNat_zero]
  omega

lemma depth_cases (head included : UInt64) :
    if included = 0 ∧ head.toNat + 1 = UInt64.size then depth head included = .error .add
    else ∃ d, depth head included = .ok d ∧
      (d.toNat : Int) = max 0 ((head.toNat : Int) - included.toNat + 1) := by
  split
  · rename_i hlast
    exact depth_eq_error (size_le_depth_iff.2 hlast)
  · rename_i hfit
    obtain ⟨d, hd, hdepth⟩ := exists_depth (Nat.lt_of_not_le (mt size_le_depth_iff.1 hfit))
    refine ⟨d, hd, ?_⟩
    omega

end Ledger

namespace Replay

open Rpc Ledger

variable {σ : Type}

/-- A wait ends with a confirmation, with the transaction reverted or with the deadline, unless the block
is the first of all, the transaction is not known to have failed, and the first head that is deep enough
is the last of all. At each other pair of numbers the depth is the one without bound. -/
theorem confirm_ends_or_overflows (node : Node σ) (n : Network) (txHash : Hash) (confirmations : UInt64)
    (limit : Duration) (w : World σ) :
    let x := wait n txHash confirmations limit
    let told := told node txHash w
    ∃ out w', exec ((ledger node n).confirm txHash confirmations limit) w = (out, w') ∧
      (out = .error .add ∨ out = .ok (.error (.timeout txHash limit)) ∨
        (∃ block, out = .ok (.error (.reverted txHash block))) ∨
        ∃ confirmation, out = .ok (.ok confirmation)) ∧
      (out = .error .add ↔ ∃ i j r head, x.Includes told i r 0 ∧ r.status ≠ some 0 ∧
        x.Buries told i 0 j head ∧ head.toNat + 1 = UInt64.size) ∧
      ∀ head included : UInt64,
        if included = 0 ∧ head.toNat + 1 = UInt64.size then depth head included = .error .add
        else ∃ d, depth head included = .ok d ∧
          (d.toNat : Int) = max 0 ((head.toNat : Int) - included.toNat + 1) := by
  intro x told
  obtain ⟨out, w', _, _, hrun, hends, _⟩ := exec_confirm node n txHash confirmations limit w
  refine ⟨out, w', hrun, ?_, ?_, depth_cases⟩
  · cases hends with
    | unseen | shallow => exact .inr (.inl rfl)
    | reverted => exact .inr (.inr (.inl ⟨_, rfl⟩))
    | deep => exact .inr (.inr (.inr ⟨_, rfl⟩))
    | overflow => exact .inl rfl
  · constructor
    · rintro rfl
      cases hends with
      | @overflow i j r included head hseen hstatus hhead hfit =>
        obtain ⟨rfl, hlast⟩ := size_le_depth_iff.1 hfit
        exact ⟨i, j, r, head, hseen, hstatus, hhead, hlast⟩
    · rintro ⟨i, j, r, head, hseen, hstatus, hhead, hlast⟩
      exact hends.unique (.overflow hseen hstatus hhead (size_le_depth_iff.2 ⟨rfl, hlast⟩))

end Replay

namespace Sample

open Rpc

def farApart : Nat → Reply
  | 0 => answer (.object [("transactionHash", hash.toJson), ("blockNumber", .nat 0)])
  | _ => answer (.nat 18446744073709551615)

end Sample

open Rpc Replay Sample in
theorem sample_confirm_overflows :
    (exec ((ledger (.replying farApart) network).confirm hash 1 (.ofMillis 1)) (.start 0)).1 =
      .error .add := by
  decide +kernel

end TransferAudit
