import TransferAudit.Proofs.Json.RoundTrip
import TransferAudit.Proofs.Rpc.Quantity
import TransferAudit.Scenario.VerdictReader

namespace TransferAudit.Scenario

lemma Kind.ofName?_name (k : Kind) : Kind.ofName? k.name = some k := by
  cases k <;> decide

lemma runNumber?_nat (run : UInt32) : runNumber? (.nat run.toNat) = some run := by
  have hlt : run.toNat < UInt32.size := run.toNat_lt
  simp [runNumber?, Json.nat?_nat, hlt]

lemma Report.ofJson?_toJson (r : Report) : Report.ofJson? r.toJson = some r := by
  rcases r with ⟨sender, recipient, amount, fee, txHash, blockHash, blockNumber, _, _, _, _⟩
  cases blockNumber with
  | none =>
    simp [ofJson?, toJson, Json.get?, Address.ofJson?_toJson, UInt256.ofJson?_toJson, Hash.ofJson?_toJson]
  | some n =>
    have hnumber := Json.uint64?_nat n
    rw [Json.nat] at hnumber
    simp [ofJson?, toJson, Json.get?, Json.nat, Address.ofJson?_toJson, UInt256.ofJson?_toJson,
      Hash.ofJson?_toJson, hnumber]

lemma Report.exact_toJson (r : Report) : Json.Exact (Json.maxDepth - 1) r.toJson := by
  have hblock (depth : Nat) : Json.Exact depth ((r.blockNumber.map fun n => .nat n.toNat).getD .null) := by
    cases r.blockNumber with
    | none => trivial
    | some n => exact Json.exact_nat _ n.toNat_lt
  refine ⟨by decide, rfl, ?_⟩
  simpa [Json.MembersExact, Json.Exact, Address.toJson, UInt256.toJson, Json.quantity, Hash.toJson]
    using hblock _

namespace Verdict

lemma ofJson?_toJson (v : Verdict) : ofJson? v.toJson = some v := by
  cases v with
  | pass run r => simp [ofJson?, toJson, Json.get?, runNumber?_nat, Report.ofJson?_toJson]
  | fail run kind reason => simp [ofJson?, toJson, Json.get?, runNumber?_nat, Kind.ofName?_name]

lemma exact_toJson (v : Verdict) : Json.Exact Json.maxDepth v.toJson := by
  have hrun (run : UInt32) : Json.Exact (Json.maxDepth - 1) (.nat run.toNat) :=
    Json.exact_nat _ (Nat.lt_trans run.toNat_lt (by decide))
  cases v with
  | pass run r => exact ⟨by decide, rfl, trivial, hrun run, r.exact_toJson, trivial⟩
  | fail run kind reason => exact ⟨by decide, rfl, trivial, hrun run, trivial, trivial, trivial⟩

lemma read?_line (v : Verdict) : read? v.toJson.text = some v := by
  rw [read?, Json.read?_text v.exact_toJson, Option.bind_some, ofJson?_toJson]

lemma line_injective {v w : Verdict} (h : v.toJson.text = w.toJson.text) : v = w := by
  have hread := read?_line v
  rw [h, read?_line w] at hread
  exact (Option.some.inj hread).symm

lemma not_mem_line (v : Verdict) {c : Char} (hc : c.toNat < 0x20) : c ∉ v.toJson.text.toList := by
  intro h
  rw [Json.text, String.toList_ofList] at h
  exact absurd (v.exact_toJson.plain c h) (Nat.not_le_of_lt hc)

/-- The line in JSON is a single one that holds a single object, and the verdict with all its fields is read
back from it. -/
theorem line_faithful (v : Verdict) :
    '\n' ∉ v.toJson.text.toList ∧ '\r' ∉ v.toJson.text.toList ∧
      Json.read? v.toJson.text = some v.toJson ∧ ofJson? v.toJson = some v ∧
      ∀ w : Verdict, w.toJson.text = v.toJson.text → w = v :=
  ⟨v.not_mem_line (by decide), v.not_mem_line (by decide), Json.read?_text v.exact_toJson, v.ofJson?_toJson,
    fun _ => line_injective⟩

end Verdict

end TransferAudit.Scenario
