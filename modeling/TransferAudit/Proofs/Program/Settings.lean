import Mathlib.Tactic.SplitIfs
import TransferAudit.Program.Check
import TransferAudit.Proofs.Replay.Perform

/-! The settings that the options stand for: the check has them if and only if no number is zero and the
filter, the endpoint and the key can be read. -/

namespace TransferAudit

lemma Scenario.Config.validate_eq_ok_iff {c : Scenario.Config} : c.validate = .ok () ↔
    c.amount ≠ 0 ∧ c.gasLimit ≠ 0 ∧ c.confirmations ≠ 0 ∧ c.timeout.nanos ≠ 0 ∧ c.runs ≠ 0 := by
  unfold validate
  split_ifs <;> simp_all

lemma Network.read_eq_ok_iff {endpoint key : String} {chainId : Option UInt64} {pollInterval : Duration}
    {n : Network} : Network.read endpoint key chainId pollInterval = .ok n ↔
      Url.read endpoint = .ok n.endpoint ∧ Key.read key = .ok n.key ∧ n.chainId = chainId ∧
        n.pollInterval = pollInterval := by
  simp only [Network.read, bind_eq_ok_iff, mapError_eq_ok_iff]
  constructor
  · rintro ⟨url, hurl, k, hkey, hrest⟩
    split at hrest
    · cases hrest
    · cases hrest
      exact ⟨hurl, hkey, rfl, rfl⟩
  · rintro ⟨hurl, hkey, rfl, rfl⟩
    refine ⟨n.endpoint, hurl, n.key, hkey, ?_⟩
    rw [dif_neg (Nat.ne_of_gt n.pollInterval_pos)]
    rfl

namespace Program

lemma nanos_ofMillis_ne_zero_iff {n : UInt64} : (Duration.ofMillis n.toNat).nanos ≠ 0 ↔ n ≠ 0 := by
  have hzero : n = 0 ↔ n.toNat = 0 := UInt64.toNat_inj.symm
  simp only [Duration.ofMillis, ne_eq, hzero]
  omega

namespace Options

def config (o : Options) : Scenario.Config :=
  ⟨o.amount, o.gasLimit, o.confirmations, .ofMillis o.timeoutMs.toNat, o.feeLaw, o.runs⟩

structure Sound (o : Options) : Prop where
  endpoint : ∃ url, Url.read o.rpcUrl = .ok url
  key : ∃ k, Key.read o.privateKey = .ok k
  pollInterval : o.pollIntervalMs ≠ 0
  amount : o.amount ≠ 0
  gasLimit : o.gasLimit ≠ 0
  confirmations : o.confirmations ≠ 0
  timeout : o.timeoutMs ≠ 0
  runs : o.runs ≠ 0

variable {o : Options}

lemma scenario_eq_ok_iff {c : Scenario.Config} : o.scenario = .ok c ↔ c = o.config ∧ o.amount ≠ 0 ∧
    o.gasLimit ≠ 0 ∧ o.confirmations ≠ 0 ∧ o.timeoutMs ≠ 0 ∧ o.runs ≠ 0 := by
  have hvalid : o.config.validate = .ok () ↔ o.amount ≠ 0 ∧ o.gasLimit ≠ 0 ∧ o.confirmations ≠ 0 ∧
      o.timeoutMs ≠ 0 ∧ o.runs ≠ 0 := by
    have htimeout : o.config.timeout.nanos ≠ 0 ↔ o.timeoutMs ≠ 0 := nanos_ofMillis_ne_zero_iff
    rw [Scenario.Config.validate_eq_ok_iff, htimeout]
    rfl
  rw [← hvalid]
  change (o.config.validate >>= fun _ => .ok o.config) = .ok c ↔ _
  rw [bind_eq_ok_iff]
  constructor
  · rintro ⟨_, hvalid, ⟨⟩⟩
    exact ⟨rfl, hvalid⟩
  · rintro ⟨rfl, hvalid⟩
    exact ⟨(), hvalid, rfl⟩

end Options

lemma Setup.read_eq_ok_iff {o : Options} {s : Setup} : Setup.read o = .ok s ↔
    Log.Filter.read o.filter = .ok s.filter ∧ o.network = .ok s.network ∧ o.scenario = .ok s.scenario := by
  simp only [Setup.read, bind_eq_ok_iff, mapError_eq_ok_iff]
  constructor
  · rintro ⟨filter, hfilter, network, hnetwork, scenario, hscenario, ⟨⟩⟩
    exact ⟨hfilter, hnetwork, hscenario⟩
  · rintro ⟨hfilter, hnetwork, hscenario⟩
    exact ⟨_, hfilter, _, hnetwork, _, hscenario, rfl⟩

lemma Setup.sound {o : Options} {s : Setup} (h : Setup.read o = .ok s) : o.Sound := by
  obtain ⟨-, hnetwork, hscenario⟩ := Setup.read_eq_ok_iff.1 h
  obtain ⟨hurl, hkey, -, hinterval⟩ := Network.read_eq_ok_iff.1 hnetwork
  have hpos := s.network.pollInterval_pos
  rw [hinterval] at hpos
  obtain ⟨-, hamount, hgas, hconfirmations, htimeout, hruns⟩ := Options.scenario_eq_ok_iff.1 hscenario
  exact ⟨⟨_, hurl⟩, ⟨_, hkey⟩, nanos_ofMillis_ne_zero_iff.1 (Nat.ne_of_gt hpos), hamount, hgas, hconfirmations,
    htimeout, hruns⟩

lemma Setup.exists_read {o : Options} (hfilter : ∃ f, Log.Filter.read o.filter = .ok f) (h : o.Sound) :
    ∃ s, Setup.read o = .ok s := by
  obtain ⟨f, hfilter⟩ := hfilter
  obtain ⟨url, hurl⟩ := h.endpoint
  obtain ⟨k, hkey⟩ := h.key
  have hpos := Nat.pos_of_ne_zero (nanos_ofMillis_ne_zero_iff.2 h.pollInterval)
  have hnetwork : o.network = .ok ⟨url, k, o.chainId, .ofMillis o.pollIntervalMs.toNat, hpos⟩ :=
    Network.read_eq_ok_iff.2 ⟨hurl, hkey, rfl, rfl⟩
  have hscenario : o.scenario = .ok o.config :=
    Options.scenario_eq_ok_iff.2 ⟨rfl, h.amount, h.gasLimit, h.confirmations, h.timeout, h.runs⟩
  exact ⟨⟨f, _, o.config⟩, Setup.read_eq_ok_iff.2 ⟨hfilter, hnetwork, hscenario⟩⟩

end Program

end TransferAudit
