import Mathlib.Algebra.BigOperators.Group.List.Basic
import Mathlib.Algebra.Ring.Int.Defs
import MicroserviceCommon.Communication.GatewayInit
import MicroserviceCommon.Properties.ConnectionIdentity

/-!
# The poll budget

`init` should divide its poll time-out among the external networks without a division by zero. No
network should get a negative share, and the shares should not exceed the time-out. The number of
networks is not checked, and a gateway may have none.

* `poll_budget_iff` — the division is right exactly when some network is there to be polled
* `no_network_to_poll` — a gateway where nothing is enabled
-/

namespace MicroserviceCommon

open Infra

namespace CommunicationGatewayFacade

variable {Request Command : Type*}

/-- The time-outs that are assigned. -/
structure AssignsWithin (budget : Int32) (pollTimeouts : List (NetworkEntity × Int32)) : Prop where
  nonneg : ∀ call ∈ pollTimeouts, 0 ≤ call.2
  total : (pollTimeouts.map fun call => call.2.toInt).sum ≤ budget.toInt

/-- An `init` that fails before the division assigns nothing. -/
def InitOutcome.WithinBudget (budget : Int32) : InitOutcome Command → Prop
  | .notReturned | .failed _ _ => True
  | .divisionByZero => False
  | .success g => AssignsWithin budget g.pollTimeouts

/-- A transport of this build is enabled, or an `initDerive` that succeeds leaves the gateway an
external network, an earlier one or one that it added. -/
def HasNetworkToPoll (g : CommunicationGatewayFacade) (settings : SInitSettings Request Command)
    (initDerive : InitDerive) : Prop :=
  (∃ b ∈ settings.initialConnections.blocks, b.settings.enable = true) ∨
    ∀ g', initDerive.run g = some (g', true) → g'.externalNetworks ≠ []

/-! ## The division -/

theorem toNat_toUInt64_of_nonneg {t : Int32} (h : 0 ≤ t) :
    (t.toInt64.toUInt64.toNat : Int) = t.toInt := by
  have hnonneg : 0 ≤ t.toInt := Int32.le_iff_toInt_le.mp h
  have hnonneg64 : (0 : Int64) ≤ t.toInt64 := by
    rw [Int64.le_iff_toInt_le, Int32.toInt_toInt64]
    exact hnonneg
  calc (t.toInt64.toUInt64.toNat : Int)
      = t.toInt64.toNatClampNeg := by
        rw [← Int64.toNat_toBitVec, Int64.toNat_toBitVec_of_le hnonneg64]
    _ = t.toInt := by
        rw [Int64.toNatClampNeg, Int32.toInt_toInt64]
        exact Int.toNat_of_nonneg hnonneg

/-- **A share is the quotient, rounded down.** -/
theorem pollTimeoutPerEachNetwork_eq_some {t timeout : Int32} {nets : List NetworkEntity}
    (h : 0 ≤ t) (hshare : pollTimeoutPerEachNetworkMillisec t nets = some timeout) :
    nets.length ≠ 0 ∧ timeout.toInt = t.toInt / nets.length := by
  unfold pollTimeoutPerEachNetworkMillisec at hshare
  split at hshare
  · cases hshare
  · next hlength =>
    cases hshare
    refine ⟨hlength, ?_⟩
    have hcast := toNat_toUInt64_of_nonneg h
    have hlt := t.toInt_lt
    have hle := Nat.div_le_self t.toInt64.toUInt64.toNat nets.length
    rw [Int32.toInt_ofNat_of_lt (by omega), Int.natCast_ediv, hcast]

/-- Equal shares. -/
theorem sum_pollTimeouts (nets : List NetworkEntity) (timeout : Int32) :
    ((nets.map fun net => (net, timeout)).map fun call => call.2.toInt).sum =
      nets.length * timeout.toInt := by
  rw [List.map_map]
  show (nets.map fun _ => timeout.toInt).sum = _
  rw [List.map_const', List.sum_replicate_int]

theorem assignsWithin_shares {t timeout : Int32} {nets : List NetworkEntity} (h : 0 ≤ t)
    (hshare : pollTimeoutPerEachNetworkMillisec t nets = some timeout) :
    AssignsWithin t (nets.map fun net => (net, timeout)) := by
  obtain ⟨hlength, hquotient⟩ := pollTimeoutPerEachNetwork_eq_some h hshare
  have hnonneg : 0 ≤ t.toInt := Int32.le_iff_toInt_le.mp h
  constructor
  · intro call hcall
    obtain ⟨_, _, rfl⟩ := List.mem_map.mp hcall
    rw [Int32.le_iff_toInt_le, hquotient]
    exact Int.ediv_nonneg hnonneg (Int.natCast_nonneg _)
  · rw [sum_pollTimeouts, hquotient]
    exact Int.mul_ediv_self_le (Int.natCast_ne_zero.mpr hlength)

variable {g g' : CommunicationGatewayFacade}

/-- **The end of `init` needs one network, and no more.** -/
theorem dividePollTimeout_within_iff {settings : SInitSettings Request Command}
    (h : 0 ≤ settings.pollTimeoutMillisec) :
    (dividePollTimeout settings g).WithinBudget settings.pollTimeoutMillisec ↔
      g.externalNetworks ≠ [] := by
  unfold dividePollTimeout
  cases hshare : pollTimeoutPerEachNetworkMillisec settings.pollTimeoutMillisec
      g.externalNetworks with
  | none =>
    have hnil : g.externalNetworks = [] := by
      by_contra hne
      rw [pollTimeoutPerEachNetworkMillisec, if_neg (mt List.length_eq_zero_iff.mp hne)] at hshare
      cases hshare
    exact ⟨False.elim, fun hne => absurd hnil hne⟩
  | some timeout =>
    refine ⟨fun _ hnil => ?_, fun _ => assignsWithin_shares h hshare⟩
    rw [hnil] at hshare
    cases hshare

/-! ## The initial connections -/

/-- **Initial connections that succeed leave a network when one is enabled.** -/
theorem ne_nil_of_enabled : ∀ {bs : List InitialBlock} {g g' : CommunicationGatewayFacade},
    runBlocks bs g = some (g', true) → (∃ b ∈ bs, b.settings.enable = true) →
      g'.externalNetworks ≠ []
  | [], _, _, _, henabled => by
    obtain ⟨_, hmem, _⟩ := henabled
    exact absurd hmem List.not_mem_nil
  | b :: bs, g, g', h, henabled => by
    obtain ⟨⟨g₁, ok₁⟩, hb, hrest⟩ := Option.bind_eq_some_iff.mp h
    cases ok₁ with
    | false => cases hrest
    | true =>
      obtain ⟨_, _, hstored, hfailed⟩ := runBlock_eq_some hb
      cases henable : b.settings.enable with
      | true =>
        have hinited : b.settings.inited = true := by
          by_contra hinited
          cases (hfailed henable (Bool.eq_false_iff.mpr hinited)).1
        exact (grows_runBlocks hrest).ne_nil (hstored henable hinited)
      | false =>
        obtain ⟨b', hmem, henable'⟩ := henabled
        rcases List.mem_cons.mp hmem with rfl | hmem
        · rw [henable] at henable'
          cases henable'
        · exact ne_nil_of_enabled hrest ⟨b', hmem, henable'⟩

/-- Blocks that are not enabled do nothing. -/
theorem runBlocks_of_disabled {bs : List InitialBlock}
    (h : ¬ ∃ b ∈ bs, b.settings.enable = true) : runBlocks bs g = some (g, true) := by
  induction bs with
  | nil => rfl
  | cons b bs ih =>
    have hb : ¬ b.settings.enable = true := fun henable => h ⟨b, List.mem_cons_self, henable⟩
    have hidle : g.runBlock b = some (g, true) := if_neg hb
    rw [runBlocks, hidle]
    exact ih fun ⟨b', hmem, henable⟩ => h ⟨b', List.mem_cons_of_mem _ hmem, henable⟩

/-! ## The hook -/

/-- No call but a shutdown takes a network away. -/
theorem grows_step {a : GatewayOp} (ha : a ≠ .shutdown) (hs : g.step a = some g') :
    g.externalNetworks <+: g'.externalNetworks := by
  cases a with
  | initialConnections c =>
    obtain ⟨⟨g₁, ok⟩, hrun, rfl⟩ := Option.map_eq_some_iff.mp hs
    exact (grows_runBlocks hrun).external
  | getNewShellConnection inited memory =>
    obtain ⟨⟨id, g₁⟩, hid, rfl⟩ := Option.map_eq_some_iff.mp hs
    have hgrows := grows_getConnectionId hid
    cases inited <;> exact hgrows.external
  | getNewHTTPClientConnection memory | getFileDownloader memory =>
    exact (getNewHTTPClientConnection_eq_some hs).1.external
  | getNewHTTPServerConnection inited memory | getNewWebsocketServerConnection inited memory =>
    obtain ⟨⟨g₁, ok⟩, hnew, rfl⟩ := Option.map_eq_some_iff.mp hs
    exact (newServer_eq_some hnew).1.external
  | generateConnectionId =>
    obtain ⟨⟨id, g₁⟩, hid, rfl⟩ := Option.map_eq_some_iff.mp hs
    exact (grows_getConnectionId hid).external
  | shutdown => exact absurd rfl ha

theorem prefix_runAll : ∀ {calls : List GatewayOp} {g g' : CommunicationGatewayFacade},
    .shutdown ∉ calls → runAll step g calls = some g' →
      g.externalNetworks <+: g'.externalNetworks
  | [], _, _, _, h => by
    cases h
    exact List.prefix_rfl
  | a :: calls, g, g', hcalls, h => by
    obtain ⟨g₁, hs, hrest⟩ := Option.bind_eq_some_iff.mp h
    have ha : a ≠ .shutdown := fun heq => hcalls (heq ▸ List.mem_cons_self)
    exact (grows_step ha hs).trans
      (prefix_runAll (fun hmem => hcalls (List.mem_cons_of_mem _ hmem)) hrest)

/-- The `initDerive` of a derived class that makes these calls. -/
def InitDerive.ofCalls (calls : List GatewayOp) (rt : Bool) (h : .shutdown ∉ calls) :
    InitDerive where
  run g := (runAll step g calls).map fun g' => (g', rt)
  keepsExternal g g' rt' hrun := by
    obtain ⟨g₁, hcalls, heq⟩ := Option.map_eq_some_iff.mp hrun
    cases heq
    exact prefix_runAll h hcalls

/-! ## The poll budget -/

/-- What reaches the division is connected and has run `initDerive`. -/
theorem init_within_iff {settings : SInitSettings Request Command} {initDerive : InitDerive}
    (h : 0 ≤ settings.pollTimeoutMillisec) :
    (init settings initDerive g).WithinBudget settings.pollTimeoutMillisec ↔
      ∀ g₁, g.initialConnections settings.initialConnections = some (g₁, true) →
        ∀ g₂, initDerive.run g₁ = some (g₂, true) → g₂.externalNetworks ≠ [] := by
  unfold init
  rcases g.initialConnections settings.initialConnections with _ | ⟨g₁, _ | _⟩
  · exact iff_of_true trivial fun _ hinitial => by cases hinitial
  · exact iff_of_true trivial fun _ hinitial => by cases hinitial
  · simp only [Option.some.injEq, Prod.mk.injEq, and_true, forall_eq']
    rcases initDerive.run g₁ with _ | ⟨g₂, _ | _⟩
    · exact iff_of_true trivial fun _ hrun => by cases hrun
    · exact iff_of_true trivial fun _ hrun => by cases hrun
    · rw [dividePollTimeout_within_iff h]
      simp only [Option.some.injEq, Prod.mk.injEq, and_true, forall_eq']

/--
**When the poll time-out is divided.**

Exactly when a transport is enabled, or the gateway has a network after `initDerive`, or
`initDerive` does not succeed.
-/
theorem poll_budget_iff (g : CommunicationGatewayFacade)
    (settings : SInitSettings Request Command) (initDerive : InitDerive)
    (h : 0 ≤ settings.pollTimeoutMillisec) :
    (init settings initDerive g).WithinBudget settings.pollTimeoutMillisec ↔
      g.HasNetworkToPoll settings initDerive := by
  rw [init_within_iff h]
  constructor
  · intro hall
    by_cases henabled : ∃ b ∈ settings.initialConnections.blocks, b.settings.enable = true
    · exact Or.inl henabled
    · exact Or.inr (hall g (runBlocks_of_disabled henabled))
  · intro hnet g₁ hinitial g₂ hrun
    by_cases henabled : ∃ b ∈ settings.initialConnections.blocks, b.settings.enable = true
    · have hne := ne_nil_of_enabled hinitial henabled
      exact (initDerive.keepsExternal _ _ _ hrun).ne_nil hne
    · cases (runBlocks_of_disabled henabled).symm.trans hinitial
      exact hnet.resolve_left henabled g₂ hrun

/-- A derived class adds two HTTP servers. -/
theorem poll_budget_of_derived :
    (0 : Int32) ≤ 100 ∧
      (init { pollTimeoutMillisec := 100, factory := fun r : Nat => some r }
        (InitDerive.ofCalls [.getNewHTTPServerConnection true 0, .getNewHTTPServerConnection true 0]
          true (by decide)) {}).WithinBudget 100 :=
  ⟨by decide, (poll_budget_iff {}
    { pollTimeoutMillisec := 100, factory := fun r : Nat => some r } _ (by decide)).mpr
      (Or.inr fun g' hrun => by cases hrun; exact List.cons_ne_nil _ _)⟩

/-- Nothing is enabled, and `initDerive` is not overridden. -/
theorem no_network_to_poll :
    init { pollTimeoutMillisec := 100, factory := fun r : Nat => some r } .base {} =
        .divisionByZero ∧
      ¬ ∀ (settings : SInitSettings Nat Nat) (initDerive : InitDerive),
        0 ≤ settings.pollTimeoutMillisec →
          (init settings initDerive {}).WithinBudget settings.pollTimeoutMillisec := by
  refine ⟨rfl, fun hall => ?_⟩
  exact hall { pollTimeoutMillisec := 100, factory := some } .base (by decide)

end CommunicationGatewayFacade

end MicroserviceCommon
