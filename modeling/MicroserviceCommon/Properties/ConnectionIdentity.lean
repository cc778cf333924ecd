import MicroserviceCommon.Communication.CommunicationGateway

/-!
# Connection identity

A network entity should have the id that was drawn for it, and the gateway should find the entity by
that id. No constructor passes the id to `INetworkEntity`, and nothing is ever entered into the two
maps of the lookup.

* `connections_identified_iff` — ids and lookups are right exactly while the gateway owns nothing
  and the memory of every shell held its id by chance
* `connection_not_found` — an HTTP client
-/

namespace MicroserviceCommon

open Infra

namespace CommunicationGatewayFacade

/-- The entities that the gateway keeps. -/
def owned (g : CommunicationGatewayFacade) : List NetworkEntity :=
  g.clientNetworks ++ g.externalNetworks ++ g.internalNetworks ++ g.initialAmqpClient.toList

/-- Entities have the ids drawn for them, two of them share an id only as an AMQP client and its
controller, and the gateway finds what it owns. -/
structure ConnectionsIdentified (g : CommunicationGatewayFacade) : Prop where
  drawn : ∀ c ∈ g.created, c.1.connId = c.2
  distinct : g.created.Pairwise fun a b => a.1.connId = b.1.connId →
    a.1.entityClass = .amqpClient ∧ b.1.entityClass = .amqpController
  found : ∀ e ∈ g.owned, g.getConnection e.connId = some e

/-- The first block that is enabled fails. -/
def CreatesNothing : List InitialBlock → Prop
  | [] => True
  | b :: bs => if b.settings.enable then b.settings.inited = false else CreatesNothing bs

instance decidableCreatesNothing : ∀ bs : List InitialBlock, Decidable (CreatesNothing bs)
  | [] => isTrue trivial
  | _ :: bs =>
    have := decidableCreatesNothing bs
    inferInstanceAs (Decidable (ite _ _ _))

/-- The gateway gets nothing to own, and a new shell finds its id in the memory. -/
def IdentifiesByChance (g : CommunicationGatewayFacade) : GatewayOp → Prop
  | .initialConnections c => CreatesNothing c.blocks
  | .getNewShellConnection inited memory => inited = true → memory = g.connectionIdGenerator
  | .getNewHTTPServerConnection inited _ | .getNewWebsocketServerConnection inited _ =>
    inited = false
  | .getNewHTTPClientConnection _ | .getFileDownloader _ => False
  | .generateConnectionId | .shutdown => True

/-! ## Ids -/

/-- **No class initialises its virtual base, so the id is what the memory held.** -/
theorem constructedConnId_initialisers (entityClass : EntityClass) (id memory : TConnectionId) :
    constructedConnId memory (entityClass.initialisers id) = memory := by
  cases entityClass <;> rfl

variable {g g' : CommunicationGatewayFacade}

@[simp] theorem connId_makeShared (entityClass : EntityClass) (id memory : TConnectionId) :
    (g.makeShared entityClass id memory).connId = memory :=
  constructedConnId_initialisers entityClass id memory

/-! ## What a creation leaves -/

/-- Nothing is taken away, and the maps of the lookup stay. -/
structure Grows (g g' : CommunicationGatewayFacade) : Prop where
  internalById : g'.internalNetworksById = g.internalNetworksById
  externalById : g'.externalNetworksById = g.externalNetworksById
  external : g.externalNetworks <+: g'.externalNetworks

theorem Grows.refl (g : CommunicationGatewayFacade) : Grows g g :=
  ⟨rfl, rfl, List.prefix_rfl⟩

theorem Grows.trans {g'' : CommunicationGatewayFacade} (h : Grows g g') (h' : Grows g' g'') :
    Grows g g'' :=
  ⟨h'.internalById.trans h.internalById, h'.externalById.trans h.externalById,
    h.external.trans h'.external⟩

theorem Grows.ne_nil (h : Grows g g') (hne : g.externalNetworks ≠ []) :
    g'.externalNetworks ≠ [] := h.external.ne_nil hne

theorem grows_getConnectionId {id : TConnectionId} (h : g.getConnectionId = some (id, g')) :
    Grows g g' := by
  obtain ⟨_, rfl, _⟩ := getConnectionId_eq_some h
  exact ⟨rfl, rfl, List.prefix_rfl⟩

/-- A server that is created is stored when its `init` succeeds. -/
theorem newServer_eq_some {entityClass : EntityClass} {inited ok : Bool} {memory : TConnectionId}
    (h : g.newServer entityClass inited memory = some (g', ok)) :
    Grows g g' ∧ ok = inited ∧ (inited = true → g'.externalNetworks ≠ []) ∧
      (inited = false → ∃ id, g.getConnectionId = some (id, g')) := by
  obtain ⟨⟨id, g₁⟩, hid, heq⟩ := Option.map_eq_some_iff.mp h
  have hgrows := grows_getConnectionId hid
  cases inited with
  | true =>
    cases heq
    refine ⟨⟨hgrows.internalById, hgrows.externalById, hgrows.external.trans ?_⟩, rfl, ?_, ?_⟩
    · exact List.prefix_append ..
    · exact fun _ => List.append_ne_nil_of_right_ne_nil _ (List.cons_ne_nil _ _)
    · exact fun hf => absurd hf (by decide)
  | false =>
    cases heq
    exact ⟨hgrows, rfl, fun hf => absurd hf (by decide), fun _ => ⟨id, hid⟩⟩

theorem newController_grows (client : NetworkEntity) (id : TConnectionId) (c : InitialConnection) :
    Grows g (g.newController client id c).1 := by
  unfold newController
  split
  · exact ⟨rfl, rfl, List.prefix_rfl⟩
  · exact Grows.refl g

/-- The client is stored when its `init` succeeds, whatever the controller does. -/
theorem newAmqpClient_eq_some {c controller : InitialConnection} {ok : Bool}
    (h : g.newAmqpClient c controller = some (g', ok)) :
    Grows g g' ∧ (c.inited = true → g'.externalNetworks ≠ []) ∧
      (c.inited = false → ok = false ∧ ∃ id, g.getConnectionId = some (id, g')) := by
  obtain ⟨⟨id, g₁⟩, hid, heq⟩ := Option.map_eq_some_iff.mp h
  have hgrows := grows_getConnectionId hid
  cases hinited : c.inited with
  | true =>
    simp only [hinited, if_true] at heq
    have hcontroller := congrArg Prod.fst heq ▸ newController_grows _ _ controller
    refine ⟨⟨hcontroller.internalById.trans hgrows.internalById,
      hcontroller.externalById.trans hgrows.externalById,
      (hgrows.external.trans (List.prefix_append ..)).trans hcontroller.external⟩, ?_, ?_⟩
    · intro _
      exact hcontroller.ne_nil (List.append_ne_nil_of_right_ne_nil _ (List.cons_ne_nil _ _))
    · exact fun hf => absurd hf (by decide)
  | false =>
    simp only [hinited, Bool.false_eq_true, if_false] at heq
    cases heq
    exact ⟨hgrows, fun hf => absurd hf (by decide), fun _ => ⟨rfl, id, hid⟩⟩

/-- **A block is idle, or it stores an entity, or it fails.** -/
theorem runBlock_eq_some {b : InitialBlock} {ok : Bool} (h : g.runBlock b = some (g', ok)) :
    Grows g g' ∧
      (b.settings.enable = false → g' = g ∧ ok = true) ∧
      (b.settings.enable = true → b.settings.inited = true → g'.externalNetworks ≠ []) ∧
      (b.settings.enable = true → b.settings.inited = false →
        ok = false ∧ ∃ id, g.getConnectionId = some (id, g')) := by
  unfold runBlock at h
  split at h
  · next henable =>
    have hidle : b.settings.enable = false → g' = g ∧ ok = true := fun hf => by
      rw [henable] at hf
      cases hf
    cases b with
    | server entityClass c =>
      obtain ⟨hgrows, rfl, hstored, hfailed⟩ := newServer_eq_some h
      exact ⟨hgrows, hidle, fun _ => hstored, fun _ hf => ⟨hf, hfailed hf⟩⟩
    | amqp c controller =>
      obtain ⟨hgrows, hstored, hfailed⟩ := newAmqpClient_eq_some h
      exact ⟨hgrows, hidle, fun _ => hstored, fun _ => hfailed⟩
  · next henable =>
    cases h
    exact ⟨Grows.refl g, fun _ => ⟨rfl, rfl⟩, fun he => absurd he henable,
      fun he => absurd he henable⟩

theorem grows_runBlocks :
    ∀ {bs : List InitialBlock} {g g' : CommunicationGatewayFacade} {ok : Bool},
    runBlocks bs g = some (g', ok) → Grows g g'
  | [], _, _, _, h => by
    cases h
    exact Grows.refl _
  | b :: bs, g, g', ok, h => by
    obtain ⟨⟨g₁, ok₁⟩, hb, hrest⟩ := Option.bind_eq_some_iff.mp h
    have hgrows := (runBlock_eq_some hb).1
    cases ok₁ with
    | true => exact hgrows.trans (grows_runBlocks hrest)
    | false =>
      cases hrest
      exact hgrows

/-- **Blocks that do not create nothing leave something.** -/
theorem externalNetworks_runBlocks : ∀ {bs : List InitialBlock}
    {g g' : CommunicationGatewayFacade} {ok : Bool}, runBlocks bs g = some (g', ok) →
      ¬ CreatesNothing bs → g'.externalNetworks ≠ []
  | [], _, _, _, _, hc => absurd trivial hc
  | b :: bs, g, g', ok, h, hc => by
    obtain ⟨⟨g₁, ok₁⟩, hb, hrest⟩ := Option.bind_eq_some_iff.mp h
    obtain ⟨_, hidle, hstored, _⟩ := runBlock_eq_some hb
    rw [CreatesNothing] at hc
    cases henable : b.settings.enable with
    | true =>
      rw [henable, if_pos rfl, Bool.not_eq_false] at hc
      have hne := hstored henable hc
      cases ok₁ with
      | true => exact (grows_runBlocks hrest).ne_nil hne
      | false =>
        cases hrest
        exact hne
    | false =>
      rw [henable, if_neg Bool.false_ne_true] at hc
      obtain ⟨rfl, rfl⟩ := hidle henable
      exact externalNetworks_runBlocks hrest hc

/-- **Blocks that create nothing draw one id at most.** -/
theorem runBlocks_of_createsNothing : ∀ {bs : List InitialBlock}
    {g g' : CommunicationGatewayFacade} {ok : Bool}, runBlocks bs g = some (g', ok) →
      CreatesNothing bs → g' = g ∨ ∃ id, g.getConnectionId = some (id, g')
  | [], _, _, _, h, _ => by
    cases h
    exact Or.inl rfl
  | b :: bs, g, g', ok, h, hc => by
    obtain ⟨⟨g₁, ok₁⟩, hb, hrest⟩ := Option.bind_eq_some_iff.mp h
    obtain ⟨_, hidle, _, hfailed⟩ := runBlock_eq_some hb
    rw [CreatesNothing] at hc
    cases henable : b.settings.enable with
    | true =>
      rw [henable, if_pos rfl] at hc
      obtain ⟨rfl, hid⟩ := hfailed henable hc
      cases hrest
      exact Or.inr hid
    | false =>
      rw [henable, if_neg Bool.false_ne_true] at hc
      obtain ⟨rfl, rfl⟩ := hidle henable
      exact runBlocks_of_createsNothing hrest hc

/-! ## The invariant -/

/-- The lookup finds nothing, nothing is owned, and the created shells have their ids. -/
structure Unowned (g : CommunicationGatewayFacade) : Prop where
  internalById : g.internalNetworksById = UnorderedMap.empty
  externalById : g.externalNetworksById = UnorderedMap.empty
  owned : g.owned = []
  drawn : ∀ c ∈ g.created, c.1.connId = c.2
  below : ∀ c ∈ g.created, c.2.toInt < g.connectionIdGenerator.toInt
  distinct : g.created.Pairwise fun a b => a.2 ≠ b.2

namespace Unowned

theorem initial : Unowned {} where
  internalById := rfl
  externalById := rfl
  owned := rfl
  drawn := fun _ h => absurd h List.not_mem_nil
  below := fun _ h => absurd h List.not_mem_nil
  distinct := List.Pairwise.nil

theorem identified (h : Unowned g) : ConnectionsIdentified g where
  drawn := h.drawn
  distinct := by
    refine h.distinct.imp_of_mem fun ha hb hne heq => ?_
    rw [h.drawn _ ha, h.drawn _ hb] at heq
    exact absurd heq hne
  found := fun e he => by
    rw [h.owned] at he
    exact absurd he List.not_mem_nil

theorem getConnectionId (h : Unowned g) {id : TConnectionId}
    (hid : g.getConnectionId = some (id, g')) : Unowned g' := by
  obtain ⟨rfl, rfl, hnext⟩ := getConnectionId_eq_some hid
  refine { h with below := fun c hc => ?_ }
  have hbelow := h.below c hc
  omega

/-- A shell that has its id. -/
theorem recordShell (h : Unowned g) {id : TConnectionId}
    (hid : g.getConnectionId = some (id, g')) :
    Unowned (g'.record (g'.makeShared .shell id id) id) := by
  have h' := h.getConnectionId hid
  obtain ⟨rfl, rfl, hnext⟩ := getConnectionId_eq_some hid
  refine { h' with drawn := ?_, below := ?_, distinct := ?_ }
  · intro c hc
    rcases List.mem_append.mp hc with hc | hc
    · exact h.drawn c hc
    · rw [List.mem_singleton.mp hc]
      exact connId_makeShared ..
  · intro c hc
    rcases List.mem_append.mp hc with hc | hc
    · exact h'.below c hc
    · rw [List.mem_singleton.mp hc]
      exact hnext ▸ Int.lt_succ _
  · refine List.pairwise_append.mpr ⟨h.distinct, List.pairwise_singleton .., ?_⟩
    intro a ha b hb heq
    rw [List.mem_singleton.mp hb] at heq
    have hbelow := h.below a ha
    rw [heq] at hbelow
    exact absurd hbelow (Int.lt_irrefl _)

theorem shutdown (h : Unowned g) : Unowned g.shutdown := by
  have howned : g.clientNetworks = [] ∧ g.initialAmqpClient.toList = [] := by
    have hnil := h.owned
    simp only [CommunicationGatewayFacade.owned, List.append_eq_nil_iff] at hnil
    exact ⟨hnil.1.1.1, hnil.2⟩
  refine { h with owned := ?_ }
  show g.clientNetworks ++ [] ++ [] ++ g.initialAmqpClient.toList = []
  rw [howned.1, howned.2]
  rfl

end Unowned

/-! ## Steps -/

/-- A client is stored whatever happens. -/
theorem getNewHTTPClientConnection_eq_some {memory : TConnectionId}
    (h : g.getNewHTTPClientConnection memory = some g') :
    Grows g g' ∧ g'.clientNetworks ≠ [] := by
  obtain ⟨⟨id, g₁⟩, hid, rfl⟩ := Option.map_eq_some_iff.mp h
  have hgrows := grows_getConnectionId hid
  exact ⟨⟨hgrows.internalById, hgrows.externalById, hgrows.external⟩,
    List.append_ne_nil_of_right_ne_nil _ (List.cons_ne_nil _ _)⟩

/-- No step enters anything into the maps of the lookup. -/
theorem maps_step {a : GatewayOp} (hs : g.step a = some g') :
    g'.internalNetworksById = g.internalNetworksById ∧
      g'.externalNetworksById = g.externalNetworksById := by
  cases a with
  | initialConnections c =>
    obtain ⟨⟨g₁, ok⟩, hrun, rfl⟩ := Option.map_eq_some_iff.mp hs
    exact ⟨(grows_runBlocks hrun).internalById, (grows_runBlocks hrun).externalById⟩
  | getNewShellConnection inited memory =>
    obtain ⟨⟨id, g₁⟩, hid, rfl⟩ := Option.map_eq_some_iff.mp hs
    have hgrows := grows_getConnectionId hid
    cases inited <;> exact ⟨hgrows.internalById, hgrows.externalById⟩
  | getNewHTTPClientConnection memory | getFileDownloader memory =>
    have hgrows := (getNewHTTPClientConnection_eq_some hs).1
    exact ⟨hgrows.internalById, hgrows.externalById⟩
  | getNewHTTPServerConnection inited memory | getNewWebsocketServerConnection inited memory =>
    obtain ⟨⟨g₁, ok⟩, hnew, rfl⟩ := Option.map_eq_some_iff.mp hs
    have hgrows := (newServer_eq_some hnew).1
    exact ⟨hgrows.internalById, hgrows.externalById⟩
  | generateConnectionId =>
    obtain ⟨⟨id, g₁⟩, hid, rfl⟩ := Option.map_eq_some_iff.mp hs
    exact ⟨(grows_getConnectionId hid).internalById, (grows_getConnectionId hid).externalById⟩
  | shutdown =>
    cases hs
    exact ⟨rfl, rfl⟩

/-- **What is identified by chance leaves the gateway without connections.** -/
theorem Unowned.step (h : Unowned g) {a : GatewayOp} (ha : g.IdentifiesByChance a)
    (hs : g.step a = some g') : Unowned g' := by
  cases a with
  | initialConnections c =>
    obtain ⟨⟨g₁, ok⟩, hrun, rfl⟩ := Option.map_eq_some_iff.mp hs
    rcases runBlocks_of_createsNothing hrun ha with rfl | ⟨id, hid⟩
    · exact h
    · exact h.getConnectionId hid
  | getNewShellConnection inited memory =>
    obtain ⟨⟨id, g₁⟩, hid, rfl⟩ := Option.map_eq_some_iff.mp hs
    cases inited with
    | true =>
      have hmemory : memory = id := (ha rfl).trans (getConnectionId_eq_some hid).1.symm
      rw [hmemory]
      exact h.recordShell hid
    | false => exact h.getConnectionId hid
  | getNewHTTPClientConnection memory | getFileDownloader memory => exact absurd ha id
  | getNewHTTPServerConnection inited memory | getNewWebsocketServerConnection inited memory =>
    obtain ⟨⟨g₁, ok⟩, hnew, rfl⟩ := Option.map_eq_some_iff.mp hs
    obtain ⟨id, hid⟩ := (newServer_eq_some hnew).2.2.2 ha
    exact h.getConnectionId hid
  | generateConnectionId =>
    obtain ⟨⟨id, g₁⟩, hid, rfl⟩ := Option.map_eq_some_iff.mp hs
    exact h.getConnectionId hid
  | shutdown =>
    cases hs
    exact h.shutdown

/-- What the gateway owns is not found. -/
theorem ConnectionsIdentified.owned_eq_nil (h : ConnectionsIdentified g)
    (hinternal : g.internalNetworksById = UnorderedMap.empty)
    (hexternal : g.externalNetworksById = UnorderedMap.empty) : g.owned = [] := by
  refine List.eq_nil_iff_forall_not_mem.mpr fun e he => ?_
  have hfound := h.found e he
  rw [getConnection, hinternal, hexternal] at hfound
  cases hfound

theorem clientNetworks_of_owned (h : g.owned = []) :
    g.clientNetworks = [] ∧ g.externalNetworks = [] := by
  rw [owned, List.append_eq_nil_iff, List.append_eq_nil_iff, List.append_eq_nil_iff] at h
  exact h.1.1

/-- **Only what is identified by chance leads to identified connections.** -/
theorem Unowned.identifiesByChance (h : Unowned g) {a : GatewayOp} (hs : g.step a = some g')
    (h' : ConnectionsIdentified g') : g.IdentifiesByChance a := by
  obtain ⟨hinternal, hexternal⟩ := maps_step hs
  obtain ⟨hclient, hserver⟩ := clientNetworks_of_owned (h'.owned_eq_nil
    (hinternal.trans h.internalById) (hexternal.trans h.externalById))
  cases a with
  | initialConnections c =>
    obtain ⟨⟨g₁, ok⟩, hrun, rfl⟩ := Option.map_eq_some_iff.mp hs
    by_contra hsome
    exact externalNetworks_runBlocks hrun hsome hserver
  | getNewShellConnection inited memory =>
    rintro rfl
    obtain ⟨⟨id, g₁⟩, hid, rfl⟩ := Option.map_eq_some_iff.mp hs
    have hdrawn := h'.drawn _ (List.mem_append_right _ List.mem_cons_self)
    rw [connId_makeShared] at hdrawn
    exact hdrawn.trans (getConnectionId_eq_some hid).1
  | getNewHTTPClientConnection memory | getFileDownloader memory =>
    exact absurd hclient (getNewHTTPClientConnection_eq_some hs).2
  | getNewHTTPServerConnection inited memory | getNewWebsocketServerConnection inited memory =>
    obtain ⟨⟨g₁, ok⟩, hnew, rfl⟩ := Option.map_eq_some_iff.mp hs
    refine Bool.eq_false_iff.mpr fun hinited => ?_
    exact (newServer_eq_some hnew).2.2.1 hinited hserver
  | generateConnectionId | shutdown => trivial

/--
**When connections have their ids and are found by them.**

In every state of a run, exactly when no step gives the gateway a connection to own, and a new shell
finds the id that was drawn for it in its memory.
-/
theorem connections_identified_iff (ops : List GatewayOp) :
    AlwaysState step ConnectionsIdentified {} ops ↔ AlwaysStep step IdentifiesByChance {} ops :=
  alwaysState_iff_of_inv step Unowned (fun _ h => h.identified) (fun _ _ _ h ha hs => h.step ha hs)
    (fun _ _ _ h hs h' => h.identifiesByChance hs h') ops {} Unowned.initial

/-- The memory of the client held 77. Its drawn id is 0, and no id finds it. -/
theorem connection_not_found :
    ∃ g client, runAll step {} [.getNewHTTPClientConnection 77] = some g ∧ client ∈ g.owned ∧
      (client, 0) ∈ g.created ∧ client.connId = 77 ∧ g.getConnection client.connId = none ∧
      ¬ AlwaysState step ConnectionsIdentified {} [.getNewHTTPClientConnection 77] := by
  refine ⟨_, _, rfl, List.mem_cons_self, List.mem_cons_self, rfl, rfl, fun h => ?_⟩
  have hfound := (h.last rfl).found _ List.mem_cons_self
  cases hfound

end CommunicationGatewayFacade

end MicroserviceCommon
