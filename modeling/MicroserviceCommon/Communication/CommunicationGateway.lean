import MicroserviceCommon.Infra.Run
import MicroserviceCommon.Infra.UnorderedMap
import MicroserviceCommon.Communication.NetworkInterface

/-!
# `CommunicationGatewayFacade`

The connections of the gateway: their creation, who keeps them, and the lookup by id.

`INetworkEntity` is a virtual base of every network class. It is constructed by the most derived
class, and the initialisers that `INetworkProvider` and `INetworkClient` have for it are ignored
then. An object is known by a number. Whether its `init` succeeds is an argument, and so is what the
memory of its `m_connId` held before.

`none` is the overflow of the id generator.
-/

namespace MicroserviceCommon

open Infra

/-! ## Network entities -/

inductive EntityClass where
  | shell | webServer | amqpClient | amqpController | websocketServer | objreprListener | httpClient
  deriving DecidableEq, Repr

/-- A base class in the initialiser list of a constructor. -/
inductive BaseInitialiser where
  | networkEntity (id : TConnectionId)
  | networkProvider (id : TConnectionId)
  | networkClient (id : TConnectionId)
  deriving DecidableEq, Repr

def BaseInitialiser.networkEntity? : BaseInitialiser → Option TConnectionId
  | networkEntity id => some id
  | networkProvider _ | networkClient _ => none

/-- The initialiser lists of the constructors. -/
def EntityClass.initialisers (id : TConnectionId) : EntityClass → List BaseInitialiser
  | shell => [.networkProvider id, .networkClient id]
  | webServer => [.networkProvider id]
  | amqpClient => [.networkProvider id, .networkClient id]
  | amqpController => [.networkClient id, .networkProvider id]
  | websocketServer => [.networkProvider id, .networkClient id]
  | objreprListener => [.networkProvider id, .networkClient id]
  | httpClient => [.networkClient id]

/-- `m_connId` after the constructor. The default constructor of `INetworkEntity` leaves the
memory. -/
def constructedConnId (memory : TConnectionId) (initialisers : List BaseInitialiser) :
    TConnectionId :=
  (initialisers.findSome? BaseInitialiser.networkEntity?).getD memory

structure NetworkEntity where
  object : Nat
  entityClass : EntityClass
  connId : TConnectionId
  deriving DecidableEq, Repr

/-! ## The gateway -/

/-- `created` are the entities that were handed out or stored, each with the id that was drawn for
it. -/
structure CommunicationGatewayFacade where
  connectionIdGenerator : TConnectionId := 0
  clientNetworks : List NetworkEntity := []
  externalNetworks : List NetworkEntity := []
  externalNetworksById : UnorderedMap TConnectionId NetworkEntity := UnorderedMap.empty
  internalNetworks : List NetworkEntity := []
  internalNetworksById : UnorderedMap TConnectionId NetworkEntity := UnorderedMap.empty
  initialAmqpClient : Option NetworkEntity := none
  created : List (NetworkEntity × TConnectionId) := []

/-- The parameters of one initial connection, with the result of its `init`. -/
structure InitialConnection where
  enable : Bool := false
  inited : Bool := true
  memory : TConnectionId := 0
  deriving DecidableEq, Repr

/-- `SInitSettings`, and how the library was built. -/
structure InitialConnections where
  shell : InitialConnection := {}
  httpServer : InitialConnection := {}
  amqp : InitialConnection := {}
  amqpController : InitialConnection := {}
  websocketServer : InitialConnection := {}
  objrepr : InitialConnection := {}
  astra : Bool := false
  objreprLibraryExist : Bool := true
  deriving DecidableEq, Repr

/-- A block of `initialConnections`. -/
inductive InitialBlock where
  | server (entityClass : EntityClass) (c : InitialConnection)
  | amqp (c controller : InitialConnection)
  deriving DecidableEq, Repr

def InitialBlock.settings : InitialBlock → InitialConnection
  | server _ c | amqp c _ => c

/-- The blocks in their order. -/
def InitialConnections.blocks (c : InitialConnections) : List InitialBlock :=
  [.server .shell c.shell, .server .webServer c.httpServer, .amqp c.amqp c.amqpController] ++
    (if c.astra then [] else [.server .websocketServer c.websocketServer]) ++
    if c.objreprLibraryExist then [.server .objreprListener c.objrepr] else []

namespace CommunicationGatewayFacade

def getConnectionId (g : CommunicationGatewayFacade) :
    Option (TConnectionId × CommunicationGatewayFacade) :=
  if g.connectionIdGenerator = Int64.maxValue then none
  else
    some (g.connectionIdGenerator, { g with connectionIdGenerator := g.connectionIdGenerator + 1 })

/-- `std::make_shared` -/
def makeShared (g : CommunicationGatewayFacade) (entityClass : EntityClass) (id : TConnectionId)
    (memory : TConnectionId) : NetworkEntity where
  object := g.created.length
  entityClass := entityClass
  connId := constructedConnId memory (entityClass.initialisers id)

/-- The entity outlives the function that made it. -/
def record (g : CommunicationGatewayFacade) (e : NetworkEntity) (id : TConnectionId) :
    CommunicationGatewayFacade :=
  { g with created := g.created ++ [(e, id)] }

def pushExternal (g : CommunicationGatewayFacade) (e : NetworkEntity) :
    CommunicationGatewayFacade :=
  { g with externalNetworks := g.externalNetworks ++ [e] }

def pushClient (g : CommunicationGatewayFacade) (e : NetworkEntity) :
    CommunicationGatewayFacade :=
  { g with clientNetworks := g.clientNetworks ++ [e] }

/-! ### New connections -/

/-- The shell goes to the caller only. -/
def getNewShellConnection (inited : Bool) (memory : TConnectionId)
    (g : CommunicationGatewayFacade) : Option CommunicationGatewayFacade :=
  g.getConnectionId.map fun (id, g) =>
    if inited then g.record (g.makeShared .shell id memory) id else g

/-- `init` is not called. -/
def getNewHTTPClientConnection (memory : TConnectionId) (g : CommunicationGatewayFacade) :
    Option CommunicationGatewayFacade :=
  g.getConnectionId.map fun (id, g) =>
    let httpClient := g.makeShared .httpClient id memory
    (g.record httpClient id).pushClient httpClient

/-- A server that is created, inited and observed. The flag is that of `init`. -/
def newServer (entityClass : EntityClass) (inited : Bool) (memory : TConnectionId)
    (g : CommunicationGatewayFacade) : Option (CommunicationGatewayFacade × Bool) :=
  g.getConnectionId.map fun (id, g) =>
    let server := g.makeShared entityClass id memory
    if inited then ((g.record server id).pushExternal server, true) else (g, false)

def getNewHTTPServerConnection (inited : Bool) (memory : TConnectionId)
    (g : CommunicationGatewayFacade) : Option CommunicationGatewayFacade :=
  (g.newServer .webServer inited memory).map (·.1)

def getNewWebsocketServerConnection (inited : Bool) (memory : TConnectionId)
    (g : CommunicationGatewayFacade) : Option CommunicationGatewayFacade :=
  (g.newServer .websocketServer inited memory).map (·.1)

/-- The same as a new HTTP client. -/
def getFileDownloader (memory : TConnectionId) (g : CommunicationGatewayFacade) :
    Option CommunicationGatewayFacade :=
  g.getNewHTTPClientConnection memory

/-! ### Initial connections -/

/-- The controller gets the id of its client. -/
def newController (client : NetworkEntity) (id : TConnectionId) (c : InitialConnection)
    (g : CommunicationGatewayFacade) : CommunicationGatewayFacade × Bool :=
  let controller := g.makeShared .amqpController client.connId c.memory
  if c.inited then ((g.record controller id).pushClient controller, true) else (g, false)

def newAmqpClient (c controller : InitialConnection) (g : CommunicationGatewayFacade) :
    Option (CommunicationGatewayFacade × Bool) :=
  g.getConnectionId.map fun (id, g) =>
    let amqpClient := g.makeShared .amqpClient id c.memory
    if c.inited then
      newController amqpClient id controller
        { (g.record amqpClient id).pushExternal amqpClient with
          initialAmqpClient := some amqpClient }
    else (g, false)

def runBlock (g : CommunicationGatewayFacade) (b : InitialBlock) :
    Option (CommunicationGatewayFacade × Bool) :=
  if b.settings.enable then
    match b with
    | .server entityClass c => g.newServer entityClass c.inited c.memory
    | .amqp c controller => g.newAmqpClient c controller
  else some (g, true)

/-- A block that fails ends the function. -/
def runBlocks : List InitialBlock → CommunicationGatewayFacade →
    Option (CommunicationGatewayFacade × Bool)
  | [], g => some (g, true)
  | b :: bs, g => (g.runBlock b).bind fun (g, ok) => if ok then runBlocks bs g else some (g, false)

def initialConnections (c : InitialConnections) (g : CommunicationGatewayFacade) :
    Option (CommunicationGatewayFacade × Bool) :=
  runBlocks c.blocks g

/-! ### The lookup -/

def getConnection (g : CommunicationGatewayFacade) (connId : TConnectionId) :
    Option NetworkEntity :=
  (g.internalNetworksById connId).or (g.externalNetworksById connId)

/-- The client networks are not cleared. -/
def shutdown (g : CommunicationGatewayFacade) : CommunicationGatewayFacade :=
  { g with externalNetworks := [], internalNetworks := [] }

end CommunicationGatewayFacade

/-! ## Steps -/

inductive GatewayOp where
  | initialConnections (c : InitialConnections)
  | getNewShellConnection (inited : Bool) (memory : TConnectionId)
  | getNewHTTPClientConnection (memory : TConnectionId)
  | getNewHTTPServerConnection (inited : Bool) (memory : TConnectionId)
  | getNewWebsocketServerConnection (inited : Bool) (memory : TConnectionId)
  | getFileDownloader (memory : TConnectionId)
  | generateConnectionId
  | shutdown
  deriving DecidableEq, Repr

namespace CommunicationGatewayFacade

/-- `generateConnectionId` is the function that a websocket server calls for its clients. -/
def step (g : CommunicationGatewayFacade) : GatewayOp → Option CommunicationGatewayFacade
  | .initialConnections c => (g.initialConnections c).map (·.1)
  | .getNewShellConnection inited memory => g.getNewShellConnection inited memory
  | .getNewHTTPClientConnection memory => g.getNewHTTPClientConnection memory
  | .getNewHTTPServerConnection inited memory => g.getNewHTTPServerConnection inited memory
  | .getNewWebsocketServerConnection inited memory =>
    g.getNewWebsocketServerConnection inited memory
  | .getFileDownloader memory => g.getFileDownloader memory
  | .generateConnectionId => g.getConnectionId.map (·.2)
  | .shutdown => some g.shutdown

/-! ## Ids are drawn upwards -/

variable {g g' : CommunicationGatewayFacade}

theorem getConnectionId_eq_some {id : TConnectionId} (h : g.getConnectionId = some (id, g')) :
    id = g.connectionIdGenerator ∧
      g' = { g with connectionIdGenerator := g.connectionIdGenerator + 1 } ∧
      g'.connectionIdGenerator.toInt = id.toInt + 1 := by
  unfold getConnectionId at h
  split at h
  · cases h
  · next hmax =>
    cases h
    refine ⟨rfl, rfl, ?_⟩
    have hne : g.connectionIdGenerator.toInt ≠ Int64.maxValue.toInt := fun he =>
      hmax (Int64.toInt_inj.mp he)
    have hmaxValue : Int64.maxValue.toInt = 2 ^ 63 - 1 := by decide
    have hone : (1 : Int64).toInt = 1 := by decide
    have hlt := g.connectionIdGenerator.toInt_lt
    have hmin := g.connectionIdGenerator.le_toInt
    rw [Int64.toInt_add, hone]
    exact Int.bmod_eq_of_le (by omega) (by omega)

/-- The generator does not go back, and it moves when something is created. -/
structure Draws (g g' : CommunicationGatewayFacade) : Prop where
  le : g.connectionIdGenerator.toInt ≤ g'.connectionIdGenerator.toInt
  lt : g'.created ≠ g.created → g.connectionIdGenerator.toInt < g'.connectionIdGenerator.toInt

theorem Draws.refl (g : CommunicationGatewayFacade) : Draws g g :=
  ⟨Int.le_refl _, fun h => absurd rfl h⟩

theorem Draws.of_lt (h : g.connectionIdGenerator.toInt < g'.connectionIdGenerator.toInt) :
    Draws g g' :=
  ⟨Int.le_of_lt h, fun _ => h⟩

theorem Draws.trans {g'' : CommunicationGatewayFacade} (h : Draws g g') (h' : Draws g' g'') :
    Draws g g'' := by
  refine ⟨Int.le_trans h.le h'.le, fun hne => ?_⟩
  by_cases hg : g'.created = g.created
  · exact Int.lt_of_le_of_lt h.le (h'.lt (hg ▸ hne))
  · exact Int.lt_of_lt_of_le (h.lt hg) h'.le

theorem lt_of_getConnectionId {id : TConnectionId} (h : g.getConnectionId = some (id, g')) :
    g.connectionIdGenerator.toInt < g'.connectionIdGenerator.toInt := by
  obtain ⟨rfl, _, hnext⟩ := getConnectionId_eq_some h
  omega

theorem draws_newServer {entityClass : EntityClass} {inited ok : Bool} {memory : TConnectionId}
    (h : g.newServer entityClass inited memory = some (g', ok)) : Draws g g' := by
  obtain ⟨⟨id, g₁⟩, hid, heq⟩ := Option.map_eq_some_iff.mp h
  have hlt := lt_of_getConnectionId hid
  cases inited <;> cases heq <;> exact Draws.of_lt hlt

theorem generator_newController (client : NetworkEntity) (id : TConnectionId)
    (c : InitialConnection) :
    (g.newController client id c).1.connectionIdGenerator = g.connectionIdGenerator := by
  unfold newController
  split <;> rfl

theorem draws_newAmqpClient {c controller : InitialConnection} {ok : Bool}
    (h : g.newAmqpClient c controller = some (g', ok)) : Draws g g' := by
  obtain ⟨⟨id, g₁⟩, hid, heq⟩ := Option.map_eq_some_iff.mp h
  have hlt := lt_of_getConnectionId hid
  refine Draws.of_lt ?_
  simp only at heq
  split at heq
  · have hgenerator := congrArg (fun r => r.1.connectionIdGenerator) heq
    rw [generator_newController] at hgenerator
    exact hgenerator ▸ hlt
  · cases heq
    exact hlt

theorem draws_runBlock {b : InitialBlock} {ok : Bool} (h : g.runBlock b = some (g', ok)) :
    Draws g g' := by
  unfold runBlock at h
  split at h
  · cases b with
    | server entityClass c => exact draws_newServer h
    | amqp c controller => exact draws_newAmqpClient h
  · cases h
    exact Draws.refl g

theorem draws_runBlocks :
    ∀ {bs : List InitialBlock} {g g' : CommunicationGatewayFacade} {ok : Bool},
    runBlocks bs g = some (g', ok) → Draws g g'
  | [], _, _, _, h => by
    cases h
    exact Draws.refl _
  | b :: bs, g, g', ok, h => by
    obtain ⟨⟨g₁, ok₁⟩, hb, hrest⟩ := Option.bind_eq_some_iff.mp h
    cases ok₁ with
    | true => exact (draws_runBlock hb).trans (draws_runBlocks hrest)
    | false =>
      cases hrest
      exact draws_runBlock hb

/-- **Every step draws upwards.** -/
theorem draws_step {a : GatewayOp} (hs : g.step a = some g') : Draws g g' := by
  cases a with
  | initialConnections c =>
    obtain ⟨⟨g₁, ok⟩, hrun, rfl⟩ := Option.map_eq_some_iff.mp hs
    exact draws_runBlocks hrun
  | getNewShellConnection inited memory =>
    obtain ⟨⟨id, g₁⟩, hid, rfl⟩ := Option.map_eq_some_iff.mp hs
    have hlt := lt_of_getConnectionId hid
    cases inited <;> exact Draws.of_lt hlt
  | getNewHTTPClientConnection memory | getFileDownloader memory =>
    obtain ⟨⟨id, g₁⟩, hid, rfl⟩ := Option.map_eq_some_iff.mp hs
    have hlt := lt_of_getConnectionId hid
    exact Draws.of_lt hlt
  | getNewHTTPServerConnection inited memory | getNewWebsocketServerConnection inited memory =>
    obtain ⟨⟨g₁, ok⟩, hnew, rfl⟩ := Option.map_eq_some_iff.mp hs
    exact draws_newServer hnew
  | generateConnectionId =>
    obtain ⟨⟨id, g₁⟩, hid, rfl⟩ := Option.map_eq_some_iff.mp hs
    exact Draws.of_lt (lt_of_getConnectionId hid)
  | shutdown =>
    cases hs
    exact ⟨Int.le_refl _, fun h => absurd rfl h⟩

/-- **Once the gateway has created something, it draws positive ids.** -/
theorem generator_pos_of_created {ops : List GatewayOp} (h : runAll step {} ops = some g)
    (hcreated : g.created ≠ []) : 0 < g.connectionIdGenerator.toInt := by
  have hzero : (0 : TConnectionId).toInt = 0 := by decide
  have hrun : 0 ≤ g.connectionIdGenerator.toInt ∧
      (g.created ≠ [] → 0 < g.connectionIdGenerator.toInt) := by
    refine of_runAll (fun g => 0 ≤ g.connectionIdGenerator.toInt ∧
      (g.created ≠ [] → 0 < g.connectionIdGenerator.toInt)) ?_ ?_ h
    · rintro g a g' ⟨hnonneg, hpos⟩ hs
      have hdraws := draws_step hs
      refine ⟨Int.le_trans hnonneg hdraws.le, fun hne => ?_⟩
      by_cases hsame : g'.created = g.created
      · exact Int.lt_of_lt_of_le (hpos (hsame ▸ hne)) hdraws.le
      · exact Int.lt_of_le_of_lt hnonneg (hdraws.lt hsame)
    · exact ⟨Int.le_of_eq hzero.symm, fun hne => absurd rfl hne⟩
  exact hrun.2 hcreated

end CommunicationGatewayFacade

end MicroserviceCommon
