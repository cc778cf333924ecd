import MicroserviceCommon.Communication.CommunicationGateway

/-!
# `CommunicationGatewayFacade::init`

The requests that are known at start become commands, the connections are created, and the poll
time-out is divided among the external networks.
-/

namespace MicroserviceCommon

namespace CommunicationGatewayFacade

/-- `factory` is `createCommand` of the factory. -/
structure SInitSettings (Request Command : Type*) where
  requestsFromWAL : List Request := []
  requestsFromConfig : List Request := []
  asyncNetwork : Bool := false
  pollTimeoutMillisec : Int32 := 0
  initialConnections : InitialConnections := {}
  factory : Request → Option Command

/-- The virtual `initDerive`. `none` means that it does not return. The list of the external
networks is private, and a derived class can only add to it. -/
structure InitDerive where
  run : CommunicationGatewayFacade → Option (CommunicationGatewayFacade × Bool)
  keepsExternal : ∀ g g' rt, run g = some (g', rt) → g.externalNetworks <+: g'.externalNetworks

/-- The one that is not overridden. -/
def InitDerive.base : InitDerive where
  run g := some (g, true)
  keepsExternal _ _ _ h := by
    cases h
    exact List.prefix_rfl

/-- After `init`. `pollTimeouts` are the calls of `setPollTimeout`. -/
structure InitedGateway (Command : Type*) where
  gateway : CommunicationGatewayFacade
  arrivedCommands : List Command
  pollTimeouts : List (NetworkEntity × Int32)
  threadNetworkCallbacks : Bool

/-- `notReturned` is the overflow of the id generator, or an `initDerive` that does not return. -/
inductive InitOutcome (Command : Type*) where
  | notReturned
  | failed (gateway : CommunicationGatewayFacade) (arrivedCommands : List Command)
  | divisionByZero
  | success (g : InitedGateway Command)

variable {Request Command : Type*}

/-- The `int32_t` is converted to the `size_t` of the list, and the quotient to `int32_t`.
`none` is the division by zero. -/
def pollTimeoutPerEachNetworkMillisec (pollTimeoutMillisec : Int32)
    (externalNetworks : List NetworkEntity) : Option Int32 :=
  if externalNetworks.length = 0 then none
  else
    some (Int32.ofNat (pollTimeoutMillisec.toInt64.toUInt64.toNat / externalNetworks.length))

/-- `callbackNetworkRequest` of every request. -/
def createCommands (settings : SInitSettings Request Command) : List Command :=
  (settings.requestsFromWAL ++ settings.requestsFromConfig).filterMap settings.factory

/-- The end of `init`, where everything is connected. -/
def dividePollTimeout (settings : SInitSettings Request Command)
    (g : CommunicationGatewayFacade) : InitOutcome Command :=
  match pollTimeoutPerEachNetworkMillisec settings.pollTimeoutMillisec g.externalNetworks with
  | none => .divisionByZero
  | some timeout =>
    .success
      { gateway := g
        arrivedCommands := createCommands settings
        pollTimeouts := g.externalNetworks.map fun net => (net, timeout)
        threadNetworkCallbacks := settings.asyncNetwork }

def init (settings : SInitSettings Request Command) (initDerive : InitDerive)
    (g : CommunicationGatewayFacade) : InitOutcome Command :=
  match g.initialConnections settings.initialConnections with
  | none => .notReturned
  | some (g, false) => .failed g (createCommands settings)
  | some (g, true) =>
    match initDerive.run g with
    | none => .notReturned
    | some (g, false) => .failed g (createCommands settings)
    | some (g, true) => dividePollTimeout settings g

end CommunicationGatewayFacade

end MicroserviceCommon
