import Mathlib.Logic.Basic

/-!
# `network_interface.h`

The types that every transport shares.
-/

namespace MicroserviceCommon

abbrev TAsyncRequestId := UInt64
abbrev TCorrelationId := String
abbrev TConnectionId := Int64

/-- `SNetworkPackage::SHeader` -/
structure SHeader where
  clientInitiative : Bool := false
  asyncRequestId : TAsyncRequestId := 0
  deriving DecidableEq, Repr

structure SAmqpRouteParameters where
  predatorExchangePointName : String := ""
  predatorQueueName : String := ""
  predatorRoutingKeyName : String := ""
  targetExchangePointName : String := ""
  targetQueueName : String := ""
  targetRoutingKeyName : String := ""
  deriving DecidableEq, Repr

/-- The data of `AEnvironmentRequest`. -/
structure AEnvironmentRequest where
  flags : UInt8 := 0
  asyncRequest : Bool := false
  notifyAboutAsyncViaCallback : Bool := false
  connectionId : TConnectionId := 0
  incomingMessage : String := ""
  correlationId : TCorrelationId := ""
  timeouted : Bool := false
  requestTimeMillisec : Int64 := 0
  deriving DecidableEq, Repr

end MicroserviceCommon
