import MicroserviceCommon.Communication.ShellDialog
import MicroserviceCommon.Properties.AmqpDraining
import MicroserviceCommon.Properties.AmqpNetwork
import MicroserviceCommon.Properties.AmqpResponses
import MicroserviceCommon.Properties.ArgValues
import MicroserviceCommon.Properties.BusDirection
import MicroserviceCommon.Properties.CancelTasks
import MicroserviceCommon.Properties.ChildPipes
import MicroserviceCommon.Properties.ChildReaping
import MicroserviceCommon.Properties.CommandAnswers
import MicroserviceCommon.Properties.ConfigParsing
import MicroserviceCommon.Properties.ConnectionIdentity
import MicroserviceCommon.Properties.ContextClearing
import MicroserviceCommon.Properties.ContextGrouping
import MicroserviceCommon.Properties.CookieTokens
import MicroserviceCommon.Properties.CoreLoad
import MicroserviceCommon.Properties.CoreStatLines
import MicroserviceCommon.Properties.CpuLoad
import MicroserviceCommon.Properties.CrashNotification
import MicroserviceCommon.Properties.DuplicateLaunches
import MicroserviceCommon.Properties.Framing
import MicroserviceCommon.Properties.GatewayCommands
import MicroserviceCommon.Properties.HttpClients
import MicroserviceCommon.Properties.IpAddresses
import MicroserviceCommon.Properties.JournalClosing
import MicroserviceCommon.Properties.LastLine
import MicroserviceCommon.Properties.LaunchTasks
import MicroserviceCommon.Properties.LibraryHandles
import MicroserviceCommon.Properties.LostWakeups
import MicroserviceCommon.Properties.MetadataReaders
import MicroserviceCommon.Properties.ObserverContract
import MicroserviceCommon.Properties.OneShotHeaders
import MicroserviceCommon.Properties.OperationJournal
import MicroserviceCommon.Properties.OutcomingBuffer
import MicroserviceCommon.Properties.OwnChildren
import MicroserviceCommon.Properties.PayloadIsolation
import MicroserviceCommon.Properties.PollBudget
import MicroserviceCommon.Properties.PoolSize
import MicroserviceCommon.Properties.ProcessLocks
import MicroserviceCommon.Properties.RangeDeletion
import MicroserviceCommon.Properties.ReceiverSafety
import MicroserviceCommon.Properties.Recovery
import MicroserviceCommon.Properties.RecycledRequests
import MicroserviceCommon.Properties.RemovedTasks
import MicroserviceCommon.Properties.ReplyAddress
import MicroserviceCommon.Properties.RequestLife
import MicroserviceCommon.Properties.ScanSafety
import MicroserviceCommon.Properties.ServerFeatures
import MicroserviceCommon.Properties.ServiceRestart
import MicroserviceCommon.Properties.ServiceShutdown
import MicroserviceCommon.Properties.SessionGaps
import MicroserviceCommon.Properties.SessionMap
import MicroserviceCommon.Properties.SessionRefresh
import MicroserviceCommon.Properties.ShellDialog
import MicroserviceCommon.Properties.ShellMessages
import MicroserviceCommon.Properties.ShellServer
import MicroserviceCommon.Properties.SingleInstance
import MicroserviceCommon.Properties.TableNames
import MicroserviceCommon.Properties.TaskCallbacks
import MicroserviceCommon.Properties.ThreadPool
import MicroserviceCommon.Properties.TimeStrings
import MicroserviceCommon.Properties.VideoCardChoice
import MicroserviceCommon.Properties.VideoCards
import MicroserviceCommon.Properties.WebsocketIdentity
import MicroserviceCommon.Properties.WebsocketPresence
import MicroserviceCommon.System.ChildPipes
import MicroserviceCommon.System.TaskThread
