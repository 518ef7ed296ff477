import TransPortEngine.Library.MachineInt
import TransPortEngine.Library.BigEndian
import TransPortEngine.Library.Buffer
import TransPortEngine.Library.Framing
import TransPortEngine.Library.FrameReceiver
import TransPortEngine.HeadMsg
import TransPortEngine.Engine
import TransPortEngine.RecvCache
import TransPortEngine.TcpSession.Defs
import TransPortEngine.TcpSession.Send
import TransPortEngine.TcpSession.Recv
import TransPortEngine.TcpClient.Defs
import TransPortEngine.TcpClient.Recv
import TransPortEngine.TcpClient.Stream
import TransPortEngine.TcpSession.Delivery
import TransPortEngine.TcpSession.Stream
import TransPortEngine.TcpClient.Delivery
import TransPortEngine.TcpSession.Iocp
import TransPortEngine.TcpSession.IocpDelivery
import TransPortEngine.Sdk
import TransPortEngine.SendAgreement
import TransPortEngine.Library.SharedWire
import TransPortEngine.SharedSocket
import TransPortEngine.Server.Defs
import TransPortEngine.Server.Handlers
import TransPortEngine.TcpSession.Effects
import TransPortEngine.Server.Registry
import TransPortEngine.Server.FailureDispatch
import TransPortEngine.Server.Pointers
import TransPortEngine.Server.Lifetime
import TransPortEngine.Server.OneHandler
import TransPortEngine.Server.Settled
import TransPortEngine.TornSend
import TransPortEngine.TcpSession.Hostile
import TransPortEngine.Library.FramePlaces
import TransPortEngine.TcpClient.AnyStream
import TransPortEngine.TcpSession.AnyStream
import TransPortEngine.HeaderPlaces
import TransPortEngine.ReceiveRequests
import TransPortEngine.NetEventModleIocp.HandleData
import TransPortEngine.NetEventModleIocp.Destruction
import TransPortEngine.HeartbeatEviction
import TransPortEngine.Library.Locks
import TransPortEngine.Server.Shutdown
import TransPortEngine.Server.ShutdownFrames
import TransPortEngine.Server.WaitingCycle
import TransPortEngine.Server.DestroyedModules
import TransPortEngine.Server.Callbacks
import TransPortEngine.TcpClient.Decoder
import TransPortEngine.TcpClient.KeepAlive
import TransPortEngine.TcpClient.Reconnect
import TransPortEngine.SaltedHeaders
import TransPortEngine.HeartbeatEcho
import TransPortEngine.SendLength
import TransPortEngine.ShortSend
import TransPortEngine.Server.WorkerDeletes
import TransPortEngine.Library.SessionWords
import TransPortEngine.TcpClient.CallbackWords
import TransPortEngine.TcpClient.Timeouts
import TransPortEngine.Server.SessionIds
import TransPortEngine.Server.Creation
import TransPortEngine.Server.Descriptors
import TransPortEngine.TcpSession.Drain
import TransPortEngine.TcpSession.IocpLife
import TransPortEngine.Library.MapTraversal
import TransPortEngine.Server.HeartbeatSweep
import TransPortEngine.Server.ListedSessions
import TransPortEngine.Server.ModuleIndex
import TransPortEngine.Server.RoundRobin
import TransPortEngine.Server.AcceptUndo
import TransPortEngine.Server.IocpAccept
import TransPortEngine.Library.PartialTransfer
import TransPortEngine.NetEventModleIocp.OverlappedSends
import TransPortEngine.NetEventModleIocp.SendAccounting
import TransPortEngine.NetEventModleIocp.OrphanSends
import TransPortEngine.TcpClient.Control
import TransPortEngine.TcpClient.Threads
import TransPortEngine.TcpClient.Sockets
import TransPortEngine.TcpSession.DirectSend
import TransPortEngine.TcpSession.DeferredSend
import TransPortEngine.Server.DirectSends
import TransPortEngine.Library.Layout
import TransPortEngine.BtlByteStream.Words
import TransPortEngine.BtlByteStream.Defs
import TransPortEngine.BtlByteStream.RoundTrip
import TransPortEngine.BtlByteStream.Strings
import TransPortEngine.Library.Simulation
import TransPortEngine.Library.Exchange
import TransPortEngine.Connection.Defs
import TransPortEngine.Connection.Refinement
import TransPortEngine.Connection.Linux
import TransPortEngine.Connection.Windows
import TransPortEngine.Library.Ledger
import TransPortEngine.NetEventModleIocp.Fini
import TransPortEngine.NetEventModleIocp.Hang
import TransPortEngine.Server.IocpAcceptLeaks
import TransPortEngine.Server.RoundRobinLoads
import TransPortEngine.Library.Heap
import TransPortEngine.CacheHeap
import TransPortEngine.TcpSession.Heap
import TransPortEngine.TcpClient.Heap
import TransPortEngine.Library.LifeWords
import TransPortEngine.TcpSession.CallbackWords
import TransPortEngine.Server.Introductions
import TransPortEngine.Server.SessionLives
import TransPortEngine.TcpClient.Destruction
import TransPortEngine.Server.HandedOver
import TransPortEngine.BtlByteStream.RandomAccess
import TransPortEngine.Connection.KeptAlive
import TransPortEngine.Connection.Reconnects
