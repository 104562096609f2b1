import FarmNetworking.Foundation.ByteString
import FarmNetworking.Foundation.OnesComplement
import FarmNetworking.Foundation.CStrings
import FarmNetworking.Foundation.Reads
import FarmNetworking.Foundation.Runs
import FarmNetworking.Foundation.Conveyor
import FarmNetworking.Foundation.Ownership
import FarmNetworking.Foundation.Mutex
import FarmNetworking.Foundation.Pipes
import FarmNetworking.Foundation.Splits
import FarmNetworking.Foundation.SharedBuffer
import FarmNetworking.Structs.Network
import FarmNetworking.Structs.DataContainer
import FarmNetworking.Socket.EthernetUtils
import FarmNetworking.Socket.Checksums
import FarmNetworking.Socket.Corruption
import FarmNetworking.Socket.CheckData
import FarmNetworking.Socket.MACFormat
import FarmNetworking.Socket.InterfaceNames
import FarmNetworking.Socket.PFringHandler
import FarmNetworking.Socket.Rings
import FarmNetworking.Socket.SendQueue
import FarmNetworking.Socket.FramesDropped
import FarmNetworking.Socket.ARP
import FarmNetworking.Socket.NetworkHandler
import FarmNetworking.Socket.FramesSent
import FarmNetworking.Socket.Link
import FarmNetworking.Socket.GetNextFrame
import FarmNetworking.Socket.PCapHandler
import FarmNetworking.Socket.PCapSendQueue
import FarmNetworking.Socket.BufferLedger
import FarmNetworking.Socket.ZMQHandler
import FarmNetworking.Socket.SendMessage
import FarmNetworking.Socket.Bookkeeping
import FarmNetworking.Socket.Inproc
import FarmNetworking.Socket.ConnectMutex
import FarmNetworking.Socket.BoundAddresses
import FarmNetworking.Socket.Rendezvous
import FarmNetworking.Socket.EBAddresses
import FarmNetworking.L1.MRP
import FarmNetworking.L1.L1DistributionHandler
import FarmNetworking.L1.Initialization
import FarmNetworking.L1.BatchFrames
import FarmNetworking.L1.FrameFields
import FarmNetworking.L1.LengthFields
import FarmNetworking.L1.FrameChecksums
import FarmNetworking.L1.ZeroChecksums
import FarmNetworking.L1.Receiver
import FarmNetworking.L1.Endpoints
import FarmNetworking.L1.MRPRoundTrip
import FarmNetworking.L1.Sender
import FarmNetworking.L1.Conservation
import FarmNetworking.L1.BurstFlush
import FarmNetworking.L1.PushOrder
import FarmNetworking.L1.Drain
import FarmNetworking.L1.Transmission
import FarmNetworking.L1.EndToEnd
import FarmNetworking.L1.Completion
import FarmNetworking.L1.Node
import FarmNetworking.L1.FrameBuffers
import FarmNetworking.L1.Service
import FarmNetworking.L1.Reinitialization
import FarmNetworking.Monitoring.IPCHandler
import FarmNetworking.Monitoring.Moves
import FarmNetworking.Monitoring.Reconnects
import FarmNetworking.Monitoring.Operations
import FarmNetworking.Monitoring.Registry
import FarmNetworking.Monitoring.Sockets
import FarmNetworking.Monitoring.NullPointers
import FarmNetworking.Monitoring.DanglingPointers
import FarmNetworking.Monitoring.OrphanedSockets
import FarmNetworking.Monitoring.ActiveFlags
import FarmNetworking.Monitoring.Recovery
import FarmNetworking.Monitoring.StateMessages
import FarmNetworking.Monitoring.FailedConnect
import FarmNetworking.Monitoring.ReceiveTimeout
import FarmNetworking.Monitoring.Channels
import FarmNetworking.Monitoring.Processes
import FarmNetworking.Monitoring.Shutdown
import FarmNetworking.Monitoring.ShutdownProgress
import FarmNetworking.Dim.DimListener
import FarmNetworking.Dim.BurstTime
import FarmNetworking.Dim.Listeners
import FarmNetworking.Dim.Sessions
