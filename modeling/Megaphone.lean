import Megaphone.Library.Memory
import Megaphone.Library.Framing
import Megaphone.Library.Machine
import Megaphone.Library.Joins
import Megaphone.Library.Lossy
import Megaphone.DataStructures.Array
import Megaphone.Network.Request
import Megaphone.Network.Recv
import Megaphone.Network.Codec
import Megaphone.Network.RoundTrip
import Megaphone.Network.Decode
import Megaphone.Network.FileTransfer
import Megaphone.Library.WireFormat
import Megaphone.Network.Wire
import Megaphone.Library.Extends
import Megaphone.Library.Components
import Megaphone.Library.Keyed
import Megaphone.Library.Reader
import Megaphone.Library.PathResolution
import Megaphone.Library.WriteHistory
import Megaphone.DataStructures.RawArray
import Megaphone.Library.Chains
import Megaphone.DataStructures.Queue
import Megaphone.DataStructures.QueueAccesses
import Megaphone.DataStructures.QueueFree
import Megaphone.System.Decimal
import Megaphone.Server.Data
import Megaphone.Server.RequestManager
import Megaphone.Server.Dispatch
import Megaphone.Server.Notifications
import Megaphone.Server.NotifContents
import Megaphone.Server.Run
import Megaphone.Server.Store
import Megaphone.Server.Table
import Megaphone.Server.Reply
import Megaphone.Server.Failures
import Megaphone.Server.Log
import Megaphone.Server.Commute
import Megaphone.Server.Groups
import Megaphone.Server.Subscriptions
import Megaphone.Server.NotifField
import Megaphone.Network.Reassembly
import Megaphone.Network.Slot
import Megaphone.Server.Upload
import Megaphone.Server.Transfers
import Megaphone.Server.Blocks
import Megaphone.Server.FailedUploads
import Megaphone.Server.Handlers
import Megaphone.Server.Outcome
import Megaphone.Server.Limits
import Megaphone.Server.FilePaths
import Megaphone.Server.Datagrams
import Megaphone.Server.Interleaving
import Megaphone.Server.TcpServer
import Megaphone.Server.Downloads
import Megaphone.Server.Faults
import Megaphone.Server.TcpLoop
import Megaphone.Server.Calls
import Megaphone.Server.EndToEnd
import Megaphone.Server.NewFeeds
import Megaphone.Server.PollTable
import Megaphone.Server.OpenConnections
import Megaphone.Server.ServerManager
import Megaphone.User.UserInput
import Megaphone.User.Numbers
import Megaphone.User.Pseudos
import Megaphone.User.Accounts
import Megaphone.User.AccountsFile
import Megaphone.Client.Data
import Megaphone.Client.RequestManager
import Megaphone.Client.Display
import Megaphone.Client.PostTexts
import Megaphone.Client.Run
import Megaphone.Client.Connection
import Megaphone.Client.Notifications
import Megaphone.Client.NotificationsCenter
import Megaphone.Client.Drained
import Megaphone.Client.NotifThreads
import Megaphone.Client.NotifRefinement
import Megaphone.Client.ClientManager
import Megaphone.Client.TcpClient
import Megaphone.Client.UdpClient
import Megaphone.Server.SignUps
import Megaphone.Transfer.Order
import Megaphone.Transfer.RoundTrip
import Megaphone.Transfer.Packets
import Megaphone.Transfer.Duplicates
import Megaphone.Transfer.Effect
import Megaphone.Transfer.Sharing
import Megaphone.Transfer.AcceptedSizes
import Megaphone.System.ThreadPool
import Megaphone.System.Jobs
import Megaphone.Library.LockOrder
import Megaphone.Server.DataLocks
import Megaphone.Client.Displayed
