import NexGo.Stream.Endian
import NexGo.Stream.StreamIn
import NexGo.Stream.ReadList
import NexGo.Stream.ReadTypes
import NexGo.Stream.ReadStructure
import NexGo.Stream.ByteStreamOut
import NexGo.Types.QBuffer
import NexGo.Stream.Primitive
import NexGo.Server.Packet
import NexGo.Server.Peer
import NexGo.Server.Send
import NexGo.Server.Reliable
import NexGo.Server.MultiAck
import NexGo.Server.Connect
import NexGo.Server.Dispatch
import NexGo.Server.Registry
import NexGo.Server.SendOrder
import NexGo.Server.Delivery
import NexGo.Server.Session
import NexGo.Server.Resend
import NexGo.Server.Counters
import NexGo.Server.AckOrder
import NexGo.Server.SessionDelivery
import NexGo.Server.PeerDelivery
import NexGo.Server.Progress
