import Grumble.Wire.Bytes
import Grumble.Wire.PacketData
import Grumble.Mumbleproto.Packet
import Grumble.Mumbleproto.Codec
import Grumble.Mumbleproto.FixedWidth
import Grumble.Mumbleproto.RoundTrip
import Grumble.Mumbleproto.Legacy
import Grumble.Mumbleproto.TocChain
import Grumble.Client.Framing
import Grumble.Database.Ban
import Grumble.Blobstore.LockFile
import Grumble.Client.Goroutines
import Grumble.Client.Protocol
import Grumble.Client.Invariant
import Grumble.Client.UdpRecv
import Grumble.Client.ChannelTree
import Grumble.Server.Freeze
