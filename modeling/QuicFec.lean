import QuicFec.Lib.Go
import QuicFec.Lib.GoText
import QuicFec.Lib.ByteXor
import QuicFec.Lib.IntervalSet
import QuicFec.Protocol
import QuicFec.Protocol.PacketNumber
import QuicFec.Quicvarint
import QuicFec.Wire.FecFrames
import QuicFec.Fec.Block
import QuicFec.Fec.Xor
import QuicFec.Fec.XorRecovery
import QuicFec.Fec.Manager
import QuicFec.Connection.Fec
import QuicFec.Wire.StreamFrame
import QuicFec.Wire.AckFrame
import QuicFec.Wire.Frame
import QuicFec.Wire.Header
import QuicFec.Packer.Payload
import QuicFec.Packer.Append
import QuicFec.Packer.Run
import QuicFec.Lib.LinkedList
import QuicFec.Stream.FrameSorter
import QuicFec.Stream.Reassembly
import QuicFec.Flowcontrol.Receive
import QuicFec.Stream.ReceiveStream
import QuicFec.Stream.Accounting
import QuicFec.Connection.ReceiveSide
import QuicFec.Ackhandler.ReceivedPacketHistory
import QuicFec.Ackhandler.SentPacketHistory
import QuicFec.Ackhandler.SentPacketHandler
import QuicFec.Stream.IncomingStreamsMap
import QuicFec.Connection.ConnIDManager
import QuicFec.Connection.MtuDiscoverer
import QuicFec.Protocol.Stream
import QuicFec.Stream.StreamsMap
import QuicFec.Stream.OutgoingStreamsMap
import QuicFec.Ackhandler.Ecn
import QuicFec.Http3.Headers
import QuicFec.Http3.Frames
import QuicFec.Lib.RingWindow
import QuicFec.Utils.RingBuffer
import QuicFec.Lib.Run
import QuicFec.Flowcontrol.Send
import QuicFec.Stream.SendStream
import QuicFec.Stream.SendStreamRun
import QuicFec.Connection.Framer
