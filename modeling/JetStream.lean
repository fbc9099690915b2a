import JetStream.Stream.LittleEndian
import JetStream.Stream.Proc
import JetStream.Stream.Mailbox
import JetStream.Stream.ByteStream
import JetStream.Stream.Duplex
import JetStream.Coding.WireFormat
import JetStream.Coding.WireFormatLaws
import JetStream.Coding.Messages
import JetStream.Coding.FrameLaws
import JetStream.Coding.WireTypes
import JetStream.Ufs.Kernel
import JetStream.Ufs.ReadDir
import JetStream.Ufs.Server
import JetStream.Ufs.Handlers
import JetStream.Ufs.Footprint
import JetStream.Ufs.TreeFs
import JetStream.Ufs.Lifecycle
import JetStream.Ufs.Confinement
import JetStream.Ufs.Walk
import JetStream.Ufs.Session
import JetStream.Ufs.Paging
import JetStream.Ufs.Service
import JetStream.Ufs.Connection
import JetStream.Ufs.Descriptors
import JetStream.Ufs.Casefold
import JetStream.Ufs.Attributes
import JetStream.Ufs.UnboundFids
import JetStream.Server.QuicServer
import JetStream.Server.Proxy
import JetStream.Server.Streams
import JetStream.Ufs.Confined
