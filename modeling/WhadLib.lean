import WhadLib.Types
import WhadLib.Library.CircularWindow
import WhadLib.Library.StepSystem
import WhadLib.Library.FrameScan
import WhadLib.Ringbuf
import WhadLib.Transport
import WhadLib.Transport.Conservation
import WhadLib.Transport.Receiver
import WhadLib.Transport.EndToEnd
import WhadLib.Transport.Rollback
import WhadLib.Transport.Completion
import WhadLib.Library.BoundedWriter
import WhadLib.Nanopb
import WhadLib.Library.CData
import WhadLib.Board.Enums
import WhadLib.Board.Structs
import WhadLib.Message
import WhadLib.Encoding
import WhadLib.Send
import WhadLib.Ownership
import WhadLib.Board.Validators
import WhadLib.Board.Message
import WhadLib.Board.Valid
import WhadLib.Board.RoundTrip
import WhadLib.Library.BoundedFifo
import WhadLib.Ringbuf.Refinement
import WhadLib.Board.Fields
import WhadLib.Transport.BackPressure
import WhadLib.Transport.Progress
import WhadLib.Board.Sendable
import WhadLib.Cpp.NanoPbMsg
import WhadLib.Library.CMemory
import WhadLib.Wire
import WhadLib.Ble.Structs
import WhadLib.Device.Structs
import WhadLib.Dot15d4.Structs
import WhadLib.Esb.Structs
import WhadLib.FullMessage
import WhadLib.Ble.Builders
import WhadLib.Device.Builders
import WhadLib.Dot15d4.Builders
import WhadLib.Phy.Builders
import WhadLib.Unifying.Builders
import WhadLib.Builders
import WhadLib.Builders.NoLeak
import WhadLib.Ble.Sequence
import WhadLib.Ble.NoLeak
import WhadLib.Builders.Clean
import WhadLib.Builders.Plain
import WhadLib.Builders.Atomic
import WhadLib.Builders.Capacity
import WhadLib.Ble.Parsers
import WhadLib.Dot15d4.Parsers
import WhadLib.Esb.Parsers
import WhadLib.Phy.Parsers
import WhadLib.Unifying.Parsers
import WhadLib.Parsers.OwnKind
import WhadLib.Ble.Wrappers
import WhadLib.Ble.Faithful
import WhadLib.Phy.Wrappers
import WhadLib.Esb.Wrappers
import WhadLib.Phy.Faithful
import WhadLib.Esb.Faithful
import WhadLib.Unifying.Wrappers
import WhadLib.Unifying.Faithful
import WhadLib.Dot15d4.Faithful
import WhadLib.Board.Wrappers
import WhadLib.Wrappers
import WhadLib.Phy.RoundTrip
import WhadLib.Ble.SequenceRoundTrip
import WhadLib.Ble.SequenceSize
import WhadLib.Ble.RoundTrip
import WhadLib.Dot15d4.RoundTrip
import WhadLib.Library.CLayout
import WhadLib.Dot15d4.Reception
import WhadLib.Unifying.Union
import WhadLib.Unifying.Reception
import WhadLib.Library.SentinelTable
import WhadLib.Device.Capabilities
import WhadLib.Frequencies
import WhadLib.Device.Texts
import WhadLib.Esb.Setters
import WhadLib.Unifying.Setters
import WhadLib.Ble.Descriptors
import WhadLib.Device.Descriptors
import WhadLib.Dot15d4.Descriptors
import WhadLib.Esb.Descriptors
import WhadLib.MessageCodec
import WhadLib.Sendable
import WhadLib.Session
import WhadLib.Session.Progress
import WhadLib.Agreement
import WhadLib.Ble.Agreement
import WhadLib.Builders.Kinds
import WhadLib.Library.FrameEvents
import WhadLib.MessageTypes
import WhadLib.Reports
import WhadLib.Phy.Agreement
import WhadLib.Esb.Agreement
import WhadLib.Dot15d4.Agreement
import WhadLib.Device.Parsers
import WhadLib.Parsers.Transmission
import WhadLib.Exchange
import WhadLib.Ble.Exchange
import WhadLib.Phy.Exchange
import WhadLib.Esb.Exchange
import WhadLib.Unifying.Exchange
import WhadLib.Dot15d4.Exchange
import WhadLib.Device.Exchange
import WhadLib.Commands
import WhadLib.Protobuf.Decoded
import WhadLib.Decoded
import WhadLib.Ble.Decoded
import WhadLib.Phy.Decoded
import WhadLib.Esb.Decoded
import WhadLib.Dot15d4.Decoded
import WhadLib.Device.Decoded
import WhadLib.Library.ReaderCost
import WhadLib.Protobuf.Rewriting
import WhadLib.Decoding
import WhadLib.Session.Commands
