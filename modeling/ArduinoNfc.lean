import ArduinoNfc.Foundation.ByteBuffer
import ArduinoNfc.Foundation.RecordCodec
import ArduinoNfc.Foundation.LabelledSystem
import ArduinoNfc.Foundation.Simulation
import ArduinoNfc.Foundation.ChunkedTransfer
import ArduinoNfc.Foundation.Progress
import ArduinoNfc.Foundation.Protocol
import ArduinoNfc.Nci.Reception
import ArduinoNfc.Nci.PacketBounds
import ArduinoNfc.Nci.CallbackData
import ArduinoNfc.Nci.CommandEncoding
import ArduinoNfc.Nci.StateMachine
import ArduinoNfc.Nci.Calls
import ArduinoNfc.Nci.AnsweredPackets
import ArduinoNfc.Nci.Fragments
import ArduinoNfc.Nci.ActivationRecord
import ArduinoNfc.Nci.PacketFraming
import ArduinoNfc.Hw.TransportCounts
import ArduinoNfc.Tags.LayerAgreement
import ArduinoNfc.Tags.CallbackPairing
import ArduinoNfc.Tags.ResetSequence
import ArduinoNfc.Tags.DumpAvailability
import ArduinoNfc.Tags.TagIdentity
import ArduinoNfc.Tags.Nfcid
import ArduinoNfc.Tags.DumpTransfer
import ArduinoNfc.Tags.ChunkStatus
import ArduinoNfc.Tags.OutstandingRead
import ArduinoNfc.Tags.DumpPolls
import ArduinoNfc.Controller.OneOutstanding
import ArduinoNfc.Controller.HandlerMatch
import ArduinoNfc.Controller.RfAgreement
import ArduinoNfc.Log.Format
import ArduinoNfc.Log.Buffers
import ArduinoNfc.Tags.LogLines
import ArduinoNfc.Sketch.Conformance
import ArduinoNfc.Sketch.FieldRuns
import ArduinoNfc.Sketch.DumpFailure
import ArduinoNfc.Sketch.Agreement
import ArduinoNfc.Sketch.Resilience
import ArduinoNfc.Sketch.Bus
import ArduinoNfc.Sketch.ErrorLog
