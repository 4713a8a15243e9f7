import Gilberta.Foundations.Execution
import Gilberta.Model.Api
import Gilberta.Effects.Primitives
import Gilberta.Effects.Life
import Gilberta.Effects.Step
import Gilberta.Lifecycle.Transitions
import Gilberta.Lifecycle.Arrays
import Gilberta.Lifecycle.Ownership
import Gilberta.Lifecycle.Announcements
import Gilberta.Effects.Traffic
import Gilberta.Effects.Emission
import Gilberta.Effects.Channels
import Gilberta.Foundations.SequenceNumbers
import Gilberta.Traffic.Acknowledgments
import Gilberta.Traffic.ReceiveEvents
import Gilberta.Foundations.StopAndWait
import Gilberta.Link.Direction
import Gilberta.Link.Simulation
import Gilberta.Link.Delivery
import Gilberta.Link.Recovery
import Gilberta.Session.Network
import Gilberta.Session.Numbers
import Gilberta.Session.Handshake
import Gilberta.Session.Transfer
import Gilberta.Foundations.LittleEndian
import Gilberta.Wire.Layout
import Gilberta.Wire.Glbio
import Gilberta.Foundations.ShiftRegister
import Gilberta.Wire.Checksum
import Gilberta.Wire.ReceiveLoop
import Gilberta.Lifecycle.Routing
import Gilberta.Traffic.Migration
import Gilberta.Lifecycle.Progress
import Gilberta.Traffic.SendQueues
import Gilberta.Traffic.Isolation
import Gilberta.Link.Rebind
import Gilberta.Effects.Timers
import Gilberta.Foundations.Backoff
import Gilberta.Traffic.Timeouts
import Gilberta.Session.Incarnations
import Gilberta.Wire.Modbus
import Gilberta.Lifecycle.ClientIds
import Gilberta.Foundations.RingBuffer
import Gilberta.Foundations.Machines
import Gilberta.Memory.Queue
import Gilberta.Memory.Channels
import Gilberta.Lifecycle.OutOfMemory
import Gilberta.Link.Duplex
import Gilberta.Link.Echo
import Gilberta.Link.Bytes
import Gilberta.Link.Opening
import Gilberta.Link.RoundTrips
import Gilberta.Traffic.Detection
import Gilberta.Traffic.Amplification
import Gilberta.Foundations.Network
import Gilberta.Session.Endings
import Gilberta.Session.Origins
import Gilberta.Traffic.Polling
import Gilberta.Foundations.SlotTable
import Gilberta.Programs.Messenger
import Gilberta.Foundations.LossyQueue
import Gilberta.Link.Unreliable
import Gilberta.Traffic.Conninfo
import Gilberta.Traffic.Stalls
import Gilberta.Foundations.Holders
import Gilberta.Memory.Contexts
