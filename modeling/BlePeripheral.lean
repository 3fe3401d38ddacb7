import BlePeripheral.Json.Printer
import BlePeripheral.Advertising.ConfigText
import BlePeripheral.Air.Call
import BlePeripheral.Bench.Session
import BlePeripheral.Main
import BlePeripheral.Proofs.Ack.Exchange
import BlePeripheral.Proofs.Air.Listening
import BlePeripheral.Proofs.Air.Actions
import BlePeripheral.Proofs.Link.ConnectionEvent
import BlePeripheral.Proofs.Pdu.Requests
import BlePeripheral.Proofs.Link.Advertising
import BlePeripheral.Proofs.Link.Run
import BlePeripheral.Proofs.Link.Admission
import BlePeripheral.Proofs.Link.Journal
import BlePeripheral.Proofs.Link.Schedule
import BlePeripheral.Proofs.Air.Usage
import BlePeripheral.Proofs.Link.Discipline
import BlePeripheral.Proofs.Link.Delivery
import BlePeripheral.Proofs.Link.Supervision
import BlePeripheral.Proofs.Channel.Hops
import BlePeripheral.Proofs.Link.Ends
import BlePeripheral.Proofs.Time.Orbit
import BlePeripheral.Proofs.Link.Silence
import BlePeripheral.Proofs.Link.Loss
import BlePeripheral.Proofs.Air.Shift
import BlePeripheral.Proofs.Link.Shift
import BlePeripheral.Proofs.Link.LifeCycle
import BlePeripheral.Proofs.Link.Windows
import BlePeripheral.Proofs.Link.Acknowledgments
import BlePeripheral.Proofs.Link.Malformed
import BlePeripheral.Proofs.Link.Misses
import BlePeripheral.Proofs.Link.Representation
import BlePeripheral.Proofs.Link.LockStep
import BlePeripheral.Proofs.Link.Noninterference
import BlePeripheral.Proofs.Link.Farewell
import BlePeripheral.Proofs.Pdu.Classification
import BlePeripheral.Proofs.Pdu.Encoding
import BlePeripheral.Proofs.Link.Advertisements
import BlePeripheral.Proofs.Connection.Parameters
import BlePeripheral.Proofs.Pdu.Reencoding
import BlePeripheral.Proofs.Channel.Frequency
import BlePeripheral.Proofs.Channel.Views
import BlePeripheral.Proofs.Link.Accuracy
import BlePeripheral.Proofs.Link.FrameSpace
import BlePeripheral.Proofs.Link.Progress
import BlePeripheral.Proofs.Link.Stall
import BlePeripheral.Proofs.Link.Termination
import BlePeripheral.Proofs.Connection.Window
import BlePeripheral.Proofs.Address.Grammar
import BlePeripheral.Proofs.Air.Calls
import BlePeripheral.Proofs.Json.Text
import BlePeripheral.Proofs.Advertising.Configuration
import BlePeripheral.Proofs.Time.Cost
