import BluetoothHost.LogFilter
import BluetoothHost.Registry.Bench
import BluetoothHost.Session
import BluetoothHost.Proofs.Histories
import BluetoothHost.Proofs.Callbacks
import BluetoothHost.Proofs.Course
import BluetoothHost.Proofs.Operations
import BluetoothHost.Proofs.VendorProtocol
import BluetoothHost.Proofs.Reentrancy
import BluetoothHost.Proofs.Registrations
import BluetoothHost.Proofs.Channel
import BluetoothHost.Proofs.Dispatchers
import BluetoothHost.Proofs.Lifecycle
import BluetoothHost.Proofs.Preconditions
import BluetoothHost.Proofs.Visits
import BluetoothHost.Proofs.Forwarding
import BluetoothHost.Proofs.Routing
import BluetoothHost.Proofs.Telling
import BluetoothHost.Proofs.Renewal
import BluetoothHost.Proofs.Alarms
import BluetoothHost.Proofs.Soundness
import BluetoothHost.Proofs.Deliveries
import BluetoothHost.Proofs.Observers
import BluetoothHost.Proofs.Noninterference
import BluetoothHost.Proofs.Matching
import BluetoothHost.Proofs.Handles
import BluetoothHost.Proofs.Spelling
import BluetoothHost.Proofs.Writing
import BluetoothHost.Proofs.Conversion
import BluetoothHost.Proofs.Decoding
import BluetoothHost.Proofs.Names
import BluetoothHost.Proofs.Services
import BluetoothHost.Proofs.BondedDevices
import BluetoothHost.Proofs.Descriptors
import BluetoothHost.Proofs.ClassWords
import BluetoothHost.Proofs.Lines
import BluetoothHost.Proofs.Pairs
import BluetoothHost.Proofs.Sections
