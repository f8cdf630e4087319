import DeviceBus.Frame.Reader
import DeviceBus.Frame.SocketPair
import DeviceBus.LogForwarding
import DeviceBus.Main
import DeviceBus.Output.DeviceListing
import DeviceBus.Proofs.ControlFrames
import DeviceBus.Proofs.Registry.View
import DeviceBus.Proofs.Tenancy
import DeviceBus.Proofs.Trace
import DeviceBus.Simulation.Running
import DeviceBus.Proofs.Pairing.Moves
import DeviceBus.Proofs.OrdinaryDrivers
import DeviceBus.Proofs.Node.Evolution
import DeviceBus.Proofs.Node.Arbitration
import DeviceBus.Proofs.Node.Ticking
import DeviceBus.Proofs.Node.Lifecycle
import DeviceBus.Proofs.Simulation.Lossless
import DeviceBus.Proofs.Simulation.Addresses
import DeviceBus.Proofs.Pairing.Handshake
import DeviceBus.Proofs.Node.Solo
import DeviceBus.Proofs.Pairing.Agreements
import DeviceBus.Proofs.Simulation.Bonds
import DeviceBus.Proofs.Node.Entries
import DeviceBus.Proofs.Node.History
import DeviceBus.Proofs.Node.Rounds
import DeviceBus.Proofs.Node.Collision
import DeviceBus.Proofs.Pairing.LostAddress
import DeviceBus.Proofs.Pairing.Admissible
import DeviceBus.Proofs.Pairing.Retry
import DeviceBus.Proofs.Pairing.Standings
import DeviceBus.Proofs.Node.Bystanders
import DeviceBus.Proofs.Node.Stances
import DeviceBus.Proofs.Node.Dealings
import DeviceBus.Proofs.Node.Courses
import DeviceBus.Proofs.Pairing.Signs
import DeviceBus.Proofs.Pairing.Silence
import DeviceBus.Proofs.Pairing.Patience
import DeviceBus.Proofs.MildDrivers
import DeviceBus.Proofs.Node.Remotes
import DeviceBus.Proofs.Node.Adoption
import DeviceBus.Proofs.Node.Discovery
import DeviceBus.Proofs.Node.Stories
import DeviceBus.Proofs.Node.Episodes
import DeviceBus.Proofs.Node.Protocol
import DeviceBus.Proofs.Links
import DeviceBus.Proofs.Streaming.Following
import DeviceBus.Proofs.Node.Utterances
import DeviceBus.Proofs.Node.Speech
import DeviceBus.Proofs.Node.Confinement
import DeviceBus.Proofs.Streaming.Operations
import DeviceBus.Proofs.Streaming.Changes
import DeviceBus.Proofs.Medium.Delivery
import DeviceBus.Proofs.Node.Hearing
import DeviceBus.Proofs.Console.Pipeline
import DeviceBus.Proofs.Frame.Writing
import DeviceBus.Proofs.Waiting.Wakeups
import DeviceBus.Proofs.Registry.Roster
import DeviceBus.Proofs.Frame.Decoding
import DeviceBus.Proofs.Pairing.Messages
import DeviceBus.Proofs.Streaming.Commands
import DeviceBus.Proofs.Frame.Draining
import DeviceBus.Proofs.Node.Ageing
import DeviceBus.Proofs.Node.Announcing
import DeviceBus.Proofs.Node.Reception
import DeviceBus.Proofs.Node.Probation
import DeviceBus.Proofs.Node.Absence
import DeviceBus.Proofs.Node.Expiry
import DeviceBus.Proofs.Node.Recipients
import DeviceBus.Proofs.Node.Limits
import DeviceBus.Proofs.Node.Recording
import DeviceBus.Proofs.Node.Filtering
import DeviceBus.Proofs.Node.PairedDevices
import DeviceBus.Proofs.Medium.Closing
import DeviceBus.Proofs.Node.Windows
import DeviceBus.Proofs.Streaming.Intervals
import DeviceBus.Proofs.Registry.Generations
import DeviceBus.Proofs.Node.Turnover
import DeviceBus.Proofs.Node.StaleHandles
import DeviceBus.Proofs.Cli.HexText
import DeviceBus.Proofs.Console.Pieces
