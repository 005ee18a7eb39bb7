import BoardRig.Main
import BoardRig.Proofs.Bench.BankLine
import BoardRig.Proofs.Bench.Confirmation
import BoardRig.Proofs.Bench.Diagnostics
import BoardRig.Proofs.Bench.Scenario
import BoardRig.Proofs.CommandLine.Refused
import BoardRig.Proofs.FileSystem.Frame
import BoardRig.Proofs.FileSystem.Scratch
import BoardRig.Proofs.Program
import BoardRig.Proofs.Recovery.Observation
import BoardRig.Proofs.Recovery.Scratch
import BoardRig.Proofs.Recovery.Written
import BoardRig.Proofs.Serial.Delivery
import BoardRig.Proofs.Serial.Framing
import BoardRig.Proofs.Serial.Listening
import BoardRig.Proofs.Serial.Stale
import BoardRig.Proofs.Status.BankLine
import BoardRig.Proofs.Status.Diagnostics
import BoardRig.Proofs.Status.Lines
import BoardRig.Proofs.Status.UpdateMode
import BoardRig.Proofs.Storage.Escapes
import BoardRig.Proofs.Storage.Labels
import BoardRig.Proofs.Storage.Listing
import BoardRig.Proofs.Storage.MountTable
import BoardRig.Proofs.Text.Numerals
import BoardRig.Proofs.Uf2.Bijection
import BoardRig.Proofs.Uf2.Consistency
import BoardRig.Proofs.Uf2.Family
import BoardRig.Proofs.Uf2.Inspection
import BoardRig.Proofs.Usb.Directory
import BoardRig.Proofs.Usb.Enumeration
import BoardRig.Proofs.Usb.Identity
import BoardRig.Simulation.EventPort
import BoardRig.Simulation.World
