import FlashDump.Program
import FlashDump.Memory.Physical
import FlashDump.Session.PortScript
import FlashDump.Session.Transcript
import FlashDump.Proofs.Register.Update
import FlashDump.Proofs.Chipset.Layout
import FlashDump.Proofs.Sequencer.Arguments
import FlashDump.Proofs.Sequencer.Calls
import FlashDump.Proofs.Sequencer.Steps
import FlashDump.Proofs.Machine.Cycle
import FlashDump.Proofs.Machine.Block
import FlashDump.Proofs.Machine.Read
import FlashDump.Proofs.Sequencer.Footprint
import FlashDump.Proofs.Dump.Inspection
import FlashDump.Proofs.Dump.Stages
import FlashDump.Proofs.Dump.Gates
import FlashDump.Proofs.Dump.Image
import FlashDump.Proofs.Machine.Accesses
import FlashDump.Proofs.Machine.Settled
import FlashDump.Proofs.Machine.Aftermath
import FlashDump.Proofs.Machine.Alike
import FlashDump.Proofs.Session.History
import FlashDump.Proofs.Session.Lifecycle
import FlashDump.Proofs.Checked.Arithmetic
import FlashDump.Proofs.Checked.Field
import FlashDump.Proofs.Checked.Register
import FlashDump.Proofs.Checked.Controller
import FlashDump.Proofs.Checked.Sequencer
import FlashDump.Proofs.Checked.Session
import FlashDump.Proofs.Session.Misuse
import FlashDump.Proofs.Bits.Composed
import FlashDump.Proofs.Register.Inverse
import FlashDump.Proofs.Machine.Stores
import FlashDump.Proofs.Session.Registers
import FlashDump.Proofs.Memory.LastWrite
import FlashDump.Proofs.Chipset.Window
import FlashDump.Proofs.Pci.PortReads
import FlashDump.Proofs.Machine.PollLimit
import FlashDump.Proofs.Sequencer.Refusals
import FlashDump.Proofs.Machine.Written
import FlashDump.Proofs.Pci.ConfigBytes
import FlashDump.Proofs.Register.Pages
import FlashDump.Proofs.Text.Numeral
import FlashDump.Proofs.Sequencer.Notices
import FlashDump.Proofs.Log.Lines
import FlashDump.Proofs.Session.ReadLog
import FlashDump.Proofs.Session.Levels
import FlashDump.Proofs.Memory.Translation
import FlashDump.Proofs.Chipset.Inheritance
import FlashDump.Proofs.Chipset.Resolution
import FlashDump.Proofs.Bits.Partition
