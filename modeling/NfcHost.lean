import NfcHost.Activation
import NfcHost.Bench.Packets
import NfcHost.Bench.Scenario
import NfcHost.Board
import NfcHost.Board.Scripted
import NfcHost.Bytes
import NfcHost.Capabilities
import NfcHost.Command
import NfcHost.Controller
import NfcHost.Controller.Event
import NfcHost.Deactivation
import NfcHost.Discovery
import NfcHost.Document
import NfcHost.Document.Values
import NfcHost.Fault
import NfcHost.Field
import NfcHost.Host
import NfcHost.Journal
import NfcHost.Link
import NfcHost.Link.Pn7120
import NfcHost.Link.Queue
import NfcHost.Link.Rigged
import NfcHost.Nfcid
import NfcHost.Packet
import NfcHost.Packet.Header
import NfcHost.Packet.Message
import NfcHost.Proofs.Agreement
import NfcHost.Proofs.Announcement
import NfcHost.Proofs.Arrival
import NfcHost.Proofs.Canonical
import NfcHost.Proofs.Coherence
import NfcHost.Proofs.Completion
import NfcHost.Proofs.Connection
import NfcHost.Proofs.Conveyance
import NfcHost.Proofs.Disclosure
import NfcHost.Proofs.Drift
import NfcHost.Proofs.Dump
import NfcHost.Proofs.Encoding
import NfcHost.Proofs.Endpoint
import NfcHost.Proofs.Exchange
import NfcHost.Proofs.Failure
import NfcHost.Proofs.Filtering
import NfcHost.Proofs.Framing
import NfcHost.Proofs.Gate
import NfcHost.Proofs.Integrity
import NfcHost.Proofs.Knowledge
import NfcHost.Proofs.Layout
import NfcHost.Proofs.Likeness
import NfcHost.Proofs.Lockstep
import NfcHost.Proofs.Lossless
import NfcHost.Proofs.Meaning
import NfcHost.Proofs.Move
import NfcHost.Proofs.Noise
import NfcHost.Proofs.Outstanding
import NfcHost.Proofs.Patience
import NfcHost.Proofs.Polling
import NfcHost.Proofs.Posting
import NfcHost.Proofs.Pump
import NfcHost.Proofs.Readback
import NfcHost.Proofs.Reader
import NfcHost.Proofs.Reading
import NfcHost.Proofs.Reception
import NfcHost.Proofs.Recovery
import NfcHost.Proofs.Report
import NfcHost.Proofs.Run
import NfcHost.Proofs.Spelling
import NfcHost.Proofs.Standing
import NfcHost.Proofs.Submission
import NfcHost.Proofs.Telling
import NfcHost.Proofs.Transcript
import NfcHost.Proofs.Transition
import NfcHost.Proofs.Work
import NfcHost.Reset
import NfcHost.Rf
import NfcHost.Session
import NfcHost.Session.Notice
import NfcHost.Session.Stage
import NfcHost.Status
import NfcHost.Tag
import NfcHost.Tag.Family
import NfcHost.Tag.Type2
import NfcHost.Text.Hex
