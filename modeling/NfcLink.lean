import NfcLink.Chip
import NfcLink.Llcp.Endpoint
import NfcLink.Llcp.Operation
import NfcLink.Proofs.Chip.Capacity
import NfcLink.Proofs.Chip.Staged
import NfcLink.Proofs.Frame.Fill
import NfcLink.Proofs.Frame.Units
import NfcLink.Proofs.Frame.Wire
import NfcLink.Proofs.Handshake.Agreement
import NfcLink.Proofs.Handshake.Alignment
import NfcLink.Proofs.Handshake.Alike
import NfcLink.Proofs.Handshake.BitOrder
import NfcLink.Proofs.Handshake.Budget
import NfcLink.Proofs.Handshake.Chunks
import NfcLink.Proofs.Handshake.Conversation
import NfcLink.Proofs.Handshake.Corruption
import NfcLink.Proofs.Handshake.Hindered
import NfcLink.Proofs.Handshake.I2c
import NfcLink.Proofs.Handshake.Metered
import NfcLink.Proofs.Handshake.Monitored
import NfcLink.Proofs.Handshake.Order
import NfcLink.Proofs.Handshake.Pairing
import NfcLink.Proofs.Handshake.Promptness
import NfcLink.Proofs.Handshake.Rejection
import NfcLink.Proofs.Handshake.Rereading
import NfcLink.Proofs.Handshake.Resynchronisation
import NfcLink.Proofs.Handshake.Serial
import NfcLink.Proofs.Handshake.Spi
import NfcLink.Proofs.Handshake.Stale
import NfcLink.Proofs.Handshake.Stream
import NfcLink.Proofs.Link.Observed
import NfcLink.Proofs.Link.Played
import NfcLink.Proofs.Link.Refinement
import NfcLink.Proofs.Link.Turns
import NfcLink.Proofs.Llcp.Absorption
import NfcLink.Proofs.Llcp.Conduct
import NfcLink.Proofs.Llcp.Confirmation
import NfcLink.Proofs.Llcp.Correspondence
import NfcLink.Proofs.Llcp.Delivery
import NfcLink.Proofs.Llcp.Duplicates
import NfcLink.Proofs.Llcp.Endings
import NfcLink.Proofs.Llcp.Exchange
import NfcLink.Proofs.Llcp.Interrupted
import NfcLink.Proofs.Llcp.Ledger
import NfcLink.Proofs.Llcp.Lifecycle
import NfcLink.Proofs.Llcp.Performed
import NfcLink.Proofs.Llcp.Reports
import NfcLink.Proofs.Llcp.Script
import NfcLink.Proofs.Llcp.Timeouts
import NfcLink.Proofs.Llcp.Traffic
import NfcLink.Proofs.Llcp.Transparency
import NfcLink.Proofs.Llcp.Turns
import NfcLink.Proofs.Llcp.Waiting
import NfcLink.Proofs.Outcome
import NfcLink.Proofs.Position.Bus
import NfcLink.Proofs.Position.Endpoint
import NfcLink.Proofs.Position.Formats
import NfcLink.Proofs.Position.Handshake
import NfcLink.Proofs.Position.Reading
import NfcLink.Proofs.Position.Safety
import NfcLink.Proofs.Returns
import NfcLink.Proofs.Snep.Acknowledged
import NfcLink.Proofs.Snep.Conduct
import NfcLink.Proofs.Snep.Delivered
import NfcLink.Proofs.Snep.Grammar
import NfcLink.Proofs.Snep.Message
import NfcLink.Proofs.Snep.PushPull
import NfcLink.Proofs.Snep.Session
import NfcLink.Proofs.Snep.SymmLimit
import NfcLink.Proofs.Snep.Turns
import NfcLink.Sim.I2c
import NfcLink.Sim.Peer
import NfcLink.Sim.Reply
import NfcLink.Sim.Serial
import NfcLink.Sim.Spi
import NfcLink.Sim.Stream
import NfcLink.Snep.Exchange
import NfcLink.Tap
