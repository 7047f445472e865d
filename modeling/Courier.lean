import Courier.Abort
import Courier.Bench
import Courier.Bench.Basic
import Courier.Bench.Commands
import Courier.Bench.Configs
import Courier.Bench.Datagrams
import Courier.Bench.Encode
import Courier.Bench.Ids
import Courier.Bench.Request
import Courier.Bench.Session
import Courier.Bench.WebSockets
import Courier.Broker
import Courier.Broker.Recovery
import Courier.Cli.Args
import Courier.Cli.Report
import Courier.Cli.Run
import Courier.Config
import Courier.Config.Decode
import Courier.Decimal.Shortest
import Courier.Envelope
import Courier.Envelope.Decode
import Courier.Error
import Courier.Json.Basic
import Courier.Json.Reader
import Courier.Json.Text
import Courier.Keyed
import Courier.Main
import Courier.Metrics
import Courier.Net.Resolve
import Courier.Net.SocketAddr
import Courier.Proofs.Capacity
import Courier.Proofs.ChannelQueues
import Courier.Proofs.ConfigCheck
import Courier.Proofs.CursorCount
import Courier.Proofs.Datagrams
import Courier.Proofs.Delivery
import Courier.Proofs.Failures
import Courier.Proofs.Keyed
import Courier.Proofs.Ledger
import Courier.Proofs.LinkDelivery
import Courier.Proofs.LinkPairing
import Courier.Proofs.LinkReader
import Courier.Proofs.Metrics
import Courier.Proofs.Op
import Courier.Proofs.Placement
import Courier.Proofs.Provenance
import Courier.Proofs.Recovery
import Courier.Proofs.Store
import Courier.Proofs.Store.Atomic
import Courier.Proofs.Store.Calls
import Courier.Proofs.Store.Disk
import Courier.Proofs.Store.Keys
import Courier.Proofs.Store.Memory
import Courier.Proofs.Store.Order
import Courier.Proofs.Store.Refinement
import Courier.Proofs.Store.Scan
import Courier.Proofs.Transport
import Courier.Proofs.UlidOrder
import Courier.Proofs.WireForm
import Courier.Proofs.WireText
import Courier.Proofs.World
import Courier.Store
import Courier.Store.Disk
import Courier.Store.Disk.Text
import Courier.Store.Memory
import Courier.Strand
import Courier.Text.Quoted
import Courier.Toml.Datetime
import Courier.Toml.Document
import Courier.Toml.Error
import Courier.Toml.Scalar
import Courier.Toml.Strings
import Courier.Toml.Syntax
import Courier.Toml.Token
import Courier.Toml.Value
import Courier.Transport
import Courier.Transport.Channel
import Courier.Transport.Datagram
import Courier.Ulid
import Courier.WebSocket.Endpoint
import Courier.WebSocket.Loopback
import Courier.Proofs.Store.Faults
