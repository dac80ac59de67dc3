import SedsNet.Tables
import SedsNet.Wire.Bounds
import SedsNet.Wire.Hops
import SedsNet.Lib.Sequence
import SedsNet.Relay
import SedsNet.Router.Order
import SedsNet.Router.Transmit
import SedsNet.Window
import SedsNet.Registry
import SedsNet.Announce
import SedsNet.Router.Sends
import SedsNet.Relay.Transmit
import SedsNet.Moves
import SedsNet.Relay.Moves
import SedsNet.Router.Moves
import SedsNet.Lib.Machine
import SedsNet.Accounts
import SedsNet.Silence
import SedsNet.LinkLocal
import SedsNet.Forwarded
import SedsNet.Retries
import SedsNet.Lib.Ascending
import SedsNet.Selection
import SedsNet.Routes
import SedsNet.Known
import SedsNet.Advertised
import SedsNet.Rounds
import SedsNet.Refused
import SedsNet.Drain
import SedsNet.Sessions
import SedsNet.Network
import SedsNet.Gaps
import SedsNet.Outstanding
import SedsNet.Cumulative
import SedsNet.Evicted
import SedsNet.HopAcks
import SedsNet.TimeTable
import SedsNet.Builtins
import SedsNet.Eviction
import SedsNet.Wire.Varints
import SedsNet.Wire.Burst
import SedsNet.Wire.Rewrite
import SedsNet.Packet
import SedsNet.Satisfied
import SedsNet.Caches
import SedsNet.Deferral
import SedsNet.Delivery
import SedsNet.Logging
import SedsNet.Deadlines
import SedsNet.Draining
import SedsNet.Freshness
import SedsNet.Lib.Recents
import SedsNet.Lib.Shares
import SedsNet.Malformed
import SedsNet.Recent
import SedsNet.Relay.Fanout
import SedsNet.Removal
import SedsNet.Router.Handlers
import SedsNet.TopologyCodec
import SedsNet.Weighted
import SedsNet.AtMostOnce
import SedsNet.Calendar
import SedsNet.Crypto
import SedsNet.NetworkTime
import SedsNet.P2pCodec
import SedsNet.Rejected
import SedsNet.TopologyMemory
import SedsNet.Credentials
import SedsNet.StreamIds
import SedsNet.AllOrNothing
import SedsNet.RemovedNames
import SedsNet.JsonText
import SedsNet.TopologyExport
import SedsNet.RuntimeStats
import SedsNet.SetTime
import SedsNet.ClockOffset
import SedsNet.Integrity
import SedsNet.References
import SedsNet.TopologyMerge
import SedsNet.Lib.Fields
import SedsNet.Lib.Registers
import SedsNet.TimeText
import SedsNet.Variables
import SedsNet.Lib.Channels
import SedsNet.InTurn
