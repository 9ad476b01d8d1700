import StreamTunnel.Packet
import StreamTunnel.Channel.Script
import StreamTunnel.Link.Timeline
import StreamTunnel.Local.Entrance
import StreamTunnel.Endpoint.Exchange
import StreamTunnel.Main
import StreamTunnel.Proofs.Mux.Turn
import StreamTunnel.Proofs.Mux.Run
import StreamTunnel.Proofs.Mux.Isolation
import StreamTunnel.Proofs.Linked.Basic
import StreamTunnel.Proofs.Linked.Step
import StreamTunnel.Proofs.Linked.Strand
import StreamTunnel.Proofs.Linked.Balance
import StreamTunnel.Proofs.Linked.Delivery
import StreamTunnel.Proofs.Linked.Dials
import StreamTunnel.Proofs.Linked.Agreement
import StreamTunnel.Proofs.Link.Run
import StreamTunnel.Proofs.Link.Rounds
import StreamTunnel.Proofs.Link.Guest
import StreamTunnel.Proofs.Link.Host
import StreamTunnel.Proofs.Frame.Body
import StreamTunnel.Proofs.Frame.Reading
import StreamTunnel.Proofs.Frame.Limit
import StreamTunnel.Proofs.Frame.Truncated
import StreamTunnel.Proofs.Endpoint.Open
import StreamTunnel.Proofs.Endpoint.Session
import StreamTunnel.Proofs.Endpoint.Outline
import StreamTunnel.Proofs.Endpoint.Run
import StreamTunnel.Proofs.Endpoint.Steps
import StreamTunnel.Proofs.Endpoint.Tale
import StreamTunnel.Proofs.Endpoint.Greeting
import StreamTunnel.Proofs.Endpoint.Kept
import StreamTunnel.Proofs.Endpoint.Grammar
import StreamTunnel.Proofs.Link.Busy
import StreamTunnel.Proofs.Link.Tracked
import StreamTunnel.Proofs.Link.ShutDown
import StreamTunnel.Proofs.Link.OneSession
import StreamTunnel.Proofs.Link.Closings
import StreamTunnel.Proofs.Link.GivingUp
import StreamTunnel.Proofs.Linked.Silence
import StreamTunnel.Proofs.Mux.Traffic
import StreamTunnel.Proofs.Mux.Renaming
import StreamTunnel.Proofs.Tunnel.Run
import StreamTunnel.Proofs.Tunnel.Watch
import StreamTunnel.Proofs.Tunnel.Mirrors
import StreamTunnel.Proofs.Tunnel.Sessions
import StreamTunnel.Proofs.Link.Carrier
import StreamTunnel.Proofs.Mux.Drawing
import StreamTunnel.Proofs.Tunnel.Noted
import StreamTunnel.Proofs.Tunnel.OneRoute
import StreamTunnel.Proofs.Tunnel.Endings
import StreamTunnel.Proofs.Link.Starting
import StreamTunnel.Proofs.Link.Standing
import StreamTunnel.Proofs.Link.Phases
import StreamTunnel.Proofs.Link.Superseding
import StreamTunnel.Proofs.Mux.Leaving
import StreamTunnel.Proofs.Tunnel.Stages
import StreamTunnel.Proofs.Tunnel.Leaving
import StreamTunnel.Proofs.Link.Accounts
import StreamTunnel.Proofs.Tunnel.Survivors
import StreamTunnel.Proofs.Link.Budget
import StreamTunnel.Proofs.Link.Retrying
import StreamTunnel.Proofs.Endpoint.Backlog
import StreamTunnel.Proofs.Endpoint.Burst
import StreamTunnel.Proofs.Endpoint.Oversized
import StreamTunnel.Proofs.Endpoint.Listed
import StreamTunnel.Proofs.Endpoint.Handshake
import StreamTunnel.Proofs.Mux.Chunking
import StreamTunnel.Proofs.Mux.Life
import StreamTunnel.Proofs.Mux.Missing
import StreamTunnel.Proofs.Mux.Handles
import StreamTunnel.Proofs.Mux.Farewell
import StreamTunnel.Proofs.Mux.FreshIds
import StreamTunnel.Proofs.Mux.Coming
import StreamTunnel.Proofs.Local.Serving
import StreamTunnel.Proofs.Local.Modes
import StreamTunnel.Proofs.StreamId
import StreamTunnel.Proofs.Mux.Within
import StreamTunnel.Proofs.Tunnel.Parted
import StreamTunnel.Proofs.Tunnel.Routing
