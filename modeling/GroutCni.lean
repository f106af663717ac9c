import GroutCni.Effect.Program
import GroutCni.Effect.Fault
import GroutCni.Effect.Lock
import GroutCni.Effect.Serial
import GroutCni.Effect.Schedule
import GroutCni.Effect.Interp
import GroutCni.Effect.Simulation
import GroutCni.Effect.Trace
import GroutCni.Effect.Protocol
import GroutCni.Effect.Flock
import GroutCni.Effect.Pool
import GroutCni.Effect.Mutex
import GroutCni.Wire.Bytes
import GroutCni.Go.Basic
import GroutCni.Go.Filepath
import GroutCni.Go.Net
import GroutCni.Go.Digest
import GroutCni.Api.Types
import GroutCni.Api.Protocol
import GroutCni.Api.Stream
import GroutCni.Api.Client
import GroutCni.Api.Server
import GroutCni.Api.Session
import GroutCni.Api.Layout
import GroutCni.Api.Flood
import GroutCni.Api.Prefixes
import GroutCni.Api.Message
import GroutCni.Api.Meaning
import GroutCni.Api.Service
import GroutCni.Api.Rendering
import GroutCni.Api.Connection
import GroutCni.Api.Goroutines
import GroutCni.Cni.Types
import GroutCni.Cni.PortName
import GroutCni.Cni.Config
import GroutCni.Cni.Names
import GroutCni.Cni.Ops
import GroutCni.Cni.Netns
import GroutCni.Cni.Handler
import GroutCni.Cni.Gateways
import GroutCni.Cni.Identity
import GroutCni.Cni.Mac
import GroutCni.Cni.Main
import GroutCni.Node.Grout
import GroutCni.Node.World
import GroutCni.Node.History
import GroutCni.Node.Script
import GroutCni.Node.Messages
import GroutCni.Node.Kernel
import GroutCni.Node.SimpleKernel
import GroutCni.Handlers.Listing
import GroutCni.Handlers.Add
import GroutCni.Handlers.AddLog
import GroutCni.Handlers.Prune
import GroutCni.Handlers.Check
import GroutCni.Handlers.Exact
import GroutCni.Handlers.Event
import GroutCni.Handlers.OverClient
import GroutCni.Handlers.Failing
import GroutCni.Handlers.Performs
import GroutCni.Handlers.OverWire
import GroutCni.Handlers.Reference
import GroutCni.Handlers.Foreign
import GroutCni.Handlers.Filling
import GroutCni.Lifecycle.Refinement
import GroutCni.Lifecycle.Isolation
import GroutCni.Lifecycle.Atomicity
import GroutCni.Lifecycle.Reservation
import GroutCni.Lifecycle.Concurrency
import GroutCni.Lifecycle.Recovery
import GroutCni.Lifecycle.Collection
import GroutCni.Lifecycle.Agreement
import GroutCni.Lifecycle.Sockets
import GroutCni.Lifecycle.Removal
import GroutCni.Lifecycle.Bridge
import GroutCni.Lifecycle.Chain
import GroutCni.Lifecycle.Panics
import GroutCni.Lifecycle.Wire
import GroutCni.Lifecycle.Locking
import GroutCni.Lifecycle.RoundTrip
import GroutCni.Lifecycle.Retry
import GroutCni.Lifecycle.Pod
