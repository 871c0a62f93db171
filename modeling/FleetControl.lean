import FleetControl.CommandLine.Daemon
import FleetControl.Engine.Client
import FleetControl.Main
import FleetControl.Proofs.Engine.Amounts
import FleetControl.Proofs.Engine.Framing
import FleetControl.Proofs.Engine.StatsStream
import FleetControl.Proofs.Fleet.Units
import FleetControl.Proofs.Gpu.Turns
import FleetControl.Proofs.Placement.Decision
import FleetControl.Proofs.Placement.Headroom
import FleetControl.Proofs.Placement.Ranking
import FleetControl.Proofs.Rest.Isolation
import FleetControl.Proofs.Rest.Registration
import FleetControl.Proofs.Service.Atomic
import FleetControl.Proofs.Service.Batch
import FleetControl.Proofs.Service.ImageRemoval
import FleetControl.Proofs.Service.Names
import FleetControl.Proofs.Service.Overlap
import FleetControl.Proofs.Service.Release
import FleetControl.Proofs.Service.Rounds
import FleetControl.Proofs.Store.History
import FleetControl.Proofs.Store.Paging
import FleetControl.Proofs.Telemetry.Freshness
import FleetControl.Proofs.Telemetry.Limit
import FleetControl.Proofs.Telemetry.Processors
import FleetControl.Proofs.Terminal.Session
import FleetControl.Record.Summary
import FleetControl.Rest.Serve
import FleetControl.Service.Reconcile
import FleetControl.Store.Seed
import FleetControl.Terminal.Session
import FleetControl.Toml.Parser
