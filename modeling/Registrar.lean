import Registrar.Interaction
import Registrar.Json.Reader
import Registrar.Decode.FromJson
import Registrar.Failure.Basic
import Registrar.Retry
import Registrar.Api.Message
import Registrar.Api.Status
import Registrar.World.Basic
import Registrar.Manifest
import Registrar.Metrics.Exposition
import Registrar.Shutdown
import Registrar.Cache
import Registrar.Resource.Registration
import Registrar.Resource.Operator
import Registrar.Resource.Endpoints
import Registrar.Time.Instant
import Registrar.Cluster.Cycle
import Registrar.Script.Setting
import Registrar.Script.Simulation
import Registrar.Resource.Definition
import Registrar.Yaml.Writer
import Registrar.CommandLine.Execution
import Registrar.Web.Pages
import Registrar.Main
import Registrar.Proofs.Cycle.Phases
import Registrar.Proofs.Cycle.Resolution
import Registrar.Proofs.Cycle.Evidence
import Registrar.Proofs.Ownership
import Registrar.Proofs.Reporting
import Registrar.Proofs.Gate
import Registrar.Proofs.World.Effects
import Registrar.Proofs.World.Forecast
import Registrar.Proofs.Contents
import Registrar.Proofs.Suppression
import Registrar.Proofs.Repetition
import Registrar.Proofs.Teardown
import Registrar.Proofs.Conditions
import Registrar.Proofs.Cluster.Exchanges
import Registrar.Proofs.Cluster.StatusWrites
import Registrar.Proofs.Controller.Delays
import Registrar.Proofs.Controller.Retries
import Registrar.Proofs.Acceptance
import Registrar.Proofs.Opening
import Registrar.Proofs.Cycle.Order
import Registrar.Proofs.Cycle.Course
import Registrar.Proofs.Transcript
import Registrar.Proofs.Records
import Registrar.Proofs.Cluster.StatusServer
import Registrar.Proofs.SteadyState
import Registrar.Proofs.LastWord
import Registrar.Proofs.Cluster.Startup
import Registrar.Proofs.Controller.History
import Registrar.Proofs.Controller.Steps
import Registrar.Proofs.Controller.Startup
import Registrar.Proofs.Controller.CompleteCache
import Registrar.Proofs.Script.Surroundings
import Registrar.Proofs.Metering
import Registrar.Proofs.Failures
import Registrar.Proofs.World.Keyed
import Registrar.Proofs.Rearrangement
import Registrar.Proofs.Cluster.StatusStore
import Registrar.Proofs.Cluster.LostUpdates
import Registrar.Proofs.ObservedGeneration
import Registrar.Proofs.Readiness
import Registrar.Proofs.ByteOrder
import Registrar.Proofs.FirstUnready
import Registrar.Proofs.Verdict
import Registrar.Proofs.Cluster.CreationRace
import Registrar.Proofs.RoundTrip.Resources
import Registrar.Proofs.RoundTrip.Instants
import Registrar.Proofs.RoundTrip.Metadata
import Registrar.Proofs.RoundTrip.Objects
import Registrar.Proofs.Transitions
import Registrar.Proofs.Division
import Registrar.Proofs.Batches
import Registrar.Proofs.Backing
import Registrar.Proofs.Cycle.Listing
import Registrar.Proofs.Waiting
import Registrar.Proofs.Cluster.ApplyRequests
import Registrar.Proofs.Cluster.ChangeReports
import Registrar.Proofs.Cluster.Discovery
import Registrar.Proofs.Layers
