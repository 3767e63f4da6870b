import NocRouting.Architecture
import NocRouting.Arithmetic
import NocRouting.Block
import NocRouting.Command
import NocRouting.CommandLine
import NocRouting.Constraint.Basic
import NocRouting.Constraint.Exhaustive
import NocRouting.Constraint.Limits
import NocRouting.Constraint.Meaning
import NocRouting.Constraint.Parameters
import NocRouting.Constraint.Session
import NocRouting.Context
import NocRouting.Description
import NocRouting.Device.Fabric
import NocRouting.Device.Grid
import NocRouting.Device.Tile
import NocRouting.Direction
import NocRouting.Engine
import NocRouting.Enumeration
import NocRouting.Fault
import NocRouting.Formula
import NocRouting.Index
import NocRouting.Itinerary
import NocRouting.Json.Fault
import NocRouting.Json.Reading
import NocRouting.LinearExpr
import NocRouting.Log
import NocRouting.Main
import NocRouting.Model.Build
import NocRouting.Model.Draft
import NocRouting.Model.Figures
import NocRouting.Model.Quantities
import NocRouting.Model.Variable
import NocRouting.Number.Basic
import NocRouting.Number.Exact
import NocRouting.Number.Layout
import NocRouting.Number.Nearest
import NocRouting.Number.Reading
import NocRouting.Number.Shortest
import NocRouting.Position
import NocRouting.ProblemFile
import NocRouting.Proofs.Command.Descriptions
import NocRouting.Proofs.Command.Endings
import NocRouting.Proofs.Command.Itineraries
import NocRouting.Proofs.Command.Models
import NocRouting.Proofs.Command.Networks
import NocRouting.Proofs.Command.Options
import NocRouting.Proofs.Command.Walks
import NocRouting.Proofs.Device.Cells
import NocRouting.Proofs.Device.Discovery
import NocRouting.Proofs.Device.Footprints
import NocRouting.Proofs.Device.Placements
import NocRouting.Proofs.Device.Writing
import NocRouting.Proofs.Faults
import NocRouting.Proofs.Formulas
import NocRouting.Proofs.Identity
import NocRouting.Proofs.Lists
import NocRouting.Proofs.Model.Assembly
import NocRouting.Proofs.Model.Circuit
import NocRouting.Proofs.Model.Congestion
import NocRouting.Proofs.Model.Costs
import NocRouting.Proofs.Model.Creation
import NocRouting.Proofs.Model.Draft
import NocRouting.Proofs.Model.Exactness
import NocRouting.Proofs.Model.Failures
import NocRouting.Proofs.Model.Families
import NocRouting.Proofs.Model.Hints
import NocRouting.Proofs.Model.Joins
import NocRouting.Proofs.Model.Latency
import NocRouting.Proofs.Model.Measures
import NocRouting.Proofs.Model.Misconfiguration
import NocRouting.Proofs.Model.Names
import NocRouting.Proofs.Model.Outline
import NocRouting.Proofs.Model.Priorities
import NocRouting.Proofs.Model.Progress
import NocRouting.Proofs.Model.Quantities
import NocRouting.Proofs.Model.Renaming
import NocRouting.Proofs.Model.Reordering
import NocRouting.Proofs.Model.Routability
import NocRouting.Proofs.Model.Scope
import NocRouting.Proofs.Network.Acceptance
import NocRouting.Proofs.Network.Chains
import NocRouting.Proofs.Network.Compression
import NocRouting.Proofs.Network.Deadlock
import NocRouting.Proofs.Network.Displacement
import NocRouting.Proofs.Network.Following
import NocRouting.Proofs.Network.Growth
import NocRouting.Proofs.Network.History
import NocRouting.Proofs.Network.Lookup
import NocRouting.Proofs.Network.Mesh
import NocRouting.Proofs.Network.Path
import NocRouting.Proofs.Network.Positions
import NocRouting.Proofs.Network.Ranks
import NocRouting.Proofs.Network.Reversals
import NocRouting.Proofs.Network.Routing
import NocRouting.Proofs.Network.Tables
import NocRouting.Proofs.Network.Travel
import NocRouting.Proofs.Network.Turns
import NocRouting.Proofs.Outcome
import NocRouting.Proofs.Realisation.Exactness
import NocRouting.Proofs.Realisation.Linking
import NocRouting.Proofs.Realisation.Order
import NocRouting.Proofs.Realisation.Placement
import NocRouting.Proofs.Route.Bandwidth
import NocRouting.Proofs.Route.Completeness
import NocRouting.Proofs.Route.Failures
import NocRouting.Proofs.Route.Limits
import NocRouting.Proofs.Route.Order
import NocRouting.Proofs.Route.Protocol
import NocRouting.Proofs.Route.Reading
import NocRouting.Proofs.Route.Refinement
import NocRouting.Proofs.Route.Runs
import NocRouting.Proofs.Route.Soundness
import NocRouting.Proofs.Whole
import NocRouting.Realisation
import NocRouting.Route
import NocRouting.Search.Best
import NocRouting.Search.Bound
import NocRouting.Search.Course
import NocRouting.Search.Engine
import NocRouting.Search.Problem
import NocRouting.Search.Settled
import NocRouting.Stage
import NocRouting.Status
import NocRouting.Steps
import NocRouting.Table
import NocRouting.Text.Basic
import NocRouting.Text.Numeral
import NocRouting.Text.Printable
import NocRouting.Text.Quoted
import NocRouting.Text.Utf8
import NocRouting.Topology.Basic
import NocRouting.Topology.Chain
import NocRouting.Topology.Network
import NocRouting.Topology.Turns
import NocRouting.Traffic
import NocRouting.TurnModel
import NocRouting.Value
