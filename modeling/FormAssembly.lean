import FormAssembly.Ascending
import FormAssembly.Assembly.Basic
import FormAssembly.Assembly.Options
import FormAssembly.Assembly.Pass
import FormAssembly.Coefficient.Basic
import FormAssembly.Coefficient.Registry
import FormAssembly.Error
import FormAssembly.Event
import FormAssembly.Form.Basic
import FormAssembly.Form.Descriptor
import FormAssembly.Integral.Kernel
import FormAssembly.Integral.Kind
import FormAssembly.Integral.Registry
import FormAssembly.Interchange
import FormAssembly.Json.Basic
import FormAssembly.Json.Fields
import FormAssembly.Json.Reader
import FormAssembly.Mesh.Basic
import FormAssembly.Mesh.FacetCensus
import FormAssembly.Mesh.Grid
import FormAssembly.Mesh.Markers
import FormAssembly.Mesh.Point
import FormAssembly.Mesh.Simplex
import FormAssembly.Message.Code
import FormAssembly.Message.Exchange
import FormAssembly.Message.Mailbox
import FormAssembly.Message.Member
import FormAssembly.Message.Script
import FormAssembly.Message.World
import FormAssembly.Number.Binary64
import FormAssembly.Number.Decimal
import FormAssembly.Number.LittleEndian
import FormAssembly.Proofs.Assembly.Accumulation
import FormAssembly.Proofs.Assembly.Complete
import FormAssembly.Proofs.Assembly.Correspondence
import FormAssembly.Proofs.Assembly.Discarded
import FormAssembly.Proofs.Assembly.Discipline
import FormAssembly.Proofs.Assembly.FreshBuffers
import FormAssembly.Proofs.Assembly.Offset
import FormAssembly.Proofs.Assembly.Replicas
import FormAssembly.Proofs.Assembly.SharedBuffers
import FormAssembly.Proofs.Assembly.Transport
import FormAssembly.Proofs.Coefficient.Labels
import FormAssembly.Proofs.Form.CoefficientNames
import FormAssembly.Proofs.Mesh.Census
import FormAssembly.Proofs.Mesh.FacetNumbers
import FormAssembly.Proofs.Mesh.GridEdges
import FormAssembly.Proofs.Mesh.Grids
import FormAssembly.Proofs.Mesh.Simplex
import FormAssembly.Proofs.Message.Agenda
import FormAssembly.Proofs.Message.Callers
import FormAssembly.Proofs.Message.Course
import FormAssembly.Proofs.Message.Dealings
import FormAssembly.Proofs.Message.Deliveries
import FormAssembly.Proofs.Message.Leftover
import FormAssembly.Proofs.Message.Lockstep
import FormAssembly.Proofs.Message.RankOrder
import FormAssembly.Proofs.Message.Rounds
import FormAssembly.Proofs.Message.Scripted
import FormAssembly.Proofs.Message.Unequal
import FormAssembly.Proofs.Message.Values
import FormAssembly.Proofs.Space.Tables
import FormAssembly.Proofs.Tensor.Blocks
import FormAssembly.Proofs.Tensor.Calls
import FormAssembly.Proofs.Tensor.Collective
import FormAssembly.Proofs.Tensor.Distribution
import FormAssembly.Proofs.Tensor.Entries
import FormAssembly.Proofs.Tensor.Faults
import FormAssembly.Proofs.Tensor.Finalize
import FormAssembly.Proofs.Tensor.Passes
import FormAssembly.Proofs.Tensor.RankZero
import FormAssembly.Proofs.Tensor.Replica
import FormAssembly.Proofs.Tensor.RowMajor
import FormAssembly.Proofs.Tensor.Runs
import FormAssembly.Proofs.Tensor.ScriptedPeers
import FormAssembly.Proofs.Tensor.Shapes
import FormAssembly.Proofs.Tensor.Targets
import FormAssembly.Space.Basic
import FormAssembly.Tensor.Basic
import FormAssembly.Tensor.Block
import FormAssembly.Tensor.Dense
import FormAssembly.Tensor.Scalar
import FormAssembly.Text.Inspect
import FormAssembly.Text.Quoted
import FormAssembly.Text.Unseen
import FormAssembly.Proofs.Mesh.Cells
import FormAssembly.Proofs.Space.Lookups
import FormAssembly.Proofs.Space.Standard
import FormAssembly.Proofs.Integral.Insertions
import FormAssembly.Proofs.Integral.Permutations
import FormAssembly.Proofs.Tensor.Shares
import FormAssembly.Proofs.Tensor.CallShapes
import FormAssembly.Proofs.Coefficient.Histories
import FormAssembly.Proofs.Form.Checks
import FormAssembly.Proofs.Form.Building
import FormAssembly.Proofs.Assembly.TwoForms
import FormAssembly.Proofs.Assembly.UnreadCoefficients
import FormAssembly.Proofs.Assembly.Subdomains
import FormAssembly.Proofs.Assembly.Reached
import FormAssembly.Proofs.Assembly.Room
import FormAssembly.Proofs.Assembly.BlockBounds
import FormAssembly.Proofs.Assembly.AnyOrder
import FormAssembly.Proofs.Mesh.Renumbering
import FormAssembly.Proofs.Assembly.Renumbering
import FormAssembly.Proofs.Coefficient.CellValues
import FormAssembly.Proofs.Mesh.Markers
import FormAssembly.Proofs.Mesh.Curves
import FormAssembly.Proofs.Form.LateDeclarations
import FormAssembly.Proofs.Tensor.Visits
