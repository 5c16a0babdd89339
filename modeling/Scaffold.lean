import Scaffold.Main
import Scaffold.System.Machine
import Scaffold.Proofs.Document.Composition
import Scaffold.Proofs.Import.Chain
import Scaffold.Proofs.Import.Graph
import Scaffold.Proofs.Dialogue
import Scaffold.Proofs.Occurrences
import Scaffold.Proofs.Emission.Splicing
import Scaffold.Proofs.Range
import Scaffold.Proofs.Range.Combinations
import Scaffold.Proofs.Evaluation
import Scaffold.Proofs.Work
import Scaffold.Proofs.Generation.Templates
import Scaffold.Proofs.Generation.Schedule
import Scaffold.Proofs.Generation.Performance
import Scaffold.Proofs.Generation.Order
import Scaffold.Proofs.Emission.Planning
import Scaffold.Proofs.Sight
import Scaffold.Proofs.Generation.Fields
import Scaffold.Proofs.Generation.Responses
import Scaffold.Proofs.Emission.Queue
import Scaffold.Proofs.Import.Acts
import Scaffold.Proofs.Import.Tree
import Scaffold.Proofs.Import.Depth
import Scaffold.Proofs.Launch
import Scaffold.Proofs.Emission.Refusal
import Scaffold.Proofs.FileSystem.Path
import Scaffold.Proofs.Emission.Confinement
import Scaffold.Proofs.Yaml.Reading
import Scaffold.Proofs.Failure
import Scaffold.Proofs.Generation.Soundness
import Scaffold.Proofs.Expr.Calls
import Scaffold.Proofs.Expr.Stops
import Scaffold.Proofs.Expr.Filters
import Scaffold.Proofs.Expr.Composition
import Scaffold.Proofs.Evaluation.Frame
import Scaffold.Proofs.Evaluation.Signals
import Scaffold.Proofs.Evaluation.Endings
import Scaffold.Proofs.Generation.Environment
import Scaffold.Proofs.Generation.Items
import Scaffold.Proofs.Generation.Hooks
import Scaffold.Proofs.FileSystem.Changes
import Scaffold.Proofs.FileSystem.Directories
import Scaffold.Proofs.Emission.Footprint
import Scaffold.Proofs.Encoding
import Scaffold.Proofs.Evaluation.Rows
import Scaffold.Proofs.Remote.Preparation
import Scaffold.Proofs.Remote.Address
import Scaffold.Proofs.OrderedMap.History
import Scaffold.Proofs.Encoding.Digits
import Scaffold.Proofs.Remote.Stages
import Scaffold.Proofs.Remote.Layers
import Scaffold.Proofs.Remote.Acceptance
import Scaffold.Proofs.Text.Segments
import Scaffold.Proofs.Script
import Scaffold.Proofs.Field
import Scaffold.Proofs.Range.Forms
import Scaffold.Proofs.Project
