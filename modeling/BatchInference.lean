import BatchInference.Session
import BatchInference.Codec.Model
import BatchInference.Codec.Adapter
import BatchInference.Codec.Update
import BatchInference.Scripted.Engine
import BatchInference.Proofs.Activity
import BatchInference.Proofs.Batch.Order
import BatchInference.Proofs.Engine.Work
import BatchInference.Proofs.Batch.Ends
import BatchInference.Proofs.Engine.Contract
import BatchInference.Proofs.Batch.Validation
import BatchInference.Proofs.Session.Preserves
import BatchInference.Proofs.Batch.Answers
import BatchInference.Proofs.Session.History
import BatchInference.Proofs.Batch.Serving
import BatchInference.Proofs.Session.Served
import BatchInference.Proofs.Scripted.Contract
import BatchInference.Proofs.Session.Leftovers
import BatchInference.Proofs.Beam.Requests
import BatchInference.Proofs.Beam.Ranking
import BatchInference.Proofs.Beam.Steps
import BatchInference.Proofs.Beam.Pairing
import BatchInference.Proofs.Beam.Alone
import BatchInference.Proofs.Beam.Lineage
import BatchInference.Proofs.Beam.Independence
import BatchInference.Proofs.Beam.Selection
import BatchInference.Proofs.Session.Refusals
import BatchInference.Proofs.Score.Ends
import BatchInference.Proofs.Score.Refusals
import BatchInference.Proofs.Scripted.Shown
import BatchInference.Proofs.Beam.Generated
import BatchInference.Proofs.Beam.Runs
import BatchInference.Proofs.Beam.Stopping
import BatchInference.Proofs.Beam.Width
import BatchInference.Proofs.Beam.Tree
import BatchInference.Proofs.Beam.Exhaustive
import BatchInference.Proofs.Session.Chronicle
import BatchInference.Proofs.Beam.Submitted
import BatchInference.Proofs.Score.Pairing
import BatchInference.Proofs.Display
import BatchInference.Proofs.Batch.Display
import BatchInference.Proofs.Session.Display
import BatchInference.Proofs.Beam.Display
import BatchInference.Proofs.Batch.Conventions
import BatchInference.Proofs.Score.Repetition
import BatchInference.Proofs.Session.Conventions
import BatchInference.Proofs.Batch.Pointwise
import BatchInference.Proofs.Engine.Stretches
import BatchInference.Proofs.Batch.Drained
import BatchInference.Proofs.Remarks
import BatchInference.Proofs.Batch.Remarks
import BatchInference.Proofs.Batch.Submitted
import BatchInference.Proofs.Session.Watched
import BatchInference.Proofs.Num.Values
import BatchInference.Proofs.Params.Ranges
import BatchInference.Proofs.Session.Guidance
import BatchInference.Proofs.Score.Documents
import BatchInference.Proofs.Beam.Greedy
import BatchInference.Proofs.Batch.Timetable
import BatchInference.Proofs.Cadence
import BatchInference.Proofs.Engine.Timetable
import BatchInference.Proofs.Session.Truncation
