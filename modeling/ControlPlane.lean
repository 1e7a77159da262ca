import ControlPlane.Main
import ControlPlane.Job.Script
import ControlPlane.Operation.Scoped
import ControlPlane.Platform.Responder
import ControlPlane.Platform.Scenario
import ControlPlane.Proofs.Exchange.Actions
import ControlPlane.Proofs.Exchange.Deletion
import ControlPlane.Proofs.Exchange.Endings
import ControlPlane.Proofs.Exchange.Locations
import ControlPlane.Proofs.Exchange.Names
import ControlPlane.Proofs.Exchange.Refusals
import ControlPlane.Proofs.Exchange.Segments
import ControlPlane.Proofs.Exchange.Within
import ControlPlane.Proofs.Json.Entities
import ControlPlane.Proofs.Operation.Outcomes
import ControlPlane.Proofs.Paging.Ending
import ControlPlane.Proofs.Paging.Laziness
import ControlPlane.Proofs.Paging.Polls
import ControlPlane.Proofs.Paging.Resolving
import ControlPlane.Proofs.Paging.Whole
import ControlPlane.Proofs.Platform.Deletions
import ControlPlane.Proofs.Platform.Interleavings
import ControlPlane.Proofs.Platform.Listing
import ControlPlane.Proofs.Platform.Namesakes
import ControlPlane.Proofs.Platform.Partition
import ControlPlane.Proofs.Platform.Queries
import ControlPlane.Proofs.Platform.Secrecy
import ControlPlane.Proofs.Platform.Starts
import ControlPlane.Proofs.Platform.Successors
import ControlPlane.Proofs.Platform.Versions
import ControlPlane.Proofs.Waiting.Budget
import ControlPlane.Proofs.Waiting.Calls
import ControlPlane.Proofs.Waiting.Doubling
import ControlPlane.Proofs.Waiting.Dropping
import ControlPlane.Proofs.Waiting.Extension
import ControlPlane.Proofs.Waiting.Intervals
import ControlPlane.Proofs.Waiting.Lockstep
import ControlPlane.Proofs.Waiting.Overflow
import ControlPlane.Proofs.Waiting.Schedule
import ControlPlane.Proofs.Lengths
