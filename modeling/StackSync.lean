import StackSync.Aws.Answer
import StackSync.Cluster.Round
import StackSync.FileTree.Plant
import StackSync.Json.Printer
import StackSync.Proofs.Reconcile.Readiness
import StackSync.Proofs.Reconcile.Retrying
import StackSync.Proofs.Reconcile.Verdict
import StackSync.Proofs.Reconcile.Writers
import StackSync.Proofs.Status.Generations
import StackSync.Resource.Definition
import StackSync.Simulation.Rehearsal
import StackSync.Text.Base64
import StackSync.Proofs.Cloud.Working
import StackSync.Proofs.Reconcile.Turn
import StackSync.Proofs.Reconcile.Stability
import StackSync.Proofs.Reconcile.Approach
import StackSync.Proofs.Reconcile.Serving
import StackSync.Proofs.Reconcile.Convergence
import StackSync.Proofs.Cluster.Finalizers
import StackSync.Proofs.Reconcile.ObjectKey
import StackSync.Proofs.Reconcile.Ledger
import StackSync.Proofs.Cloud.Frame
import StackSync.Proofs.Reconcile.Fleet
import StackSync.Proofs.Reconcile.Execution
import StackSync.Proofs.Reconcile.Announcement
import StackSync.Proofs.Reconcile.Departure
import StackSync.Proofs.Reconcile.Remainder
import StackSync.Proofs.Reconcile.Gate
import StackSync.Proofs.FileTree.Walk
import StackSync.Proofs.Artifact.InnerPath
import StackSync.Proofs.FileTree.Amending
import StackSync.Proofs.FileTree.Renaming
import StackSync.Proofs.Archive.Unpacking
import StackSync.Proofs.Archive.Plain
import StackSync.Proofs.Artifact.Naming
import StackSync.Proofs.Artifact.Download
import StackSync.Proofs.Reconcile.Repetition
import StackSync.Proofs.Reconcile.Reuse
import StackSync.Proofs.Status.Upserts
import StackSync.Proofs.Resource.RoundTrip
import StackSync.Proofs.Cloud.Session
import StackSync.Proofs.Reconcile.Submission
import StackSync.Proofs.Status.Comparison
import StackSync.Proofs.Duration.Grammar
import StackSync.Proofs.Settings.Tags
import StackSync.Proofs.Text.Causes
