import ClusterHosts.Kubeconfig
import ClusterHosts.Inventory
import ClusterHosts.Files.Tree
import ClusterHosts.Main
import ClusterHosts.Proofs.Interchange
import ClusterHosts.Proofs.Listed
import ClusterHosts.Proofs.Readback
import ClusterHosts.Proofs.Merging
import ClusterHosts.Proofs.Usable
import ClusterHosts.Proofs.CommandLine
import ClusterHosts.Proofs.EffectiveInputs
import ClusterHosts.Proofs.Drafting
import ClusterHosts.Proofs.Kept
import ClusterHosts.Proofs.LaterRuns
import ClusterHosts.Proofs.Words
import ClusterHosts.Proofs.Filter
import ClusterHosts.Proofs.Attributes
import ClusterHosts.Proofs.Queries
import ClusterHosts.Proofs.Searching
import ClusterHosts.Proofs.Course
import ClusterHosts.Proofs.Hosts
import ClusterHosts.Proofs.Demands
import ClusterHosts.Proofs.Acceptance
import ClusterHosts.Proofs.Agreement
import ClusterHosts.Proofs.Rendering
import ClusterHosts.Proofs.Views
import ClusterHosts.Proofs.Display
import ClusterHosts.Proofs.Selection
import ClusterHosts.Proofs.NumericAttributes
import ClusterHosts.Proofs.Lookup
import ClusterHosts.Proofs.Connecting
