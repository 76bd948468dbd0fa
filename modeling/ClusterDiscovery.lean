import ClusterDiscovery.CommandLine.Daemon
import ClusterDiscovery.Discovery.Catalog
import ClusterDiscovery.Failure.Construction
import ClusterDiscovery.Logging
import ClusterDiscovery.Main
import ClusterDiscovery.Proofs.AddressedReads
import ClusterDiscovery.Proofs.ClusterReads
import ClusterDiscovery.Proofs.EvaluationCalls
import ClusterDiscovery.Proofs.ExplicitSettings
import ClusterDiscovery.Proofs.FailingReads
import ClusterDiscovery.Proofs.Filtering
import ClusterDiscovery.Proofs.GivenSettings
import ClusterDiscovery.Proofs.HarmlessCalls
import ClusterDiscovery.Proofs.HarmlessFilters
import ClusterDiscovery.Proofs.HarmlessOperators
import ClusterDiscovery.Proofs.InstanceUri
import ClusterDiscovery.Proofs.KnownPorts
import ClusterDiscovery.Proofs.LabelProgram
import ClusterDiscovery.Proofs.LabelSelection
import ClusterDiscovery.Proofs.LabelText
import ClusterDiscovery.Proofs.Listing
import ClusterDiscovery.Proofs.LongLivedClients
import ClusterDiscovery.Proofs.MergedMetadata
import ClusterDiscovery.Proofs.MergedSources
import ClusterDiscovery.Proofs.Namespaces
import ClusterDiscovery.Proofs.PortChoice
import ClusterDiscovery.Proofs.PrimaryPortOption
import ClusterDiscovery.Proofs.RefusedHeartbeats
import ClusterDiscovery.Proofs.RejectedTexts
import ClusterDiscovery.Proofs.RelevantFields
import ClusterDiscovery.Proofs.RetriedCalls
import ClusterDiscovery.Proofs.SelectorText
import ClusterDiscovery.Proofs.StoppedRuns
import ClusterDiscovery.Proofs.UntouchedServices
import ClusterDiscovery.Settings.Assignment
