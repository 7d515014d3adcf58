import CodeGraph.Main
import CodeGraph.Proofs.CallDepths
import CodeGraph.Proofs.CycleDetection
import CodeGraph.Proofs.DepthRuns
import CodeGraph.Proofs.DroppedEdges
import CodeGraph.Proofs.EdgeOrder
import CodeGraph.Tools.Call
import CodeGraph.Proofs.BuiltGraph
import CodeGraph.Proofs.StrictBuild
import CodeGraph.Proofs.TraversalLayers
import CodeGraph.Proofs.PortfolioGraph
import CodeGraph.Proofs.Impact
import CodeGraph.Proofs.PathSearch
import CodeGraph.Proofs.Walks
import CodeGraph.Proofs.CallCoverage
import CodeGraph.Proofs.FoundPaths
import CodeGraph.Proofs.CallBounds
import CodeGraph.Proofs.Dependents
import CodeGraph.Proofs.OrderPermutation
import CodeGraph.Proofs.ShuffledGraphs
import CodeGraph.Proofs.DeclarationOrder
import CodeGraph.Proofs.DocumentFaults
import CodeGraph.Proofs.Loading
import CodeGraph.Proofs.ManifestReading
import CodeGraph.Proofs.Scanning
import CodeGraph.Proofs.SharedDependencies
import CodeGraph.Proofs.DeclaredVersions
import CodeGraph.Proofs.UnparsedVersions
import CodeGraph.Proofs.MajorConflicts
import CodeGraph.Proofs.RebuiltGraph
import CodeGraph.Proofs.PortfolioBuilds
import CodeGraph.Proofs.SavedManifests
import CodeGraph.Proofs.LeastOrder
import CodeGraph.Proofs.RelatedCalls
import CodeGraph.Proofs.Distances
import CodeGraph.Proofs.SearchLayers
import CodeGraph.Proofs.ShortestPaths
import CodeGraph.Proofs.ShortestCycles
import CodeGraph.Proofs.LongestChains
import CodeGraph.Proofs.ComponentOrder
import CodeGraph.Proofs.ComponentStack
import CodeGraph.Proofs.RefusedDependencies
import CodeGraph.Proofs.Ranking
import CodeGraph.Proofs.ModuleCalls
import CodeGraph.Proofs.VersionGrammar
import CodeGraph.Proofs.RequirementLines
import CodeGraph.Proofs.InlineComments
import CodeGraph.Proofs.Rereading
import CodeGraph.Proofs.ProjectParts
import CodeGraph.Proofs.RenderedProjects
import CodeGraph.Proofs.InsertedComments
