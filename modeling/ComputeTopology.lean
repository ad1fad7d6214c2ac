import ComputeTopology.Capture.Writer
import ComputeTopology.Platform.Call
import ComputeTopology.Platform.Table
import ComputeTopology.Main
import ComputeTopology.Proofs.Survey.Outcome
import ComputeTopology.Proofs.Survey.Pruning
import ComputeTopology.Proofs.Survey.Numbering
import ComputeTopology.Proofs.Survey.Agreement
import ComputeTopology.Proofs.Survey.Steps
import ComputeTopology.Proofs.Survey.Descriptions
import ComputeTopology.Proofs.Capture.Records
import ComputeTopology.Proofs.Capture.Inventory
import ComputeTopology.Proofs.Diagnostics.Stages
import ComputeTopology.Proofs.Session.Lifecycle
import ComputeTopology.Proofs.Diagnostics.Teardown
import ComputeTopology.Proofs.FileTree.Listing
import ComputeTopology.Proofs.Kfd.Capture
import ComputeTopology.Proofs.Kfd.Survey
import ComputeTopology.Proofs.Diagnostics.Delivery
import ComputeTopology.Proofs.Kfd.Outcome
import ComputeTopology.Proofs.ReportText.Sections
import ComputeTopology.Proofs.Capture.Recording
import ComputeTopology.Proofs.Kfd.Reproduction
import ComputeTopology.Proofs.Capture.RoundTrip
import ComputeTopology.Proofs.Capture.Rearrangement
import ComputeTopology.Proofs.Platform.Lifecycle
import ComputeTopology.Proofs.Platform.Handles
import ComputeTopology.Proofs.FileTree.Paths
import ComputeTopology.Proofs.FileTree.Places
import ComputeTopology.Proofs.Kfd.Reading
import ComputeTopology.Proofs.FileTree.Changes
import ComputeTopology.Proofs.Kfd.Locality
import ComputeTopology.Proofs.FileTree.Relisting
import ComputeTopology.Proofs.Kfd.ListingOrder
import ComputeTopology.Proofs.ReportText.Lines
import ComputeTopology.Proofs.ReportText.Structure
import ComputeTopology.Proofs.CommandLine.Choices
import ComputeTopology.Proofs.Kfd.Nodes
import ComputeTopology.Proofs.Kfd.Agents
import ComputeTopology.Proofs.Survey.Widths
import ComputeTopology.Proofs.Kfd.Figures
import ComputeTopology.Proofs.Text.Pieces
import ComputeTopology.Proofs.ReportText.Heads
import ComputeTopology.Proofs.ReportText.BankSizes
import ComputeTopology.Proofs.Text.Numerals
import ComputeTopology.Proofs.Text.Words
import ComputeTopology.Proofs.Kfd.PropertyLines
import ComputeTopology.Proofs.Kfd.ProcessorBlocks
import ComputeTopology.Proofs.Kfd.ProductTables
import ComputeTopology.Proofs.Kfd.KilobyteSizes
import ComputeTopology.Proofs.Kfd.OverrideVariables
import ComputeTopology.Proofs.Kfd.GpuNames
import ComputeTopology.Proofs.Kfd.GpuProducts
import ComputeTopology.Proofs.Kfd.CpuNames
import ComputeTopology.Proofs.ReportText.Names
