import ThreatScan.Host.Memory
import ThreatScan.Main
import ThreatScan.Proofs.Advisory.Versions
import ThreatScan.Proofs.Analysis.Overwritten
import ThreatScan.Proofs.Analysis.Success
import ThreatScan.Proofs.Analysis.Unreported
import ThreatScan.Proofs.Hook.Delegation
import ThreatScan.Proofs.Hook.Shared
import ThreatScan.Proofs.Host.ClassFile
import ThreatScan.Proofs.Log.FileRecords
import ThreatScan.Proofs.Log.Forgery
import ThreatScan.Proofs.Manifest.Artifacts
import ThreatScan.Proofs.Manifest.Elements
import ThreatScan.Proofs.Manifest.Modules
import ThreatScan.Proofs.Outline.Blocks
import ThreatScan.Proofs.Page.Archives
import ThreatScan.Proofs.Page.BatchReports
import ThreatScan.Proofs.Page.Uploads
import ThreatScan.Proofs.Report.Brackets
import ThreatScan.Proofs.Rule.Joined
import ThreatScan.Proofs.Sandbox.CleanUp
import ThreatScan.Proofs.Sandbox.Literals
import ThreatScan.Proofs.Sandbox.Tests
import ThreatScan.Proofs.Snippet.Reordered
import ThreatScan.Proofs.Snippet.Shown
import ThreatScan.Proofs.Syntax.Branches
import ThreatScan.Proofs.Syntax.Functions
import ThreatScan.Proofs.Taint.Insertion
import ThreatScan.Proofs.Taint.Joined
import ThreatScan.Proofs.Taint.Notes
import ThreatScan.Proofs.Taint.Renaming
import ThreatScan.Proofs.Threat.Grounds
import ThreatScan.Proofs.Threat.MarkedLines
import ThreatScan.Rule.ShippedFiles
