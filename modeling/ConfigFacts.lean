import ConfigFacts.AccessList
import ConfigFacts.Address
import ConfigFacts.Bgp
import ConfigFacts.Bins
import ConfigFacts.Community
import ConfigFacts.CommunityList
import ConfigFacts.ConfigDirectory
import ConfigFacts.Device
import ConfigFacts.Double.Basic
import ConfigFacts.Double.Numeral
import ConfigFacts.Double.Reading
import ConfigFacts.Double.Shortest
import ConfigFacts.Dump
import ConfigFacts.Extraction.Basic
import ConfigFacts.Fact.Basic
import ConfigFacts.Fact.Kind
import ConfigFacts.Family.AccessLists
import ConfigFacts.Family.Basic
import ConfigFacts.Family.Bgp
import ConfigFacts.Family.CommunityLists
import ConfigFacts.Family.Interfaces
import ConfigFacts.Family.Ospf
import ConfigFacts.Family.Policies
import ConfigFacts.Family.RouteFilters
import ConfigFacts.Family.Routes
import ConfigFacts.FileTree
import ConfigFacts.Form.Device
import ConfigFacts.Form.Filters
import ConfigFacts.Form.Policies
import ConfigFacts.Form.Routing
import ConfigFacts.Form.Values
import ConfigFacts.Interface
import ConfigFacts.Json.Form
import ConfigFacts.Json.Printer
import ConfigFacts.Json.Quoted
import ConfigFacts.Json.Reader
import ConfigFacts.Json.Value
import ConfigFacts.Ledger
import ConfigFacts.LineAction
import ConfigFacts.Main
import ConfigFacts.Network
import ConfigFacts.Ospf
import ConfigFacts.Pattern.Basic
import ConfigFacts.Pattern.Bracket
import ConfigFacts.Pattern.CharacterSet
import ConfigFacts.Pattern.Escape
import ConfigFacts.Pattern.Mode
import ConfigFacts.Pattern.Part
import ConfigFacts.Pattern.Property
import ConfigFacts.Pattern.Reader
import ConfigFacts.PolicyMap
import ConfigFacts.PolicyMap.Draft
import ConfigFacts.Program.Options
import ConfigFacts.Program.Plan
import ConfigFacts.Route
import ConfigFacts.RouteFilter
import ConfigFacts.Session
import ConfigFacts.SortedMap
import ConfigFacts.Span
import ConfigFacts.Text.Blank
import ConfigFacts.Text.Digits
import ConfigFacts.Text.Letters
import ConfigFacts.Text.Lines
import ConfigFacts.Topology
import ConfigFacts.Topology.EdgeList
import ConfigFacts.Proofs.Bins
import ConfigFacts.Proofs.Extraction
import ConfigFacts.Proofs.Writing.Basic
import ConfigFacts.Proofs.Writing.Families
import ConfigFacts.Proofs.Network.Jobs
import ConfigFacts.Proofs.Network.Sequential
import ConfigFacts.Proofs.Writing.AppendOnly
import ConfigFacts.Proofs.Fault.Construct
import ConfigFacts.Proofs.Fault.Traversal
import ConfigFacts.Proofs.Writing.Footprint
import ConfigFacts.Proofs.Fault.Stop
import ConfigFacts.Proofs.Fault.LeftBehind
import ConfigFacts.Proofs.Fault.Unrecognized
import ConfigFacts.Proofs.Wire.History
import ConfigFacts.Proofs.Network.Facts
import ConfigFacts.Proofs.Communities.Influence
import ConfigFacts.Proofs.Communities.Agreement
import ConfigFacts.Proofs.Address
import ConfigFacts.Proofs.Relations.Constructs
import ConfigFacts.Proofs.Relations.Integrity
import ConfigFacts.Proofs.Relations.Schema
import ConfigFacts.Proofs.Wire.Marks
import ConfigFacts.Proofs.Relations.Conformance
import ConfigFacts.Proofs.Network.Namespaces
import ConfigFacts.Proofs.Double.Finite
import ConfigFacts.Proofs.Json.Quoted
import ConfigFacts.Proofs.Json.Numeral
import ConfigFacts.Proofs.Json.Spelling
import ConfigFacts.Proofs.Json.Document
import ConfigFacts.Proofs.Form.Recovery
import ConfigFacts.Proofs.Form.Lossless
import ConfigFacts.Proofs.Form.Finite
import ConfigFacts.Proofs.Form.RoundTrip
import ConfigFacts.Proofs.Form.Shape
import ConfigFacts.Proofs.Form.Tolerance
import ConfigFacts.Proofs.Form.Editing
import ConfigFacts.Proofs.Network.Order
import ConfigFacts.Proofs.Text.ByteOrder
import ConfigFacts.Proofs.Directory.FileName
import ConfigFacts.Proofs.Directory.Loading
import ConfigFacts.Proofs.FileTree.Path
import ConfigFacts.Proofs.FileTree.Growth
import ConfigFacts.Proofs.Program.Effects
import ConfigFacts.Proofs.Program.FactFiles
import ConfigFacts.Proofs.Program.Exit
import ConfigFacts.Proofs.Program.Output
import ConfigFacts.Proofs.Ranges.AccessLines
import ConfigFacts.Proofs.Ranges.Blocks
import ConfigFacts.Proofs.Program.Dumps
import ConfigFacts.Proofs.Program.Targets
import ConfigFacts.Proofs.Policies.Lines
import ConfigFacts.Proofs.Policies.Conditions
import ConfigFacts.Proofs.Policies.Matching
import ConfigFacts.Proofs.Relations.Keys
import ConfigFacts.Proofs.Warnings
import ConfigFacts.Proofs.Policies.Traces
import ConfigFacts.Proofs.Relations.Positions
import ConfigFacts.Proofs.Writing.Isolation
import ConfigFacts.Proofs.Text.Trim
import ConfigFacts.Proofs.Text.Lines
import ConfigFacts.Proofs.Relations.Locality
import ConfigFacts.Proofs.Relations.AccessLists
import ConfigFacts.Proofs.Topology.Grammar
import ConfigFacts.Proofs.Topology.Rendering
import ConfigFacts.Proofs.Wire.Lines
import ConfigFacts.Proofs.Topology.Dump
import ConfigFacts.Proofs.Topology.Facts
import ConfigFacts.Proofs.Wire.Merging
import ConfigFacts.Proofs.Routes.Generated
import ConfigFacts.Proofs.Ospf.Dump
import ConfigFacts.Proofs.Policies.Drafts
import ConfigFacts.Proofs.Ranges.Masks
import ConfigFacts.Proofs.Text.Digits
import ConfigFacts.Proofs.Interface.VlanNames
import ConfigFacts.Proofs.Pattern.Matches
import ConfigFacts.Proofs.Pattern.Literal
import ConfigFacts.Proofs.Communities.Selection
import ConfigFacts.Proofs.Address.Notation
import ConfigFacts.Proofs.Double.FactText
