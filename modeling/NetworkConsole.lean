import NetworkConsole.Main
import NetworkConsole.Session.Log
import NetworkConsole.Store.Memory
import NetworkConsole.Proofs.Address.Subnet
import NetworkConsole.Proofs.Text.Line
import NetworkConsole.Proofs.Text.Spelling
import NetworkConsole.Proofs.Text.Words
import NetworkConsole.Proofs.Text.Numeral
import NetworkConsole.Proofs.Network.Cases
import NetworkConsole.Proofs.Network.Operation
import NetworkConsole.Proofs.Network.Skeleton
import NetworkConsole.Proofs.Network.Coherence
import NetworkConsole.Proofs.Network.Roster
import NetworkConsole.Proofs.Network.Connections
import NetworkConsole.Proofs.Network.Refusal
import NetworkConsole.Proofs.Network.Setting
import NetworkConsole.Proofs.Network.Addresses
import NetworkConsole.Proofs.Network.History
import NetworkConsole.Proofs.Network.Chronicle
import NetworkConsole.Proofs.Network.Growth
import NetworkConsole.Proofs.Network.Violation
import NetworkConsole.Proofs.Network.Lines
import NetworkConsole.Proofs.Network.Transcript
import NetworkConsole.Proofs.Network.Sections
import NetworkConsole.Proofs.Network.Placement
import NetworkConsole.Proofs.Command.Admission
import NetworkConsole.Proofs.Command.Violation
import NetworkConsole.Proofs.Command.Building
import NetworkConsole.Proofs.Command.Typing
import NetworkConsole.Proofs.Command.Respelling
import NetworkConsole.Proofs.Command.Grammar
import NetworkConsole.Proofs.Command.Pattern
import NetworkConsole.Proofs.Command.Arguments
import NetworkConsole.Proofs.Network.WellFormed
import NetworkConsole.Proofs.Network.Unbroken
import NetworkConsole.Proofs.Network.Unlogged
import NetworkConsole.Proofs.Store.Directory
import NetworkConsole.Proofs.Session.Outcome
import NetworkConsole.Proofs.Session.Atomicity
import NetworkConsole.Proofs.Session.Reachable
import NetworkConsole.Proofs.Session.Soundness
import NetworkConsole.Proofs.Session.Violation
import NetworkConsole.Proofs.Session.Dispatch
import NetworkConsole.Proofs.Session.Events
import NetworkConsole.Proofs.Session.Script
import NetworkConsole.Proofs.Session.Operations
import NetworkConsole.Proofs.Session.WellFormed
import NetworkConsole.Proofs.Session.Sections
import NetworkConsole.Proofs.Session.Standard
import NetworkConsole.Proofs.Session.Respelling
import NetworkConsole.Proofs.Session.StoreIndependence
import NetworkConsole.Proofs.Session.Clearing
import NetworkConsole.Proofs.Session.Saves
import NetworkConsole.Proofs.Session.Growth
import NetworkConsole.Proofs.Address.Literal
import NetworkConsole.Proofs.Command.Values
import NetworkConsole.Proofs.Command.Normal
import NetworkConsole.Proofs.Network.Configuring
import NetworkConsole.Proofs.Session.Configuring
import NetworkConsole.Proofs.Network.Commuting
import NetworkConsole.Proofs.Table
import NetworkConsole.Proofs.Network.Recent
import NetworkConsole.Proofs.Network.Interfaces
import NetworkConsole.Proofs.Command.HostAddress
import NetworkConsole.Proofs.Network.AccessLists
import NetworkConsole.Proofs.Routing.Config
import NetworkConsole.Proofs.Text.Decimal
import NetworkConsole.Proofs.Text.Column
import NetworkConsole.Proofs.Command.Literal
import NetworkConsole.Proofs.Store.Path
import NetworkConsole.Proofs.Network.DeviceReports
import NetworkConsole.Proofs.Network.NetworkReports
import NetworkConsole.Proofs.Session.FileNames
import NetworkConsole.Proofs.Session.Reports
import NetworkConsole.Proofs.Connection
import NetworkConsole.Proofs.Text.Trim
import NetworkConsole.Proofs.Session.Skipping
import NetworkConsole.Proofs.Session.Conversation
