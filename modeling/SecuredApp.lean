import SecuredApp.Core.Run
import SecuredApp.Core.Json
import SecuredApp.Core.Config
import SecuredApp.Core.Calls
import SecuredApp.Core.Background
import SecuredApp.Attest.Request
import SecuredApp.Attest.Authorize
import SecuredApp.Attest.Verdict
import SecuredApp.Attest.Daemon
import SecuredApp.Attest.Monitor
import SecuredApp.Gui.Basic
import SecuredApp.Gui.Attestation
import SecuredApp.Gui.Lookup
import SecuredApp.Mobility.Basic
import SecuredApp.Mobility.Handover
import SecuredApp.Gui.System
import SecuredApp.Gui.Starts
import SecuredApp.Mobility.Orders
import SecuredApp.Gui.Session
import SecuredApp.Gui.Polling
import SecuredApp.Gui.Verdicts
import SecuredApp.Gui.LoginThread
import SecuredApp.Mobility.Client
import SecuredApp.Mobility.Steps
import SecuredApp.Mobility.Atomic
import SecuredApp.Mobility.Chains
import SecuredApp.Mobility.Choices
import SecuredApp.Mobility.Tunnels
import SecuredApp.Gui.Connections
import SecuredApp.Gui.PsaList
import SecuredApp.Gui.LoginPage
import SecuredApp.Mobility.Label
import SecuredApp.Mobility.Lock
import SecuredApp.Core.Faults
import SecuredApp.Mobility.Rearm
import SecuredApp.Gui.Display
import SecuredApp.Attest.Polls
import SecuredApp.Attest.Results
import SecuredApp.Attest.Subject
import SecuredApp.Core.Text
import SecuredApp.Mobility.IWList
import SecuredApp.Mobility.Signals
import SecuredApp.Mobility.Wifilist
import SecuredApp.Mobility.ScanRun
import SecuredApp.Mobility.Addresses
import SecuredApp.Gui.PsaRows
import SecuredApp.Gui.PsaEvents
import SecuredApp.Mobility.Cells
import SecuredApp.Mobility.Scans
import SecuredApp.Bus.Logging
import SecuredApp.Bus.Listeners
import SecuredApp.Bus.Walks
import SecuredApp.Bus.Hooks
import SecuredApp.Bus.Controller
import SecuredApp.Bus.Commands
import SecuredApp.Bus.Outcomes
import SecuredApp.Config.Negotiation
import SecuredApp.Config.Backends
import SecuredApp.Config.Narrowing
import SecuredApp.Stroke.Selection
import SecuredApp.Attributes.Provider
import SecuredApp.Core.Bits
import SecuredApp.Core.Ranking
import SecuredApp.Encoding.Rules
import SecuredApp.Encoding.Parser
import SecuredApp.Encoding.Generator
import SecuredApp.Encoding.Format
import SecuredApp.Encoding.Fields
import SecuredApp.Encoding.Codec
import SecuredApp.Encoding.Lengths
import SecuredApp.Encoding.RoundTrip
import SecuredApp.Encoding.Chains
import SecuredApp.Encoding.Messages
