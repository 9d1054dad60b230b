/-
# Switchboard

A supervisor for language servers in a workspace that holds several copies of
one tool.  It finds the installations that the projects of the workspace use,
runs one server for each, routes every document to a server that serves it, and
gathers what the servers say about files.

* `Text`, `Decimal`, `Json`, `Toml`, `Glob`, `Path`, `FileUri`: the formats.
* `Disk`, `Workspace`: the file tree, and what is discovered in it.
* `Wire`, `Server`, `Client`, `Session`, `Diagnostic`: talking to one server.
* `Supervisor`: all sessions together, and the control loop.
* `Terminal`: the program around the loop; `Main` runs it.
-/

import Switchboard.Decimal.Shortest
import Switchboard.Text.Lines
import Switchboard.Text.Numeral
import Switchboard.Text.Utf8
import Switchboard.Json.Fields
import Switchboard.Json.Reader
import Switchboard.Json.Writer
import Switchboard.Path.Lexical
import Switchboard.Wire.Frame
import Switchboard.Wire.Message
import Switchboard.Wire.Incoming
import Switchboard.Wire.LogMessage
import Switchboard.FileUri.Basic
import Switchboard.Glob.Reader
import Switchboard.Workspace.Installation
import Switchboard.Workspace.Language
import Switchboard.Workspace.Platform
import Switchboard.Diagnostic.Decode
import Switchboard.Diagnostic.Store
import Switchboard.Domain.Name
import Switchboard.Session.Selector
import Switchboard.Supervisor.Status
import Switchboard.Supervisor.ChangeFilter
import Switchboard.Text.Slug
import Switchboard.Terminal.Line
import Switchboard.Terminal.Choice
import Switchboard.Terminal.Arguments
import Switchboard.Disk.Edit
import Switchboard.Server.Script
import Switchboard.Workspace.Discovery
import Switchboard.Workspace.PlugAndPlay
import Switchboard.Settings
import Switchboard.Channel
import Switchboard.Client.Handshake
import Switchboard.Terminal.ProcessLog
import Switchboard.Server.Event
import Switchboard.Server.Process
import Switchboard.Site
import Switchboard.Client.Receiver
import Switchboard.Client.Documents
import Switchboard.Client.Basic
import Switchboard.Client.Request
import Switchboard.Client.Life
import Switchboard.Session.Basic
import Switchboard.Text.Printable
import Switchboard.Text.Quoted
import Switchboard.Session.Description
import Switchboard.Supervisor.Host
import Switchboard.Supervisor.Event
import Switchboard.Supervisor.Watch
import Switchboard.Supervisor.Basic
import Switchboard.Supervisor.Startup
import Switchboard.Supervisor.Stop
import Switchboard.Supervisor.Document
import Switchboard.Supervisor.Restart
import Switchboard.Supervisor.Execute
import Switchboard.Supervisor.Reports
import Switchboard.Supervisor.LockFiles
import Switchboard.Supervisor.Loop
import Switchboard.Terminal.Screen
import Switchboard.Terminal.Desk
import Switchboard.Terminal.Input
import Switchboard.Terminal.Program
import Switchboard.Main
import Switchboard.Proofs.Json.Text
import Switchboard.Proofs.Client.Advertised
import Switchboard.Proofs.Client.Answers
import Switchboard.Proofs.Client.Pending
import Switchboard.Proofs.Client.Reports
import Switchboard.Proofs.Client.Scope
import Switchboard.Proofs.Client.Shapes
import Switchboard.Proofs.Diagnostic.Canonical
import Switchboard.Proofs.Diagnostic.Displayed
import Switchboard.Proofs.Disk.Resolved
import Switchboard.Proofs.Disk.Shape
import Switchboard.Proofs.Glob.Anywhere
import Switchboard.Proofs.Glob.Directory
import Switchboard.Proofs.Json.Members
import Switchboard.Proofs.Json.Number
import Switchboard.Proofs.Json.RoundTrip
import Switchboard.Proofs.Path.Normal
import Switchboard.Proofs.Path.Parent
import Switchboard.Proofs.Path.RoundTrip
import Switchboard.Proofs.Path.Spelling
import Switchboard.Proofs.Session.Heard
import Switchboard.Proofs.Session.LogFiles
import Switchboard.Proofs.Session.Selection
import Switchboard.Proofs.Supervisor.Conversations
import Switchboard.Proofs.Supervisor.Debounce
import Switchboard.Proofs.Supervisor.Extent
import Switchboard.Proofs.Supervisor.Faithful
import Switchboard.Proofs.Supervisor.Glyphs
import Switchboard.Proofs.Supervisor.Masked
import Switchboard.Proofs.Supervisor.Memory
import Switchboard.Proofs.Supervisor.Notified
import Switchboard.Proofs.Supervisor.Outcomes
import Switchboard.Proofs.Supervisor.Owners
import Switchboard.Proofs.Supervisor.Placement
import Switchboard.Proofs.Supervisor.Published
import Switchboard.Proofs.Supervisor.Rest
import Switchboard.Proofs.Supervisor.Restarts
import Switchboard.Proofs.Supervisor.Retired
import Switchboard.Proofs.Supervisor.Rounds
import Switchboard.Proofs.Supervisor.Routing
import Switchboard.Proofs.Supervisor.Shown
import Switchboard.Proofs.Supervisor.Staffing
import Switchboard.Proofs.Terminal.LineByLine
import Switchboard.Proofs.Terminal.Palette
import Switchboard.Proofs.Terminal.Typed
import Switchboard.Proofs.Wire.Cut
import Switchboard.Proofs.Wire.Grammar
import Switchboard.Proofs.Wire.RoundTrip
import Switchboard.Proofs.Workspace.Declared
import Switchboard.Proofs.Workspace.Found
import Switchboard.Proofs.Workspace.Nearest
import Switchboard.Proofs.Workspace.Positions
