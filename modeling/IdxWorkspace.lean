import IdxWorkspace.Library.Separated
import IdxWorkspace.Library.Wildcard
import IdxWorkspace.Library.Effect
import IdxWorkspace.Library.Emission
import IdxWorkspace.Library.Sequential
import IdxWorkspace.Library.Journal
import IdxWorkspace.Library.History
import IdxWorkspace.Library.Sighting
import IdxWorkspace.Library.Framing
import IdxWorkspace.Library.Incremental
import IdxWorkspace.Library.Template
import IdxWorkspace.PowerShell.Text
import IdxWorkspace.PowerShell.Host
import IdxWorkspace.PowerShell.Calls
import IdxWorkspace.Setup.PathText
import IdxWorkspace.Setup.Appending
import IdxWorkspace.Setup.Overwriting
import IdxWorkspace.Setup.Tools
import IdxWorkspace.Setup.Progress
import IdxWorkspace.Setup.Guard
import IdxWorkspace.Setup.Cleanup
import IdxWorkspace.Setup.Undo
import IdxWorkspace.Setup.Variables
import IdxWorkspace.Setup.SharedPath
import IdxWorkspace.Setup.Leftovers
import IdxWorkspace.Setup.Failure
import IdxWorkspace.BuildSsr.Watch
import IdxWorkspace.BuildSsr.Script
import IdxWorkspace.Mcp.Protocol
import IdxWorkspace.Mcp.Content
import IdxWorkspace.Mcp.Annotated
import IdxWorkspace.Mcp.ByteTransport
import IdxWorkspace.Mcp.Router
import IdxWorkspace.Mcp.ToolMacro
import IdxWorkspace.Mcp.Calculator
import IdxWorkspace.Mcp.Server
import IdxWorkspace.Mcp.Client
import IdxWorkspace.Mcp.Conversation
import IdxWorkspace.Mcp.Session
import IdxWorkspace.Mcp.Counter
import IdxWorkspace.Mcp.Transport
import IdxWorkspace.Mcp.Stdio
import IdxWorkspace.Mcp.Sse
import IdxWorkspace.Mcp.Link
import IdxWorkspace.Mcp.ChildServer
import IdxWorkspace.Mcp.ChildProgress
import IdxWorkspace.Mcp.ChildCounter
import IdxWorkspace.Mcp.EventServer
import IdxWorkspace.Mcp.FrameCodec
import IdxWorkspace.Mcp.App
import IdxWorkspace.Mcp.LinkBytes
