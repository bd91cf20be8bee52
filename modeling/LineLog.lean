import LineLog.Acceptor.Basic
import LineLog.Acceptor.Phase
import LineLog.Acceptor.Queue
import LineLog.Bytes
import LineLog.Calendar
import LineLog.Client
import LineLog.Clock
import LineLog.CommandLine.Flag
import LineLog.CommandLine.Parse
import LineLog.Connection.Basic
import LineLog.Connection.Error
import LineLog.Connection.Linger
import LineLog.Connection.Receive
import LineLog.Descriptors
import LineLog.Drain
import LineLog.Drain.Course
import LineLog.Ending
import LineLog.FileContents
import LineLog.FileTree.Basic
import LineLog.FileTree.Resolve
import LineLog.Host
import LineLog.Log
import LineLog.Log.Call
import LineLog.Log.Shared
import LineLog.Network
import LineLog.Notice.Basic
import LineLog.Notice.Directive
import LineLog.Notice.Filter
import LineLog.Notice.Level
import LineLog.Notice.Line
import LineLog.Number.Binary64
import LineLog.Number.Shortest
import LineLog.OpenFile
import LineLog.Os.Error
import LineLog.Path
import LineLog.Program.Journal
import LineLog.Program.Run
import LineLog.Proofs.Acceptor.Accounts
import LineLog.Proofs.Acceptor.Phase
import LineLog.Proofs.Acceptor.Queue
import LineLog.Proofs.Calendar
import LineLog.Proofs.Client
import LineLog.Proofs.Client.Account
import LineLog.Proofs.Client.Stages
import LineLog.Proofs.Drain.Course
import LineLog.Proofs.Drain.Report
import LineLog.Proofs.FileTree.Paths
import LineLog.Proofs.FileTree.Walk
import LineLog.Proofs.Framing
import LineLog.Proofs.Heard
import LineLog.Proofs.Host
import LineLog.Proofs.Linger
import LineLog.Proofs.Log.Alike
import LineLog.Proofs.Log.Append
import LineLog.Proofs.Log.Damage
import LineLog.Proofs.Log.Linearization
import LineLog.Proofs.Log.Restored
import LineLog.Proofs.OpenFile
import LineLog.Proofs.Path
import LineLog.Proofs.Receiving
import LineLog.Proofs.Registry.Account
import LineLog.Proofs.Registry.Calls
import LineLog.Proofs.Registry.Conservation
import LineLog.Proofs.Registry.Holds
import LineLog.Proofs.Registry.Reaping
import LineLog.Proofs.Registry.Undisturbed
import LineLog.Proofs.Run
import LineLog.Proofs.Server.Arrival
import LineLog.Proofs.Server.Cleanup
import LineLog.Proofs.Server.Clients
import LineLog.Proofs.Server.Continuing
import LineLog.Proofs.Server.Entries
import LineLog.Proofs.Server.Erasure
import LineLog.Proofs.Server.Framing
import LineLog.Proofs.Server.Removal
import LineLog.Proofs.Server.Reply
import LineLog.Proofs.Server.Step
import LineLog.Proofs.Server.Undisturbed
import LineLog.Proofs.Server.WindDown
import LineLog.Proofs.Settings.Document
import LineLog.Proofs.Settings.Resolve
import LineLog.Proofs.Settings.Unknown
import LineLog.Proofs.Shutdown.Race
import LineLog.Proofs.Shutdown.Step
import LineLog.Proofs.Shutdown.Waits
import LineLog.Proofs.Store.Append
import LineLog.Proofs.Store.Closing
import LineLog.Proofs.Store.Damage
import LineLog.Proofs.Store.Located
import LineLog.Proofs.Store.Opening
import LineLog.Proofs.Ticker.Cadence
import LineLog.Proofs.Ticker.Range
import LineLog.Proofs.Timestamp
import LineLog.Proofs.Timestamp.Decode
import LineLog.Proofs.Toml.Keys
import LineLog.Proofs.Toml.Parsed
import LineLog.Proofs.Toml.Reading
import LineLog.Registry.Basic
import LineLog.Registry.Sweep
import LineLog.Server.Basic
import LineLog.Server.Error
import LineLog.Server.Run
import LineLog.Server.State
import LineLog.Settings.Basic
import LineLog.Settings.Document
import LineLog.Settings.Error
import LineLog.Settings.Resolve
import LineLog.Shutdown.Basic
import LineLog.Shutdown.Shared
import LineLog.Signal
import LineLog.SocketAddress.Basic
import LineLog.SocketAddress.Parse
import LineLog.Store.Basic
import LineLog.Store.Error
import LineLog.Store.History
import LineLog.Text.Escape
import LineLog.Text.Glyph
import LineLog.Text.Letter
import LineLog.Text.Pattern
import LineLog.Text.Pattern.Depth
import LineLog.Text.Pattern.Escape
import LineLog.Text.Pattern.Expression
import LineLog.Text.Pattern.Set
import LineLog.Text.Plain
import LineLog.Text.Quoted
import LineLog.Threads
import LineLog.Ticker.Basic
import LineLog.Ticker.Phase
import LineLog.Ticker.Records
import LineLog.Ticker.Timed
import LineLog.Timestamp.Basic
import LineLog.Timestamp.Decode
import LineLog.Toml.Document
import LineLog.Toml.Excerpt
import LineLog.Toml.Parser
import LineLog.Toml.Reading
import LineLog.Toml.Reserved
import LineLog.Toml.Scalars
import LineLog.Toml.Statement
import LineLog.Toml.Strings
import LineLog.Toml.Value
