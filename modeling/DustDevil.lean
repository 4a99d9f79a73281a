import DustDevil.Lib.Proc
import DustDevil.Lib.Utf8
import DustDevil.Lib.Text
import DustDevil.Lib.AsyncRead
import DustDevil.Lib.Net
import DustDevil.Lib.ReadExt
import DustDevil.Lib.MapCount
import DustDevil.Lib.Conn
import DustDevil.Lib.Threads
import DustDevil.Lib.Steps
import DustDevil.Lib.Mirror
import DustDevil.Lib.SameOrder
import DustDevil.Lib.Trace
import DustDevil.Lib.Slice
import DustDevil.Lib.Writes
import DustDevil.Lib.Broadcast
import DustDevil.Lib.Buckets
import DustDevil.Lib.Codec
import DustDevil.Lib.Framing
import DustDevil.Core.Users
import DustDevil.Core.BufferSize
import DustDevil.Core.Socks5
import DustDevil.Core.Logging
import DustDevil.Core.Serialize
import DustDevil.Core.Sandstorm
import DustDevil.Core.Responses
import DustDevil.Proofs.BufferSize
import DustDevil.Proofs.Serialize
import DustDevil.Proofs.Logging
import DustDevil.Proofs.Handshake
import DustDevil.Proofs.Requests
import DustDevil.Server.ProcessLines
import DustDevil.Proofs.ProcessLines
import DustDevil.Server.Users
import DustDevil.Proofs.Users
import DustDevil.Proofs.ParseUser
import DustDevil.Client.Args
import DustDevil.Proofs.ParseIntoUser
import DustDevil.Proofs.LoadUsers
import DustDevil.Proofs.UsersFile
import DustDevil.Server.Args
import DustDevil.Server.Context
import DustDevil.Server.Startup
import DustDevil.Proofs.Startup
import DustDevil.Proofs.Context
import DustDevil.Server.ManagerOps
import DustDevil.Proofs.ManagerOps
import DustDevil.Proofs.Args
import DustDevil.Lib.Commute
import DustDevil.Proofs.ArgsOrder
import DustDevil.Server.Logger
import DustDevil.Proofs.Logger
import DustDevil.Server.ChunkReader
import DustDevil.Server.Socks5
import DustDevil.Proofs.Socks5Parsers
import DustDevil.Proofs.Socks5Request
import DustDevil.Proofs.Socks5
import DustDevil.Server.Copy
import DustDevil.Proofs.Copy
import DustDevil.Server.Sandstorm
import DustDevil.Proofs.Sandstorm
import DustDevil.Server.ResponseHandler
import DustDevil.Proofs.ResponseHandler
import DustDevil.Proofs.EventStream
import DustDevil.Server.UserCalls
import DustDevil.Proofs.UserCalls
import DustDevil.Client.Manager
import DustDevil.Proofs.Messages
import DustDevil.Proofs.ManagerCalls
import DustDevil.Client.Session
import DustDevil.Proofs.Session
import DustDevil.Client.CommandLine
import DustDevil.Proofs.CommandLine
import DustDevil.Proofs.CommandText
import DustDevil.Client.Popups
import DustDevil.Proofs.Popups
import DustDevil.Client.ListSession
import DustDevil.Proofs.ListSession
import DustDevil.Client.TextWrapper
import DustDevil.Proofs.TextWrapper
import DustDevil.Proofs.WrapText
import DustDevil.Client.UsageTracker
import DustDevil.Proofs.UsageTracker
import DustDevil.Proofs.UsageUnits
import DustDevil.Lib.Blocks
import DustDevil.Lib.Extent
import DustDevil.Client.LongList
import DustDevil.Proofs.Viewport
import DustDevil.Proofs.LongList
import DustDevil.Proofs.LongListWindow
import DustDevil.Proofs.LongListRender
import DustDevil.Proofs.LongListCache
import DustDevil.Client.ArrowSelector
import DustDevil.Proofs.ArrowSelector
import DustDevil.Client.TextEntry
import DustDevil.Proofs.TextEntry
import DustDevil.Lib.Decimal
import DustDevil.Client.PrettyPrint
import DustDevil.Proofs.PrettyPrint
import DustDevil.Lib.Ticks
import DustDevil.Client.UsageGraph
import DustDevil.Proofs.GraphPlot
import DustDevil.Proofs.HorizontalAxis
import DustDevil.Server.MainLoop
import DustDevil.Proofs.MainLoop
import DustDevil.Proofs.Tasks
import DustDevil.Client.ColoredLogs
import DustDevil.Client.LogBlock
import DustDevil.Proofs.LongListMap
import DustDevil.Proofs.LogBlock
import DustDevil.Server.LoggerTask
import DustDevil.Proofs.LoggerTask
import DustDevil.Client.UiElement
import DustDevil.Proofs.UiElement
import DustDevil.Client.MenuBar
import DustDevil.Proofs.MenuBar
import DustDevil.Client.VerticalAxis
import DustDevil.Client.MainView
import DustDevil.Client.UiManager
import DustDevil.Proofs.MainParts
import DustDevil.Proofs.MainView
import DustDevil.Proofs.MainLayout
import DustDevil.Proofs.UiManager
