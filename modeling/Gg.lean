import Gg.Ws.Types
import Gg.Ws.Frame
import Gg.Ws.Wire
import Gg.Ws.FrameRoundtrip
import Gg.Ws.Session
import Gg.Ws.Dispatch
import Gg.Ws.Handshake
import Gg.Ws.Chunking
import Gg.Ws.Lifecycle
import Gg.Ws.Threads
import Gg.Ws.Disconnect
import Gg.Ws.Reconnect
import Gg.Ws.IoThread
import Gg.Ws.Transport
import Gg.Ws.Url
import Gg.Ws.Base64
import Gg.Internal.BufferPool
import Gg.Internal.Queue
import Gg.Internal.Heartbeat
import Gg.Internal.Watchdog
import Gg.Json.Value
import Gg.Json.Stringify
import Gg.Json.Parse
import Gg.Json.Roundtrip
import Gg.Json.Unicode
import Gg.Json.Grammar
import Gg.Json.Access
import Gg.Observer.EventBus
import Gg.Ggnet.WsClient
import Gg.Tgui.PutString
import Gg.Ggnet.EpollLoop
import Gg.Ggnet.Http
import Gg.Ggnet.HttpClient
import Gg.Tgui.Render
import Gg.Ggnet.Json
import Gg.Ggnet.WsConnect
