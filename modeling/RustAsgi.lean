import RustAsgi.Bridge.Receive
import RustAsgi.Http.Response
import RustAsgi.Http.Truncation
import RustAsgi.Lifespan.Queue
import RustAsgi.Lifespan.Startup
import RustAsgi.Server.Drain
import RustAsgi.WebSocket.Outbound
import RustAsgi.Http.Disconnect
import RustAsgi.Asyncio.Producer
import RustAsgi.WebSocket.Inlet
import RustAsgi.WebSocket.Grammar
import RustAsgi.WebSocket.Departure
import RustAsgi.WebSocket.Deadlock
import RustAsgi.Tls.Config
import RustAsgi.Tls.Reload
import RustAsgi.Acme.Issuance
import RustAsgi.Tls.Watcher
import RustAsgi.Tls.Sni
import RustAsgi.Tls.Writers
import RustAsgi.Http.Message
import RustAsgi.Server.Dispatch
import RustAsgi.Http.Application
import RustAsgi.Server.Outlive
import RustAsgi.Tls.Challenge
import RustAsgi.Server.Quota
import RustAsgi.Server.Accept
import RustAsgi.Server.Escalation
import RustAsgi.Server.Heartbeat
import RustAsgi.Http.Polling
import RustAsgi.Http.AccessLog
import RustAsgi.Lifespan.State
import RustAsgi.WebSocket.AfterClose
import RustAsgi.Asyncio.Capacity
import RustAsgi.Http.Backpressure
import RustAsgi.Http.PercentDecode
import RustAsgi.Http.Framing
import RustAsgi.Server.Challenges
import RustAsgi.Server.Retention
import RustAsgi.Bridge.SendMessage
import RustAsgi.Http.Headers
import RustAsgi.Bridge.CallApp
import RustAsgi.Process.Teardown
import RustAsgi.Process.Cleanup
import RustAsgi.Process.Sockets
import RustAsgi.Process.Rendezvous
import RustAsgi.Process.Import
import RustAsgi.Process.Settings
import RustAsgi.Http.Cancellation
import RustAsgi.Server.Upgrade
import RustAsgi.Acme.Renewal
import RustAsgi.Net.Url
import RustAsgi.Server.Redirect
import RustAsgi.Lifespan.Shutdown
import RustAsgi.Acme.Account
import RustAsgi.Server.Seat
import RustAsgi.Server.Return
import RustAsgi.Http.Finish
import RustAsgi.Http.FlowControl
import RustAsgi.Http.Fidelity
import RustAsgi.Http.Report
import RustAsgi.Http.LogText
import RustAsgi.WebSocket.Finish
import RustAsgi.WebSocket.FlowControl
