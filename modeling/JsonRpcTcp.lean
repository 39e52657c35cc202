import JsonRpcTcp.BoshUrl
import JsonRpcTcp.ChainRefinement
import JsonRpcTcp.CheckerFraming
import JsonRpcTcp.CheckerLanguage
import JsonRpcTcp.ClientResponses
import JsonRpcTcp.EventCounts
import JsonRpcTcp.EventMonitor
import JsonRpcTcp.EventRpc
import JsonRpcTcp.EventSystem
import JsonRpcTcp.FmwverCache
import JsonRpcTcp.FramerBuffer
import JsonRpcTcp.FramerMessages
import JsonRpcTcp.MiddlewareRpc
import JsonRpcTcp.PayloadText
import JsonRpcTcp.ResponseIds
import JsonRpcTcp.RpcTransport
import JsonRpcTcp.SendDeadline
import JsonRpcTcp.ServerLife
import JsonRpcTcp.ServerResume
import JsonRpcTcp.ServerWire
import JsonRpcTcp.SettingsCrash
import JsonRpcTcp.ShellCommands
import JsonRpcTcp.StrTableRefinement
import JsonRpcTcp.SystemOrder
import JsonRpcTcp.TaskIdents
import JsonRpcTcp.TaskLives
import JsonRpcTcp.ThreadLifecycle
import JsonRpcTcp.TimerStop
import JsonRpcTcp.TimerTicks
import JsonRpcTcp.Wakeups
import JsonRpcTcp.XmppLink
import JsonRpcTcp.XmppReplies
