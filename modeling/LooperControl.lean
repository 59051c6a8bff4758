import LooperControl.Lib.Runs
import LooperControl.Lib.Threads
import LooperControl.Lib.Effect
import LooperControl.Lib.Dict
import LooperControl.Lib.Json
import LooperControl.Lib.Regex
import LooperControl.Script.Python
import LooperControl.Script.LiveApi
import LooperControl.Wire
import LooperControl.Script.Steps
import LooperControl.Script.Dispatcher
import LooperControl.Script.Handlers
import LooperControl.Plugin.BridgeClient
import LooperControl.System.Discovery
import LooperControl.System.Responses
import LooperControl.System.Handshake
import LooperControl.System.ParamChange
import LooperControl.System.StatePush
import LooperControl.System.Shadow
import LooperControl.System.Addresses
import LooperControl.System.Commands
import LooperControl.System.Ports
import LooperControl.System.Delivery
import LooperControl.System.Connection
import LooperControl.System.VersionGate
import LooperControl.System.CommandFrame
import LooperControl.System.ChangeCallback
import LooperControl.System.Rescans
import LooperControl.System.LastCommand
import LooperControl.System.Converging
import LooperControl.Plugin.CommandArgs
import LooperControl.System.Tolerance
import LooperControl.System.Listing
import LooperControl.System.Decoding
import LooperControl.System.ReadBack
import LooperControl.System.FeedbackRange
import LooperControl.System.Listeners
import LooperControl.Lib.Bursts
import LooperControl.Plugin.TransportButton
import LooperControl.System.Clicks
import LooperControl.Lib.Backoff
import LooperControl.Plugin.ReconnectTimer
import LooperControl.System.Reconnecting
import LooperControl.System.ScanCache
import LooperControl.System.Notifications
import LooperControl.System.Restarts
import LooperControl.Lib.Rect
import LooperControl.Plugin.Layout
import LooperControl.System.Covering
import LooperControl.Plugin.LooperListView
import LooperControl.System.RowLayout
import LooperControl.Plugin.PluginEditor
import LooperControl.System.Window
import LooperControl.System.Rows
import LooperControl.System.Gestures
import LooperControl.Lib.JsonWriter
import LooperControl.Lib.Decimals
import LooperControl.System.RoundTrip
import LooperControl.Lib.Bytes
import LooperControl.Lib.Binary
import LooperControl.Lib.Fallible
import LooperControl.Osc.Types
import LooperControl.Osc.Dates
import LooperControl.Osc.Message
import LooperControl.Osc.MessageBuilder
import LooperControl.Osc.BundleBuilder
import LooperControl.Osc.Packet
import LooperControl.Script.AddressPatterns
import LooperControl.System.Reception
import LooperControl.Lib.Recursion
import LooperControl.Osc.Slip
import LooperControl.Osc.Stream
import LooperControl.System.Payloads
import LooperControl.System.Transmission
import LooperControl.System.Separation
