import Esp32Wiimote.Bluetooth.AclBounds
import Esp32Wiimote.Bluetooth.ChannelSeparation
import Esp32Wiimote.Bluetooth.CommandResult
import Esp32Wiimote.Bluetooth.ConnectionOrigin
import Esp32Wiimote.Bluetooth.ConnectionTable
import Esp32Wiimote.Bluetooth.ControllerHistory
import Esp32Wiimote.Bluetooth.DeviceIdentity
import Esp32Wiimote.Bluetooth.EventBounds
import Esp32Wiimote.Bluetooth.FastReconnect
import Esp32Wiimote.Bluetooth.FrameRoundTrip
import Esp32Wiimote.Bluetooth.FreshInquiry
import Esp32Wiimote.Bluetooth.GuardTable
import Esp32Wiimote.Bluetooth.HostAnswers
import Esp32Wiimote.Bluetooth.NunchukHandshake
import Esp32Wiimote.Bluetooth.PacketBuffer
import Esp32Wiimote.Bluetooth.PendingReconnect
import Esp32Wiimote.Bluetooth.ReportOrigin
import Esp32Wiimote.Bluetooth.ReportQueue
import Esp32Wiimote.Bluetooth.SessionReset
import Esp32Wiimote.Bluetooth.StatusReports
import Esp32Wiimote.Bluetooth.StoppedDiscovery
import Esp32Wiimote.Device.ConfigAtomicity
import Esp32Wiimote.Device.Credentials
import Esp32Wiimote.Device.LifecycleLaws
import Esp32Wiimote.Device.ReconnectPolicy
import Esp32Wiimote.Device.RestNumbers
import Esp32Wiimote.Device.ScanAnswers
import Esp32Wiimote.Device.SerialLines
import Esp32Wiimote.Device.ServedDescription
import Esp32Wiimote.Device.StartupLaw
import Esp32Wiimote.Device.SurfaceParity
import Esp32Wiimote.Input.ButtonBits
import Esp32Wiimote.Input.StaleBytes
import Esp32Wiimote.Library.BoundedLoop
import Esp32Wiimote.Library.DecimalText
import Esp32Wiimote.Library.MemoryText
import Esp32Wiimote.Queue.TxDeadlock
import Esp32Wiimote.Serial.AllOrNothing
import Esp32Wiimote.Serial.Tokenizer
import Esp32Wiimote.Serial.UnlockWindow
import Esp32Wiimote.Web.BearerHeader
import Esp32Wiimote.Web.CommandMap
import Esp32Wiimote.Web.CompleteAnswers
import Esp32Wiimote.Web.EventLog
import Esp32Wiimote.Web.RequestBuffers
import Esp32Wiimote.Web.RequestLaw
import Esp32Wiimote.Web.RequestSafety
import Esp32Wiimote.Web.RequestSoundness
import Esp32Wiimote.Web.SharedBuffer
import Esp32Wiimote.Web.WriterBuffer
