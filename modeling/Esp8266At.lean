import Esp8266At.Bootloader.RamImage
import Esp8266At.Bootloader.Grammar
import Esp8266At.Bootloader.Stability
import Esp8266At.App.DebugPrint
import Esp8266At.App.Accepted
import Esp8266At.App.SessionFlag
import Esp8266At.App.Isolation
import Esp8266At.Tools.BuiltImage
import Esp8266At.Tcp.Delivery
import Esp8266At.Tcp.DeletedServer
import Esp8266At.App.Options
import Esp8266At.App.Rejected
import Esp8266At.App.BootSector
import Esp8266At.Handover
import Esp8266At.BootRecords
import Esp8266At.App.VersionCheck
import Esp8266At.Tcp.Certificate
import Esp8266At.Tcp.Undo
import Esp8266At.Tcp.ServerNumbers
import Esp8266At.Tcp.KeepAlive
import Esp8266At.Lib.Http
import Esp8266At.Lib.Printf
import Esp8266At.App.HttpHeader
import Esp8266At.Messages
import Esp8266At.Tcp.Tags
import Esp8266At.Tcp.Reports
import Esp8266At.App.Splits
import Esp8266At.App.Containment
import Esp8266At.App.Provenance
import Esp8266At.App.ForcedPart
import Esp8266At.NextBoot
import Esp8266At.PowerLoss
import Esp8266At.Tcp.Ringbuf
import Esp8266At.Tcp.RecvPath
import Esp8266At.Tcp.SendQueue
import Esp8266At.ResetLoop
import Esp8266At.App.Dialogue
import Esp8266At.App.Memory
