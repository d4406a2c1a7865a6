import SplRust.Core.StreamedResponse
import SplRust.Core.Crockford
import SplRust.Core.Ca
import SplRust.Core.Cookies
import SplRust.Core.RelayAccess
import SplRust.Home.Truncation
import SplRust.Bridge.JwksEviction
import SplRust.Bridge.Lease
import SplRust.Bridge.Registry
import SplRust.Link.Upload
import SplRust.Link.Download
import SplRust.Link.Containment
import SplRust.Home.WritePath
import SplRust.Home.ReadPath
import SplRust.Home.Scheduling
import SplRust.Transport.Refusals
import SplRust.Transport.CarrierStatus
import SplRust.Transport.OpenOnce
import SplRust.Transport.UploadOrder
import SplRust.Transport.DeliveryOrder
import SplRust.Transport.ForwardedModes
import SplRust.Transport.OneShot
import SplRust.Transport.Keepalive
import SplRust.Transport.RequestReplay
import SplRust.Transport.PumpDirections
import SplRust.Transport.ShortUpload
import SplRust.Transport.TokenOrder
import SplRust.Transport.RelayLatch
