import TunnelCore.Android.XrayRoutes
import TunnelCore.Android.StaleDisconnect
import TunnelCore.Android.WireguardTunnel
import TunnelCore.Daemon.InterfaceParameters
import TunnelCore.Daemon.WgConf
import TunnelCore.Daemon.ServerRoute
import TunnelCore.Daemon.LinuxRoutes
import TunnelCore.Daemon.ServerSwitch
import TunnelCore.Daemon.LocalSocket
import TunnelCore.Daemon.DnsUtilsLinux
import TunnelCore.Daemon.DnsUtilsMacos
import TunnelCore.Daemon.MacosRouteMonitor
import TunnelCore.Account.Busy
import TunnelCore.Account.Unauthorized
import TunnelCore.Account.Purchases
import TunnelCore.Account.StoredCountry
import TunnelCore.Account.Subscription
import TunnelCore.Account.AutoSelection
import TunnelCore.KillSwitch.LinuxRanges
import TunnelCore.KillSwitch.WindowsRanges
import TunnelCore.Connection.ActivationCodec
import TunnelCore.Connection.SiteRoutes
import TunnelCore.Connection.OpenVpnManagement
import TunnelCore.Service.IpcServerProcess
import TunnelCore.Service.RouterWin
import TunnelCore.Xray.Tun2Socks
import TunnelCore.Xray.ServerClients
import TunnelCore.Servers.ServerName
import TunnelCore.RouteMonitor.ExclusionBatch
import TunnelCore.RouteMonitor.DefaultCapture
import TunnelCore.Update.SingleDownload
import TunnelCore.Import.MaliciousStrings
import TunnelCore.Import.ManagedProfiles
import TunnelCore.Import.AmneziaConfig
import TunnelCore.Import.QrCodes
import TunnelCore.Gateway.PostAsync
import TunnelCore.Gateway.ServiceUpdate
import TunnelCore.Obfuscation.DnsQuery
import TunnelCore.Sites.Exchange
import TunnelCore.SelfHosted.Subnet
