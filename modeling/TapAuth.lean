import TapAuth.Lib.Bytes
import TapAuth.Lib.Codec
import TapAuth.Lib.Machine
import TapAuth.Lib.Reactor
import TapAuth.Shared.Crypto
import TapAuth.Shared.Config
import TapAuth.Shared.Protocol
import TapAuth.Shared.Transparent
import TapAuth.Daemon.AuthLoop
import TapAuth.Daemon.Session
import TapAuth.Daemon.Authorization
import TapAuth.Daemon.Quiescence
import TapAuth.Lib.Except
import TapAuth.Shared.Pairing
import TapAuth.Daemon.Admin
import TapAuth.Lib.Pool
import TapAuth.Daemon.AdminInterleaving
import TapAuth.Phone.Devices
import TapAuth.Phone.PairingClient
import TapAuth.System.PairingRun
import TapAuth.Pam.EventLoop
import TapAuth.Pam.Authenticate
import TapAuth.Phone.RequestHandlers
import TapAuth.Lib.Long
import TapAuth.Phone.RequestInterleaving
import TapAuth.Phone.MainActivity
import TapAuth.Lib.KeyIndex
import TapAuth.Phone.AuthRequestManager
import TapAuth.Phone.RequestTimeout
import TapAuth.Phone.ManagerInterleaving
import TapAuth.Lib.Serial
import TapAuth.Lib.ReadModifyWrite
import TapAuth.Shared.StoreInterleaving
import TapAuth.Daemon.AdminReload
import TapAuth.Daemon.AwaitAuth
import TapAuth.Phone.Responses
import TapAuth.System.GrantDelivery
import TapAuth.Daemon.Server
import TapAuth.Daemon.CancelRegistry
import TapAuth.System.PasswordSkip
import TapAuth.Phone.Packets
import TapAuth.Phone.ControlMessages
import TapAuth.Shared.Rotation
import TapAuth.Daemon.PeerIdentity
import TapAuth.Daemon.AdminRequest
import TapAuth.Daemon.PairingSlot
import TapAuth.Daemon.PairingExclusion
import TapAuth.Lib.Framing
import TapAuth.Shared.ServerPairing
import TapAuth.System.PairingHandshake
import TapAuth.Phone.RateLimiter
import TapAuth.Phone.RequestGate
import TapAuth.Phone.RejectedRequests
import TapAuth.Phone.Reconnection
import TapAuth.System.RequestFreshness
import TapAuth.System.SharedSocket
import TapAuth.Daemon.Confirmation
import TapAuth.Lib.Proto3
import TapAuth.Phone.ReplayCache
import TapAuth.Phone.LimiterCalls
import TapAuth.Phone.LimiterBounds
import TapAuth.Phone.LimiterIsolation
import TapAuth.Pam.IpcClient
import TapAuth.Shared.WireFormat
import TapAuth.System.RequestSignature
import TapAuth.System.PacketCodecs
import TapAuth.Daemon.PairingStore
import TapAuth.Lib.CallSequence
import TapAuth.Shared.SecureFile
import TapAuth.Shared.TomlConfig
import TapAuth.Shared.KeyStorage
import TapAuth.Daemon.SaveConfig
import TapAuth.Lib.Entries
import TapAuth.Phone.TemporalIds
import TapAuth.Phone.LimiterReset
import TapAuth.Phone.CacheRefresh
import TapAuth.Phone.BleCache
import TapAuth.Phone.GracePeriod
import TapAuth.System.ClockSkew
import TapAuth.Daemon.RetrySchedule
import TapAuth.Phone.ConfirmationCheck
import TapAuth.Phone.DeviceInterleaving
import TapAuth.Phone.Retransmission
import TapAuth.Daemon.PairingWaits
import TapAuth.Phone.TimestampWindow
import TapAuth.Lib.Numeral
import TapAuth.Daemon.ProcStat
import TapAuth.Daemon.DuplicateRequests
import TapAuth.Pam.LocalFailures
import TapAuth.Lib.IpAddress
import TapAuth.System.UdpReceive
import TapAuth.Lib.IpText
import TapAuth.System.PairingUrl
import TapAuth.Lib.Locks
import TapAuth.Shared.Firewall
import TapAuth.Shared.FirewallLocks
import TapAuth.Shared.FirewallRules
import TapAuth.Pam.PasswordThread
import TapAuth.System.Agreement
import TapAuth.System.Login
import TapAuth.System.FirstLogin
