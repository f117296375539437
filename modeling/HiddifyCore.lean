import HiddifyCore.GoLib.Panic
import HiddifyCore.GoLib.Run
import HiddifyCore.GoLib.Text
import HiddifyCore.GoLib.Base64
import HiddifyCore.GoLib.Float64
import HiddifyCore.GoLib.JsonLex
import HiddifyCore.GoLib.JsonValue
import HiddifyCore.GoLib.JsonStream
import HiddifyCore.GoLib.JsonScan
import HiddifyCore.GoLib.JsonRead
import HiddifyCore.GoLib.JsonDecode
import HiddifyCore.GoLib.JsonEncode
import HiddifyCore.GoLib.Simulate
import HiddifyCore.GoLib.Acyclic
import HiddifyCore.GoLib.FirstMatch
import HiddifyCore.V2.Core
import HiddifyCore.V2.Custom
import HiddifyCore.V2.Operations
import HiddifyCore.V2.Frames
import HiddifyCore.V2.Exits
import HiddifyCore.V2.StopExits
import HiddifyCore.V2.Instances
import HiddifyCore.V2.LostInstances
import HiddifyCore.V2.Status
import HiddifyCore.V2.Success
import HiddifyCore.V2.Restart
import HiddifyCore.V2.Standalone
import HiddifyCore.V2.RunStandalone
import HiddifyCore.V2.TunnelService
import HiddifyCore.V2.TunPaths
import HiddifyCore.V2.TunnelProcess
import HiddifyCore.V2.TunnelReach
import HiddifyCore.V2.TunnelControl
import HiddifyCore.V2.TunnelCommands
import HiddifyCore.V2.Streams
import HiddifyCore.V2.OldCommands
import HiddifyCore.V2.GroupStreams
import HiddifyCore.V2.Loaders
import HiddifyCore.V2.RefreshWaits
import HiddifyCore.Config.Json
import HiddifyCore.Config.JsonFloat
import HiddifyCore.Config.Singbox
import HiddifyCore.Config.Option
import HiddifyCore.Config.OptionsJson
import HiddifyCore.Config.Tunnel
import HiddifyCore.Config.TunnelFlag
import HiddifyCore.Config.TunnelFailover
import HiddifyCore.Config.Deps
import HiddifyCore.Config.Rules
import HiddifyCore.Config.Warp
import HiddifyCore.Config.Outbound
import HiddifyCore.Config.WarpRecord
import HiddifyCore.Warp.Account
import HiddifyCore.Warp.Export
import HiddifyCore.Warp.Identity
import HiddifyCore.Warp.IdentityStore
import HiddifyCore.Warp.Key
import HiddifyCore.Warp.Endpoint
import HiddifyCore.Warp.RandomAddress
import HiddifyCore.Config.Build
import HiddifyCore.Config.Patching
import HiddifyCore.Config.PatchFrame
import HiddifyCore.Config.BuildSpec
import HiddifyCore.Config.EarlyLate
import HiddifyCore.Config.Reference
import HiddifyCore.Config.TestInterval
import HiddifyCore.Config.DocumentJson
import HiddifyCore.Config.Parser
import HiddifyCore.Config.Formats
import HiddifyCore.Config.Batch
import HiddifyCore.Config.MainProxy
import HiddifyCore.Config.TricksPatch
import HiddifyCore.Config.SharedTricks
import HiddifyCore.Config.History
import HiddifyCore.Config.Dialing
import HiddifyCore.Config.Groups
import HiddifyCore.Config.Codec
import HiddifyCore.Config.TagUnique
import HiddifyCore.Config.OverWarp
import HiddifyCore.Config.Emitted
import HiddifyCore.Config.Rebuild
import HiddifyCore.Config.Detoured
import HiddifyCore.Config.Settled
import HiddifyCore.Config.Drawn
import HiddifyCore.Config.OwnServers
import HiddifyCore.Routing.Matching
import HiddifyCore.Routing.UserRules
import HiddifyCore.Routing.Ports
import HiddifyCore.Routing.RegexpRules
import HiddifyCore.Routing.Route
import HiddifyCore.Routing.DNS
import HiddifyCore.Routing.Blocking
import HiddifyCore.Routing.Bootstrap
import HiddifyCore.Routing.Fields
import HiddifyCore.Routing.References
import HiddifyCore.Routing.FullConfig
import HiddifyCore.Routing.ForceDirect
import HiddifyCore.Routing.KeyOrder
import HiddifyCore.Routing.WarpServers
import HiddifyCore.Routing.DrawnNames
import HiddifyCore.V2.Preview
import HiddifyCore.V2.Servers
import HiddifyCore.V2.Reload
import HiddifyCore.V2.Unchanged
import HiddifyCore.V2.Changed
import HiddifyCore.V2.StandaloneBuild
import HiddifyCore.Mobile.Service
import HiddifyCore.V2.Announce
import HiddifyCore.V2.Told
import HiddifyCore.V2.OldCommandClient
import HiddifyCore.Custom.Library
