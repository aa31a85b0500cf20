import PepeAudio.Lib.Run
import PepeAudio.Lib.Program
import PepeAudio.Lib.Versioned
import PepeAudio.Lib.Counter
import PepeAudio.Core.Text
import PepeAudio.Core.Identifier
import PepeAudio.Core.Player
import PepeAudio.Core.Command
import PepeAudio.Player.Model
import PepeAudio.Player.Shuffle
import PepeAudio.Player.Ports
import PepeAudio.Player.Timer
import PepeAudio.Player.Actor
import PepeAudio.Player.Queue
import PepeAudio.Player.PlaybackEnd
import PepeAudio.Player.VoiceState
import PepeAudio.Player.Commands
import PepeAudio.Player.Runtime
import PepeAudio.Player.Change
import PepeAudio.Player.Rules
import PepeAudio.Player.Conformance.Basic
import PepeAudio.Player.Conformance.Queue
import PepeAudio.Player.Conformance.Commands
import PepeAudio.Player.Conformance.Events
import PepeAudio.Player.Coherence
import PepeAudio.Player.Conformance.Runtime
import PepeAudio.Player.Safety
import PepeAudio.Player.PublicShape
import PepeAudio.Player.QueueAdvance
import PepeAudio.Player.PresetMemory
import PepeAudio.Player.Revisions
import PepeAudio.Player.Fencing
import PepeAudio.Player.AudioSettings
import PepeAudio.Player.IdleSafety
import PepeAudio.Player.Idempotency
import PepeAudio.Lib.KeyedQueues
import PepeAudio.Worker.GuildDispatcher
import PepeAudio.Worker.Dispatching
import PepeAudio.Core.CommandResult
import PepeAudio.Lib.ExpiringMap
import PepeAudio.Storage.CommandStore
import PepeAudio.Worker.CommandLoop
import PepeAudio.Storage.Retention
import PepeAudio.Worker.Truthfulness
import PepeAudio.Lib.LeaseSlot
import PepeAudio.Storage.LeaseSafety
import PepeAudio.Worker.Acknowledgement
import PepeAudio.Lib.Decimal
import PepeAudio.Lib.MaxRegister
import PepeAudio.Storage.SnapshotStore
import PepeAudio.Storage.SnapshotWatermark
import PepeAudio.Lib.FixedWindow
import PepeAudio.Storage.CommandAdmission
import PepeAudio.Storage.AdmissionLimits
import PepeAudio.Worker.SnapshotRuntime
import PepeAudio.Worker.SnapshotMoves
import PepeAudio.Worker.SnapshotDurability
import PepeAudio.Media.LeaseProtection
import PepeAudio.Storage.GuildSettings
import PepeAudio.Worker.SettingsRuntime
import PepeAudio.Worker.SettingsMoves
import PepeAudio.Worker.SettingsTruthfulness
import PepeAudio.Worker.SettingsFlush
import PepeAudio.Bot.GuildLifecycle
import PepeAudio.Lib.Since
import PepeAudio.Bot.GuildOwnership
import PepeAudio.Bot.GuildReconciliation
import PepeAudio.Bot.DashboardCommandExecutor
import PepeAudio.Bot.OptimisticConcurrency
import PepeAudio.Media.Capacity
import PepeAudio.Media.CapacityAccounting
import PepeAudio.Lib.Totals
import PepeAudio.Web.QueueReorder
import PepeAudio.Runtime.GuildPresence
import PepeAudio.Runtime.PresenceLeases
import PepeAudio.Web.LiveDashboard
import PepeAudio.Web.DisplayOrder
import PepeAudio.Runtime.ApiEvents
import PepeAudio.Runtime.EventDelivery
import PepeAudio.Bot.PlayerFactory
import PepeAudio.Bot.PlayerRegistry
import PepeAudio.Bot.RegistryMoves
import PepeAudio.Bot.ActorPublication
import PepeAudio.Bot.SpawnedActors
import PepeAudio.Bot.RegistryInvariant
import PepeAudio.Bot.ActorSuccession
import PepeAudio.Bot.ServedSettings
import PepeAudio.Bot.SettingsSuccession
import PepeAudio.Worker.SettingsView
import PepeAudio.Bot.ActorInitialization
import PepeAudio.Bot.ActorCreation
import PepeAudio.Lib.ScoredSet
import PepeAudio.Auth.Repository
import PepeAudio.Auth.OAuthStates
import PepeAudio.Auth.LoginTransactions
import PepeAudio.Lib.Json
import PepeAudio.Lib.LuaJson
import PepeAudio.Auth.Session
import PepeAudio.Auth.SessionStore
import PepeAudio.Auth.SessionRefresh
import PepeAudio.Auth.SessionCalls
import PepeAudio.Auth.SessionReplacement
import PepeAudio.Lib.Url
import PepeAudio.Lib.PlainUrl
import PepeAudio.Core.MediaPage
import PepeAudio.Catalog.Link
import PepeAudio.Catalog.Canonical
import PepeAudio.Catalog.PublicPages
import PepeAudio.Bot.TrackMetadata
import PepeAudio.Lib.JsValue
import PepeAudio.Core.WireFormat
import PepeAudio.Web.MediaPage
import PepeAudio.Web.SnapshotWire
import PepeAudio.Web.SnapshotAgreement
import PepeAudio.Player.BatchEnqueue
import PepeAudio.Lib.Reinsert
import PepeAudio.Player.QueueMove
import PepeAudio.Runtime.PlayerStream
import PepeAudio.Lib.IpAddress
import PepeAudio.Media.AddressPolicy
import PepeAudio.Media.UrlPolicy
import PepeAudio.Media.JanitorPlanning
import PepeAudio.Lib.FillBuffer
import PepeAudio.Pipeline.PcmPump
import PepeAudio.Pipeline.PumpFraming
import PepeAudio.Core.TextSize
import PepeAudio.Core.SnapshotSize
import PepeAudio.Runtime.SnapshotTransport
import PepeAudio.Media.SitePages
import PepeAudio.Media.SiteParse
import PepeAudio.Bot.SitePublication
import PepeAudio.Catalog.ClientTracks
import PepeAudio.Bot.SiteSearch
import PepeAudio.Bot.SiteAcceptance
import PepeAudio.Lib.Words
import PepeAudio.Media.SiteMatching
import PepeAudio.Media.RemoteFetch
import PepeAudio.Media.FetchRequests
import PepeAudio.Media.FetchFiles
import PepeAudio.Media.FetchOutcome
import PepeAudio.Player.ShuffleBounds
import PepeAudio.Lib.Interleave
import PepeAudio.Hrir.Loader
import PepeAudio.Hrir.Deinterleave
import PepeAudio.Lib.Radix
import PepeAudio.Lib.Base64
import PepeAudio.Bot.ComponentId
import PepeAudio.Bot.ComponentIdRoundTrip
import PepeAudio.Lib.TaskPool
import PepeAudio.Bot.SiteBatch
import PepeAudio.Bot.SiteBatchOrder
import PepeAudio.Lib.Utf8
import PepeAudio.Catalog.PublicScan
import PepeAudio.Catalog.HtmlEntities
import PepeAudio.Catalog.PublicScanSafety
import PepeAudio.Catalog.MetaTags
import PepeAudio.Catalog.MetaDocuments
import PepeAudio.Lib.Ascii
import PepeAudio.Lib.Framing
import PepeAudio.Web.EventStream
import PepeAudio.Web.EventChunks
import PepeAudio.Lib.Paging
import PepeAudio.Catalog.CollectionPages
import PepeAudio.Catalog.BoundedCollections
import PepeAudio.Catalog.FaithfulCollections
import PepeAudio.Lib.Convolution
import PepeAudio.Lib.RealDft
import PepeAudio.Audio.Fir
import PepeAudio.Audio.Partitioned
import PepeAudio.Audio.OverlapSave
import PepeAudio.Lib.Ramp
import PepeAudio.Audio.Transition
import PepeAudio.Audio.Orbit
import PepeAudio.Audio.OrbitContinuity
import PepeAudio.Audio.Renderer
import PepeAudio.Audio.Processor
import PepeAudio.Audio.DirectProcessor
import PepeAudio.Audio.ProcessorRefinement
import PepeAudio.Audio.BlockGrouping
import PepeAudio.Audio.ProcessorBounds
import PepeAudio.Audio.FixedFront
import PepeAudio.Audio.OrbitMotion
import PepeAudio.Lib.HotSwap
import PepeAudio.Pipeline.DecoderBudget
import PepeAudio.Bot.ComponentsV2
import PepeAudio.Hrir.PresetMetadata
import PepeAudio.Bot.NowPanel
import PepeAudio.Bot.NowPanelControls
import PepeAudio.Bot.Authorization
import PepeAudio.Bot.PlayerClient
import PepeAudio.Bot.ComponentDispatch
import PepeAudio.Bot.PlayCommand
import PepeAudio.Auth.LoginFlow
