import PortMessaging.Address
import PortMessaging.Config
import PortMessaging.ConfigFile
import PortMessaging.Dispatch
import PortMessaging.Effect
import PortMessaging.Error
import PortMessaging.Gateway
import PortMessaging.Json.Codec
import PortMessaging.Json.Reader
import PortMessaging.Json.StringLiteral
import PortMessaging.Json.Value
import PortMessaging.Listener
import PortMessaging.Log
import PortMessaging.Loopback
import PortMessaging.MainLoop
import PortMessaging.Message
import PortMessaging.MessagePack.Bytes
import PortMessaging.MessagePack.Codec
import PortMessaging.MessagePack.Reader
import PortMessaging.MessagePack.Value
import PortMessaging.Messenger
import PortMessaging.Payload
import PortMessaging.Port
import PortMessaging.Proofs.AlikePayloads
import PortMessaging.Proofs.Attachments
import PortMessaging.Proofs.ChecksAndSends
import PortMessaging.Proofs.ConfigDocuments
import PortMessaging.Proofs.Deeds
import PortMessaging.Proofs.EncodedSizes
import PortMessaging.Proofs.Ends
import PortMessaging.Proofs.FailureCodes
import PortMessaging.Proofs.GatewayFilter
import PortMessaging.Proofs.JsonForms
import PortMessaging.Proofs.JsonText
import PortMessaging.Proofs.Looks
import PortMessaging.Proofs.LoopbackCounter
import PortMessaging.Proofs.LoopbackIds
import PortMessaging.Proofs.LoopbackRuns
import PortMessaging.Proofs.LoopbackService
import PortMessaging.Proofs.MessagePackBytes
import PortMessaging.Proofs.MessagePackForms
import PortMessaging.Proofs.MirroredPorts
import PortMessaging.Proofs.Moves
import PortMessaging.Proofs.OpaquePayloads
import PortMessaging.Proofs.OpaqueRuns
import PortMessaging.Proofs.OpaqueScenarios
import PortMessaging.Proofs.PayloadEdits
import PortMessaging.Proofs.PendingTasks
import PortMessaging.Proofs.Places
import PortMessaging.Proofs.Plays
import PortMessaging.Proofs.PortLifetimes
import PortMessaging.Proofs.QueueHistory
import PortMessaging.Proofs.ReadBack
import PortMessaging.Proofs.Reception
import PortMessaging.Proofs.Recordings
import PortMessaging.Proofs.RegistryCalls
import PortMessaging.Proofs.RegistryChanges
import PortMessaging.Proofs.RegistryExits
import PortMessaging.Proofs.RegistryMirror
import PortMessaging.Proofs.RegistryTables
import PortMessaging.Proofs.RegistryViews
import PortMessaging.Proofs.RepairingRegistrations
import PortMessaging.Proofs.ReplyAddresses
import PortMessaging.Proofs.Requests
import PortMessaging.Proofs.RetiredPorts
import PortMessaging.Proofs.SendOutcomes
import PortMessaging.Proofs.Sends
import PortMessaging.Proofs.ServedRegistries
import PortMessaging.Proofs.SortedMap
import PortMessaging.Proofs.SoundWorlds
import PortMessaging.Proofs.StrandedPorts
import PortMessaging.Proofs.Taps
import PortMessaging.Proofs.TomlLines
import PortMessaging.Proofs.TrustIsolation
import PortMessaging.Registry
import PortMessaging.Scenario.Action
import PortMessaging.Scenario.Budget
import PortMessaging.Scenario.Endpoint
import PortMessaging.Scenario.Perform
import PortMessaging.Scenario.Play
import PortMessaging.Scenario.World
import PortMessaging.SortedMap
import PortMessaging.Tally
import PortMessaging.Text.Hex
import PortMessaging.Text.Quoted
import PortMessaging.Text.Visible
import PortMessaging.Toml.Codec
import PortMessaging.Toml.Document
import PortMessaging.Toml.Reader
import PortMessaging.Toml.Scalar
import PortMessaging.Toml.StringLiteral
import PortMessaging.Toml.Value
import PortMessaging.Translator
import PortMessaging.Transport
