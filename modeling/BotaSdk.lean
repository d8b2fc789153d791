import BotaSdk.Lib.Run
import BotaSdk.Lib.Inserted
import BotaSdk.Lib.Bytes
import BotaSdk.Lib.Delivery
import BotaSdk.Lib.Numbered
import BotaSdk.Lib.Since
import BotaSdk.Lib.Checked
import BotaSdk.Lib.Layout
import BotaSdk.Lib.Lines
import BotaSdk.Lib.Chunks
import BotaSdk.Lib.Reader
import BotaSdk.Error
import BotaSdk.Model
import BotaSdk.Model.Identifiers
import BotaSdk.Model.ByoUpload
import BotaSdk.Model.ByoUploadMoves
import BotaSdk.Model.ByoUploadRuns
import BotaSdk.Model.ByoCheckpoint
import BotaSdk.Model.ByoCheckpointCodec
import BotaSdk.Engine.Effect
import BotaSdk.Engine.Runtime
import BotaSdk.Engine.Waiting
import BotaSdk.Engine.History
import BotaSdk.Engine.Observation
import BotaSdk.Engine.Timers
import BotaSdk.Protocol.Cursor
import BotaSdk.Protocol.Transfer
import BotaSdk.Protocol.Logs
import BotaSdk.Protocol.Provisioning
import BotaSdk.Protocol.ChunkedWrites
import BotaSdk.Protocol.RegulatoryReceipts
import BotaSdk.Lib.Keyed
import BotaSdk.Protocol.Diagnostics
import BotaSdk.Protocol.DiagnosticsMessages
import BotaSdk.Protocol.DiagnosticsSlots
import BotaSdk.Protocol.DiagnosticsRuns
import BotaSdk.Protocol.DiagnosticsBatches
import BotaSdk.Protocol.DiagnosticsDelivery
import BotaSdk.Protocol.DiagnosticsReads
import BotaSdk.Protocol.EncryptedUploadV2Catalog
import BotaSdk.Model.Settings
import BotaSdk.Protocol.Settings
import BotaSdk.Protocol.Ota
import BotaSdk.Protocol.Status
import BotaSdk.Protocol.EncryptedUploadV2
import BotaSdk.Protocol.EncryptedUploadV2Frames
import BotaSdk.Protocol.EncryptedUploadV2Codec
import BotaSdk.Protocol.EncryptedUploadV2Context
import BotaSdk.Protocol.SignedBlobV2
import BotaSdk.Protocol.SignedBlobV2Codec
import BotaSdk.Protocol.SignedBlobAssembly
import BotaSdk.Protocol.RecordingMarkers
import BotaSdk.Protocol.EncryptedUploadV2Receiver
import BotaSdk.Protocol.ReceiverPackets
import BotaSdk.Protocol.ReceiverSteps
import BotaSdk.Protocol.ReceiverBookkeeping
import BotaSdk.Protocol.ReceiverRequests
import BotaSdk.Protocol.ReceiverSink
import BotaSdk.Protocol.ReceiverMarkers
import BotaSdk.Protocol.ReceiverMarkerRuns
import BotaSdk.Protocol.LocalWifi
import BotaSdk.Protocol.LocalWifiControl
import BotaSdk.Protocol.LocalWifiControlChannel
import BotaSdk.Protocol.LocalWifiTransfer
import BotaSdk.Protocol.LocalWifiTransferOrder
import BotaSdk.Protocol.LocalWifiRebase
import BotaSdk.Model.ManagedUpload
import BotaSdk.Model.ManagedUploadJournal
import BotaSdk.Workflow.StreamingTransfer
import BotaSdk.Workflow.StreamingSteps
import BotaSdk.Workflow.StreamingPlaintext
import BotaSdk.Workflow.StreamingInterleaving
import BotaSdk.Workflow.RecordingTransfer
import BotaSdk.Workflow.RecordingPackets
import BotaSdk.Workflow.RecordingSteps
import BotaSdk.Workflow.RecordingReader
import BotaSdk.Workflow.RecordingStream
import BotaSdk.Workflow.RecordingInOrder
import BotaSdk.Workflow.RecordingWhole
import BotaSdk.Workflow.RecordingWaiting
import BotaSdk.Workflow.ConfirmedCopy
import BotaSdk.Workflow.EncryptedUploadV2
import BotaSdk.Workflow.EncryptedUploadV2Steps
import BotaSdk.Workflow.EncryptedUploadV2Rejection
import BotaSdk.Workflow.EncryptedUploadV2Order
import BotaSdk.Workflow.Connection
import BotaSdk.Workflow.ConnectionSteps
import BotaSdk.Workflow.ConnectionIdentity
import BotaSdk.Workflow.ConnectionTimers
import BotaSdk.Workflow.ConnectionEffects
import BotaSdk.Workflow.ConnectionProbing
import BotaSdk.Workflow.Discovery
import BotaSdk.Workflow.FirmwareUpdate
import BotaSdk.Workflow.FirmwareUpdateSteps
import BotaSdk.Workflow.FirmwareTimers
import BotaSdk.Workflow.FirmwareTransfer
import BotaSdk.Workflow.FirmwareContents
import BotaSdk.Workflow.FirmwareSignals
import BotaSdk.Workflow.FirmwareOrder
import BotaSdk.Workflow.UploadHandoff
import BotaSdk.Workflow.UploadHandoffFallback
import BotaSdk.Workflow.UploadHandoffRace
import BotaSdk.Workflow.FactoryReset
import BotaSdk.Workflow.FactoryResetSteps
import BotaSdk.Workflow.FactoryResetOrder
import BotaSdk.Workflow.Provisioning
import BotaSdk.Workflow.ProvisioningSteps
import BotaSdk.Workflow.ProvisioningChunks
import BotaSdk.Workflow.DeadEnds
import BotaSdk.Workflow.LateScanResults
import BotaSdk.Bridge.NativeV2
import BotaSdk.Protocol.ByoBle
import BotaSdk.Bridge.ByoBleLink
import BotaSdk.Bridge.ByoBleExchange
import BotaSdk.Bridge.ByoBleReplies
import BotaSdk.Bridge.ByoBleRuns
import BotaSdk.Lib.Ascii
import BotaSdk.Lib.Json
import BotaSdk.Lib.Serde
import BotaSdk.Lib.Calendar
import BotaSdk.Lib.Timestamp
import BotaSdk.Model.ManagedUploadDates
import BotaSdk.Model.ManagedUploadDateText
import BotaSdk.Model.ManagedUploadInstants
import BotaSdk.Lib.Decimal
import BotaSdk.Model.ManagedUploadDocuments
import BotaSdk.Bridge.SafeJson
import BotaSdk.Bridge.SafeJsonRoundTrip
import BotaSdk.Bridge.SafeJsonIntegers
import BotaSdk.Lib.Ends
import BotaSdk.Lib.JsonObjects
import BotaSdk.Model.ByoCustomer
import BotaSdk.Model.ByoRecoveryJson
import BotaSdk.Bridge.ByoMachine
import BotaSdk.Bridge.ByoMachineStages
import BotaSdk.Bridge.ByoMachineConsume
import BotaSdk.Bridge.ByoMachineGraph
import BotaSdk.Bridge.ByoHistory
import BotaSdk.Bridge.ByoHistoryCleanup
import BotaSdk.Bridge.ByoRefresh
