import XiaozhiPlatform.GoLib.Encoding
import XiaozhiPlatform.GoLib.Sha256
import XiaozhiPlatform.GoLib.Json
import XiaozhiPlatform.GoLib.JsonStruct
import XiaozhiPlatform.GoLib.Error
import XiaozhiPlatform.GoLib.FileSystem
import XiaozhiPlatform.Auth.Token
import XiaozhiPlatform.Generation.Codec
import XiaozhiPlatform.Generation.Store
import XiaozhiPlatform.Generation.Disk
import XiaozhiPlatform.Generation.History
import XiaozhiPlatform.Generation.Coordinator
import XiaozhiPlatform.Generation.Machine
import XiaozhiPlatform.Generation.Acknowledgements
import XiaozhiPlatform.Generation.Lifecycle
import XiaozhiPlatform.Generation.Rollout
import XiaozhiPlatform.Generation.Convergence
import XiaozhiPlatform.Generation.Recovery
import XiaozhiPlatform.Generation.Api
import XiaozhiPlatform.Generation.Guard
import XiaozhiPlatform.GoLib.Run
import XiaozhiPlatform.GoLib.Sql
import XiaozhiPlatform.DeviceClaim.Store
import XiaozhiPlatform.DeviceClaim.Index
import XiaozhiPlatform.DeviceClaim.Ownership
import XiaozhiPlatform.DeviceClaim.Schema
import XiaozhiPlatform.DeviceClaim.Postgres
import XiaozhiPlatform.DeviceClaim.OneTime
import XiaozhiPlatform.DeviceClaim.Transactions
import XiaozhiPlatform.DeviceClaim.Owners
import XiaozhiPlatform.DeviceClaim.Agreement
import XiaozhiPlatform.DeviceClaim.Simulation
import XiaozhiPlatform.ActionConsent.Contract
import XiaozhiPlatform.ActionConsent.History
import XiaozhiPlatform.ActionConsent.Postgres
import XiaozhiPlatform.ActionConsent.Binding
import XiaozhiPlatform.GoLib.Int64
import XiaozhiPlatform.Budget.Ledger
import XiaozhiPlatform.Budget.Accounts
import XiaozhiPlatform.Budget.Contracts
import XiaozhiPlatform.Gateway.MeterAccounts
import XiaozhiPlatform.Gateway.MeterTiming
import XiaozhiPlatform.CLib.Memory
import XiaozhiPlatform.GoLib.ByteOrder
import XiaozhiPlatform.Protocol.Audio
import XiaozhiPlatform.Device.AudioProtocol
import XiaozhiPlatform.Gateway.Synthesis
import XiaozhiPlatform.Gateway.SynthesisRuns
import XiaozhiPlatform.Gateway.SynthesisEnds
import XiaozhiPlatform.GoLib.Float64
import XiaozhiPlatform.GoLib.Unicode
import XiaozhiPlatform.Protocol.Control
import XiaozhiPlatform.Device.ControlWriter
import XiaozhiPlatform.Device.ControlRoundTrip
import XiaozhiPlatform.Device.AgentController
import XiaozhiPlatform.Device.AgentTurns
import XiaozhiPlatform.Device.AgentAdapter
import XiaozhiPlatform.Voice.Link
import XiaozhiPlatform.Voice.BudgetErrors
import XiaozhiPlatform.Voice.Violations
import XiaozhiPlatform.Auth.Claims
import XiaozhiPlatform.Auth.Issuer
import XiaozhiPlatform.Auth.Transition
import XiaozhiPlatform.Gateway.Reconcile
import XiaozhiPlatform.CLib.CJson
import XiaozhiPlatform.CLib.CJsonRead
import XiaozhiPlatform.Coordination.LeaseRuns
import XiaozhiPlatform.Device.OtaCore
import XiaozhiPlatform.Device.ProofCore
import XiaozhiPlatform.Gateway.OtaAgreement
import XiaozhiPlatform.Gateway.TokenReplay
import XiaozhiPlatform.Generation.Nonces
import XiaozhiPlatform.Provisioning.Replay
import XiaozhiPlatform.CLib.LittleEndian
import XiaozhiPlatform.CLib.SortedArray
import XiaozhiPlatform.Device.MemoryCore
import XiaozhiPlatform.Device.MemoryFormat
import XiaozhiPlatform.Device.MemoryRuns
import XiaozhiPlatform.Device.MemorySlots
import XiaozhiPlatform.Device.Backoff
import XiaozhiPlatform.Device.MemoryRepresentation
import XiaozhiPlatform.Gateway.SpokenText
import XiaozhiPlatform.Gateway.ReplyParts
import XiaozhiPlatform.Device.WebSocketRx
