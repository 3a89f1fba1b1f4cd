import AiHub.Service.RefundOnce
import AiHub.Model.TopUpOnce
import AiHub.Service.TaskRefund
import AiHub.Model.Subscription.Idempotent
import AiHub.Service.TaskSettlement
import AiHub.Service.PollingRound
import AiHub.Model.WalletCache
import AiHub.Model.TokenCache
import AiHub.Model.BatchUpdate
import AiHub.Model.UserAuthCache
import AiHub.Model.TwoFA
import AiHub.Common.RateLimit
import AiHub.Service.SessionLimit
import AiHub.Relaykit.ChatToClaudeRequest
import AiHub.Relaykit.ClaudeToChatRequest
import AiHub.Model.ChannelCopies
import AiHub.Service.SubscriptionResetTask
import AiHub.Relay.TaskRemix
import AiHub.Relaykit.GeminiUsageMerge
import AiHub.Service.TieredParams
import AiHub.Service.TieredGroups
import AiHub.Relaykit.GeminiResponseSchema
import AiHub.Relaykit.GeminiInlineImages
import AiHub.Relaykit.GeminiFinish
import AiHub.Relaykit.ChatToResponsesRequest
import AiHub.Relaykit.ClaudeResponsesInput
import AiHub.Service.ChannelSelect
import AiHub.Relay.PruneObjects
import AiHub.Relay.WildcardDelete
import AiHub.Relaykit.ReasoningWire
import AiHub.Setting.BillingNames
import AiHub.Setting.StatusCodeRanges
import AiHub.Plugin.Registry
import AiHub.Relay.ModelModifier
import AiHub.Relay.ModelMapped
import AiHub.PerfMetrics.Flush
import AiHub.Service.AuthzOverrides
import AiHub.Service.ToolSurcharge
