import SaasKit.Lib.Run
import SaasKit.Lib.Table
import SaasKit.Lib.TtlCache
import SaasKit.Lib.Interleave
import SaasKit.Models
import SaasKit.RbacService
import SaasKit.InvitationService
import SaasKit.RbacPermissions
import SaasKit.Views
import SaasKit.DemoSeed
import SaasKit.TenantScope
import SaasKit.TenantGate
import SaasKit.TenantCache
import SaasKit.MemberQuota
import SaasKit.RoleHierarchy
import SaasKit.InvitationRace
import SaasKit.BillingService
import SaasKit.SubscriptionLifecycle
import SaasKit.StripeWebhook
import SaasKit.SocialAuthService
import SaasKit.AuthViews
import SaasKit.SecondFactor
import SaasKit.FeatureService
import SaasKit.FeatureFlags
import SaasKit.GdprService
import SaasKit.Erasure
import SaasKit.TokenRevocation
import SaasKit.WebsocketAuth
import SaasKit.TwoFactorRace
import SaasKit.BackupCodeRace
import SaasKit.FactorRace
import SaasKit.IdempotencyService
import SaasKit.UserService
import SaasKit.AccountRace
import SaasKit.SocialTrust
import SaasKit.GracePeriod
import SaasKit.SubscriptionObject
import SaasKit.WebhookRace
import SaasKit.EventReplay
import SaasKit.StripeMirror
import SaasKit.ManualOverrides
import SaasKit.BillingCalls
import SaasKit.Lib.LastWrite
import SaasKit.RoleMap
import SaasKit.TenantIsolation
import SaasKit.InvitationLifecycle
import SaasKit.HardDelete
import SaasKit.AuditTrail
import SaasKit.ErrorEnvelope
import SaasKit.Throttling
import SaasKit.TraceContext
import SaasKit.SoftDelete
import SaasKit.Reappearance
import SaasKit.NotificationChannel
import SaasKit.FlagResolution
import SaasKit.InvitationConflict
import SaasKit.InvitationReaders
import SaasKit.InvitationRetry
import SaasKit.Registration
import SaasKit.TenantCreation
import SaasKit.TenantReach
import SaasKit.ResetRequest
import SaasKit.AuditRequest
import SaasKit.SocialLogin
import SaasKit.Lib.Outcome
import SaasKit.ProviderAnswers
import SaasKit.PermissionResolution
import SaasKit.TenantContext
import SaasKit.Lib.Nested
import SaasKit.LogRedaction
import SaasKit.ErrorDetails
import SaasKit.FirstMessage
import SaasKit.InvitationLogs
import SaasKit.Lib.Loop
import SaasKit.Lib.Pattern
import SaasKit.SecretKey
import SaasKit.SlugGrammar
import SaasKit.UsernameSearch
import SaasKit.Lib.Broker
import SaasKit.Pipeline
import SaasKit.Inbox
import SaasKit.Lib.Keyed
import SaasKit.MailAddresses
import SaasKit.PlanThrottle
import SaasKit.ResetTokens
import SaasKit.Seeding
import SaasKit.DeleteUserData
import SaasKit.InvitationLinks
import SaasKit.RoleJournal
import SaasKit.TokenCleanup
import SaasKit.FlagSync
import SaasKit.ProfileDesk
