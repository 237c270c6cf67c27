import OpenEstate.Postsales.Gst
import OpenEstate.Postsales.SimpleInterest
import OpenEstate.Postsales.RefundCycle
import OpenEstate.Postsales.Settlement
import OpenEstate.Postsales.TransferredOut
import OpenEstate.Postsales.RefundCap
import OpenEstate.Postsales.StageOrder
import OpenEstate.Concurrent.DoubleSale
import OpenEstate.Concurrent.ReceiptRace
import OpenEstate.Concurrent.DoubleDecision
import OpenEstate.Commission.AfterCancellation
import OpenEstate.Commission.Terms
import OpenEstate.Commission.Payout
import OpenEstate.Access.TokenFinality
import OpenEstate.Access.VersionFreshness
import OpenEstate.Presales.DispositionHistory
import OpenEstate.Presales.StageHistory
import OpenEstate.Presales.StageUse
import OpenEstate.Presales.RoundRobin
import OpenEstate.Presales.Conversion
import OpenEstate.Shared.Apportionment
import OpenEstate.Masters.GstRate
import OpenEstate.Access.RoleBaseline
import OpenEstate.Webhooks.Breaker
import OpenEstate.Inventory.Recreated
import OpenEstate.Commission.Distribution
import OpenEstate.Masters.TdsRule
import OpenEstate.Documents.Portal
import OpenEstate.Tenancy.TenantExtension
import OpenEstate.Access.Deactivation
import OpenEstate.Presales.ChangeDecision
import OpenEstate.Masters.LetterTemplate
import OpenEstate.Commission.UsableRules
import OpenEstate.Commission.ProjectRule
import OpenEstate.Postsales.CostLineVerifier
import OpenEstate.Postsales.PendingStages
import OpenEstate.Access.StaffRefresh
import OpenEstate.Commission.SettledAccrual
import OpenEstate.CustomFields.Redaction
import OpenEstate.Inventory.AreaConversion
import OpenEstate.Access.TeamScope
import OpenEstate.Access.TotpLockout
import OpenEstate.Presales.FollowUpEscalation
import OpenEstate.Webhooks.AttemptLog
import OpenEstate.Common.Throttler
import OpenEstate.Presales.PhoneNumber
import OpenEstate.Reports.PresalesRows
import OpenEstate.Reports.BirthdayList
import OpenEstate.Inventory.RateRevision
import OpenEstate.Shared.Rupees
import OpenEstate.CustomFields.DateValue
import OpenEstate.Tenancy.AuditExtension
import OpenEstate.Plugins.ScopedClient
import OpenEstate.Plugins.Install
