import AjoCloud.Lib.Result
import AjoCloud.Lib.Table
import AjoCloud.Lib.Run
import AjoCloud.Lib.Journal
import AjoCloud.Common.ServiceError
import AjoCloud.Ledger.Basic
import AjoCloud.Ledger.Posting
import AjoCloud.Ledger.TrialBalance
import AjoCloud.Ledger.Reversal
import AjoCloud.Database.Ajo
import AjoCloud.Database.Basic
import AjoCloud.Fees.Basic
import AjoCloud.Common.Text
import AjoCloud.Payments.Basic
import AjoCloud.Ajo.Policy
import AjoCloud.Ajo.Settlement
import AjoCloud.Ajo.Swaps
import AjoCloud.Ledger.Accounts
import AjoCloud.Ajo.Books
import AjoCloud.Ajo.Effect
import AjoCloud.Ajo.Steps
import AjoCloud.Ajo.Turns
import AjoCloud.Ajo.Payouts
import AjoCloud.Ajo.Pool
import AjoCloud.Kyc.Facts
import AjoCloud.Wallets.Movements
import AjoCloud.Food.Subscriptions
import AjoCloud.Payments.Targets
import AjoCloud.Bills.Basic
import AjoCloud.Referrals.Basic
import AjoCloud.Ledger.Solvency
import AjoCloud.Payments.Requests
import AjoCloud.Platform.Basic
import AjoCloud.Platform.Deposits
import AjoCloud.Common.Json
import AjoCloud.Webhooks.Events
import AjoCloud.Webhooks.Service
import AjoCloud.Platform.Webhooks
import AjoCloud.Ajo.Held
import AjoCloud.Bills.Lifecycle
import AjoCloud.Platform.Effects
import AjoCloud.Platform.Bills
import AjoCloud.Platform.Resolution
import AjoCloud.Platform.Stranded
import AjoCloud.Platform.Keys
import AjoCloud.Platform.Postings
import AjoCloud.Ledger.Holdings
import AjoCloud.Platform.Reserves
import AjoCloud.Platform.Records
import AjoCloud.Platform.Payments
import AjoCloud.Platform.Terminal
import AjoCloud.Platform.Charges
import AjoCloud.Platform.Redelivery
import AjoCloud.Ajo.Expiry
import AjoCloud.Ajo.Schedule
import AjoCloud.Ajo.Groups
import AjoCloud.Ajo.Enrolment
import AjoCloud.Ajo.Lockable
import AjoCloud.Ajo.Locking
import AjoCloud.Ajo.Versions
import AjoCloud.Ajo.Plans
import AjoCloud.Ajo.Paths
import AjoCloud.Auth.Register
import AjoCloud.Referrals.Awards
import AjoCloud.Referrals.Cap
import AjoCloud.Referrals.Races
import AjoCloud.Referrals.Clawback
import AjoCloud.Food.Programmes
import AjoCloud.Food.Escrow
import AjoCloud.Food.Conservation
import AjoCloud.Food.Refunds
import AjoCloud.Food.Procurement
import AjoCloud.Food.Distributions
import AjoCloud.Food.HandOut
import AjoCloud.Food.Completion
import AjoCloud.Food.Collections
import AjoCloud.Akawo.Pools
import AjoCloud.Akawo.Steps
import AjoCloud.Akawo.Dues
import AjoCloud.Akawo.Reports
import AjoCloud.Kyc.Policy
import AjoCloud.Kyc.Service
import AjoCloud.Kyc.Review
import AjoCloud.Auth.Accounts
import AjoCloud.Auth.Passwords
import AjoCloud.Auth.Purposes
import AjoCloud.Auth.Resets
import AjoCloud.Auth.Rotation
import AjoCloud.Auth.Suspension
import AjoCloud.Platform.Authorised
import AjoCloud.Platform.Frozen
import AjoCloud.Wallets.Provision
import AjoCloud.Lib.Frame
import AjoCloud.Ledger.Alike
import AjoCloud.Platform.Beside
import AjoCloud.Platform.Undisturbed
import AjoCloud.Platform.Others
import AjoCloud.Auth.PinChanges
import AjoCloud.Auth.PinGuesses
import AjoCloud.Auth.StaffInvites
import AjoCloud.Auth.Cooldowns
import AjoCloud.Database.Coordinators
import AjoCloud.Food.Coordinators
import AjoCloud.Food.Applications
import AjoCloud.Ajo.Consent
import AjoCloud.Kyc.Threads
import AjoCloud.Kyc.Tiers
import AjoCloud.Kyc.Personas
import AjoCloud.Kyc.Lookups
import AjoCloud.Bills.Catalog
import AjoCloud.Bills.Freshness
import AjoCloud.Bills.Mirror
import AjoCloud.Lib.Bands
import AjoCloud.Lib.Sorting
import AjoCloud.Lib.Months
import AjoCloud.Fees.Tiers
import AjoCloud.Fees.Bounds
import AjoCloud.Ajo.SwapFees
import AjoCloud.Ajo.Rotation
import AjoCloud.Ajo.Limits
import AjoCloud.Ledger.Retries
import AjoCloud.Platform.Credits
import AjoCloud.Lib.Paging
import AjoCloud.Database.Console
import AjoCloud.Admin.Notifications
import AjoCloud.Admin.Feed
import AjoCloud.Kyc.Rejections
import AjoCloud.Kyc.Held
import AjoCloud.Webhooks.Amounts
import AjoCloud.Food.PurchaseOrders
import AjoCloud.Platform.KeyLengths
import AjoCloud.Notifications.Money
import AjoCloud.Bills.References
import AjoCloud.Platform.SharedCodes
import AjoCloud.Ajo.Links
import AjoCloud.Ajo.InvitationCap
import AjoCloud.Kyc.Names
import AjoCloud.Kyc.Addresses
import AjoCloud.Wallets.Privacy
import AjoCloud.Database.Mail
import AjoCloud.Devices.Registry
import AjoCloud.Notifications.Policy
import AjoCloud.Notifications.Preferences
import AjoCloud.Notifications.Push
import AjoCloud.Lib.Tickets
import AjoCloud.Notifications.System
import AjoCloud.Notifications.Delivery
import AjoCloud.Devices.Tokens
import AjoCloud.Auth.Cookies
import AjoCloud.Lib.Cursor
import AjoCloud.Notifications.Feed
import AjoCloud.Kyc.Documents
import AjoCloud.Kyc.Monnify
import AjoCloud.Kyc.Stages
