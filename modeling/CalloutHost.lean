import CalloutHost.Access.Issuer
import CalloutHost.Access.PinnedStore
import CalloutHost.Access.Placeholder
import CalloutHost.Access.Policy
import CalloutHost.Access.Secrets
import CalloutHost.Access.SigningKeys
import CalloutHost.Access.Template
import CalloutHost.Bytes
import CalloutHost.Claims.Authorization
import CalloutHost.Claims.Basic
import CalloutHost.Claims.Token
import CalloutHost.Claims.User
import CalloutHost.Crypto.Ed25519
import CalloutHost.Crypto.Sha512
import CalloutHost.Dict
import CalloutHost.Domain.Mapping
import CalloutHost.Domain.Name
import CalloutHost.Domain.Normal
import CalloutHost.Domain.Punycode
import CalloutHost.Domain.Table
import CalloutHost.Encoding.Base32
import CalloutHost.Encoding.Base64Url
import CalloutHost.Engine.Log
import CalloutHost.Engine.Options
import CalloutHost.Engine.ScriptedProcess
import CalloutHost.Engine.ServerProcess
import CalloutHost.Json.Codec
import CalloutHost.Json.Doc
import CalloutHost.Json.Number
import CalloutHost.Json.Record
import CalloutHost.Json.Refusal
import CalloutHost.Json.Text
import CalloutHost.Json.Value
import CalloutHost.Lifecycle.Fleet
import CalloutHost.Lifecycle.Interleave
import CalloutHost.Lifecycle.Program
import CalloutHost.Lifecycle.Script
import CalloutHost.Lifecycle.Server
import CalloutHost.Lifecycle.Supervised
import CalloutHost.Lifecycle.Supervision
import CalloutHost.Lifecycle.World
import CalloutHost.Messaging.Credentials
import CalloutHost.Messaging.Flow
import CalloutHost.Messaging.Memory
import CalloutHost.Metrics.Collector
import CalloutHost.Nkey
import CalloutHost.Number.Binary64
import CalloutHost.Proofs.Access.Answers
import CalloutHost.Proofs.Access.Authorization
import CalloutHost.Proofs.Access.Decisions
import CalloutHost.Proofs.Access.FirstDecider
import CalloutHost.Proofs.Access.NormalForms
import CalloutHost.Proofs.Access.PinnedAnswers
import CalloutHost.Proofs.Access.PinnedRuns
import CalloutHost.Proofs.Access.Placeholders
import CalloutHost.Proofs.Access.Service
import CalloutHost.Proofs.Access.Signers
import CalloutHost.Proofs.Access.Templates
import CalloutHost.Proofs.Claims.Acceptance
import CalloutHost.Proofs.Claims.Canonical
import CalloutHost.Proofs.Claims.Layouts
import CalloutHost.Proofs.Claims.Tokens
import CalloutHost.Proofs.Dictionaries
import CalloutHost.Proofs.Ed25519.Edwards
import CalloutHost.Proofs.Ed25519.Field
import CalloutHost.Proofs.Ed25519.Points
import CalloutHost.Proofs.Ed25519.Primality
import CalloutHost.Proofs.Encoding.Base32
import CalloutHost.Proofs.Encoding.Base64Url
import CalloutHost.Proofs.Encoding.ByteStrings
import CalloutHost.Proofs.Engine.AuthUsers
import CalloutHost.Proofs.Engine.LogLevels
import CalloutHost.Proofs.Engine.LogStreams
import CalloutHost.Proofs.Engine.Reloads
import CalloutHost.Proofs.Engine.Rendering
import CalloutHost.Proofs.Json.Codecs
import CalloutHost.Proofs.Json.Documents
import CalloutHost.Proofs.Json.Fields
import CalloutHost.Proofs.Json.Numbers
import CalloutHost.Proofs.Json.Records
import CalloutHost.Proofs.Json.Strings
import CalloutHost.Proofs.Json.Unions
import CalloutHost.Proofs.Json.Written
import CalloutHost.Proofs.Keys.Pairs
import CalloutHost.Proofs.Lifecycle.Caretakers
import CalloutHost.Proofs.Lifecycle.ClientCredentials
import CalloutHost.Proofs.Lifecycle.Collectors
import CalloutHost.Proofs.Lifecycle.Credentials
import CalloutHost.Proofs.Lifecycle.Duties
import CalloutHost.Proofs.Lifecycle.EngineChoices
import CalloutHost.Proofs.Lifecycle.Engines
import CalloutHost.Proofs.Lifecycle.Follows
import CalloutHost.Proofs.Lifecycle.HostRuns
import CalloutHost.Proofs.Lifecycle.InvalidReloads
import CalloutHost.Proofs.Lifecycle.LateStops
import CalloutHost.Proofs.Lifecycle.Launch
import CalloutHost.Proofs.Lifecycle.Lookups
import CalloutHost.Proofs.Lifecycle.OwnClients
import CalloutHost.Proofs.Lifecycle.Reach
import CalloutHost.Proofs.Lifecycle.Refusals
import CalloutHost.Proofs.Lifecycle.Rollback
import CalloutHost.Proofs.Lifecycle.Run
import CalloutHost.Proofs.Lifecycle.ServerDuties
import CalloutHost.Proofs.Lifecycle.Servers
import CalloutHost.Proofs.Lifecycle.Services
import CalloutHost.Proofs.Lifecycle.Settling
import CalloutHost.Proofs.Lifecycle.Uniqueness
import CalloutHost.Proofs.Messaging.Republishing
import CalloutHost.Proofs.Messaging.Tasks
import CalloutHost.Proofs.Metrics.Endpoints
import CalloutHost.Proofs.Outcomes
import CalloutHost.Proofs.Settings.Accounts
import CalloutHost.Proofs.Settings.KeyModes
import CalloutHost.Proofs.Settings.Minting
import CalloutHost.Proofs.Settings.Stability
import CalloutHost.Proofs.Settings.TrustedKeys
import CalloutHost.Proofs.Text.Pieces
import CalloutHost.Proofs.Url.Paths
import CalloutHost.Proofs.Url.References
import CalloutHost.Settings.Options
import CalloutHost.Settings.Provision
import CalloutHost.Settings.Report
import CalloutHost.Settings.Validation
import CalloutHost.Text.Quoted
import CalloutHost.Text.Search
import CalloutHost.Text.Split
import CalloutHost.Url.Host
import CalloutHost.Url.Parse
