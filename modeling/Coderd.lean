import Coderd.Foundation.Effect
import Coderd.Foundation.ByteReader
import Coderd.Foundation.HashMap
import Coderd.Foundation.SetMap
import Coderd.Foundation.Sql
import Coderd.Foundation.Uuid
import Coderd.Foundation.Unwinding
import Coderd.Foundation.Coverage
import Coderd.Foundation.WhereClause
import Coderd.Foundation.Transition
import Coderd.Foundation.Channel
import Coderd.Foundation.Interleaving
import Coderd.Foundation.Base64
import Coderd.CryptoKeys.Rotator
import Coderd.CryptoKeys.Sweep
import Coderd.CryptoKeys.Coverage
import Coderd.CryptoKeys.Script
import Coderd.CryptoKeys.Sequences
import Coderd.Foundation.Ranking
import Coderd.License.Claims
import Coderd.License.Service
import Coderd.License.Merging
import Coderd.CircuitBreaker.Breaker
import Coderd.CircuitBreaker.Timeout
import Coderd.CircuitBreaker.Probes
import Coderd.CircuitBreaker.Invariant
import Coderd.Rbac.Types
import Coderd.Rbac.Roles
import Coderd.Rbac.Authorizer
import Coderd.Rbac.Policy
import Coderd.Rbac.Denial
import Coderd.Rbac.Isolation
import Coderd.Rbac.SqlFilter
import Coderd.Rbac.Pushdown
import Coderd.DbAuthz.Authorized
import Coderd.DbAuthz.Mediation
import Coderd.Auth.ApiKeys
import Coderd.Auth.KeyScopes
import Coderd.Auth.KeyRevocation
import Coderd.Auth.SessionCache
import Coderd.Auth.SessionRevocation
import Coderd.Auth.Middleware
import Coderd.Auth.Issuing
import Coderd.Auth.IssuedKeys
import Coderd.Tailnet.Coordinator
import Coderd.Tailnet.Messaging
import Coderd.Tailnet.Propagation
import Coderd.Tailnet.Presence
import Coderd.Tailnet.Sessions
import Coderd.Tailnet.Structure
import Coderd.Drpc.Wire
import Coderd.Drpc.StreamIsolation
import Coderd.Drpc.Varint
import Coderd.Drpc.RoundTrip
import Coderd.Drpc.Merging
import Coderd.Drpc.ReadPaths
import Coderd.Derp.Frame
import Coderd.Derp.Server
import Coderd.Derp.Sessions
import Coderd.Derp.Watchers
import Coderd.Derp.Forwarders
import Coderd.Derp.Provenance
import Coderd.Pty.Store
import Coderd.Pty.Windows
import Coderd.Pty.Guards
import Coderd.Prebuilds.Reconciler
import Coderd.Prebuilds.HardLimit
import Coderd.Audit.BatchedSink
import Coderd.Provisioner.Jobs
import Coderd.Provisioner.Writers
import Coderd.Provisioner.Finished
import Coderd.Provisioner.Exclusive
import Coderd.Provisioner.Reaping
import Coderd.Provisioner.Assignment
import Coderd.Workspaces.Schema
import Coderd.Workspaces.Autobuild
import Coderd.Workspaces.ActivityBump
import Coderd.Notifications.Messages
import Coderd.Notifications.Dispatcher
import Coderd.Notifications.Terminal
import Coderd.Notifications.Retries
import Coderd.Notifications.Budget
import Coderd.IdpSync.Schema
import Coderd.IdpSync.Organizations
import Coderd.IdpSync.OrganizationConvergence
import Coderd.IdpSync.Groups
import Coderd.IdpSync.GroupOutcome
import Coderd.IdpSync.GroupConvergence
import Coderd.IdpSync.GroupFrame
import Coderd.Foundation.Except
import Coderd.Foundation.Select
import Coderd.Workspaces.Catalog
import Coderd.WorkspaceApps.Requests
import Coderd.WorkspaceApps.Resolution
import Coderd.WorkspaceApps.Consistency
import Coderd.WorkspaceApps.Proxy
import Coderd.Foundation.Calls
import Coderd.Foundation.Register
import Coderd.OAuth2.Schema
import Coderd.OAuth2.Store
import Coderd.OAuth2.Provider
import Coderd.OAuth2.Effects
import Coderd.OAuth2.Footprint
import Coderd.OAuth2.Consent
import Coderd.OAuth2.Exchange
import Coderd.OAuth2.Rotation
import Coderd.OAuth2.Revocation
import Coderd.OAuth2.Orphans
import Coderd.SingleSignOn.Accounts
import Coderd.ExternalAuth.Refreshes
import Coderd.Workspaces.Disclosure
import Coderd.Workspaces.CreationPolicy
import Coderd.Workspaces.OwnTemplate
import Coderd.Workspaces.Extensions
import Coderd.Workspaces.UsageTracker
import Coderd.Replicas.Registered
import Coderd.AgentRpc.OwnRows
import Coderd.IdpSync.RoleConvergence
import Coderd.License.Terms
import Coderd.License.UpToDate
import Coderd.Rbac.Monotonicity
import Coderd.Foundation.Alone
import Coderd.Foundation.Integers
import Coderd.Foundation.Json
import Coderd.AgentRpc.AppHealth
import Coderd.Foundation.Limits
import Coderd.AgentRpc.MetadataLimits
import Coderd.AgentRpc.LogLimit
import Coderd.Foundation.Texts
import Coderd.Foundation.Sha256
import Coderd.Tailnet.ResumeTokens
import Coderd.Workspaces.Numbers
import Coderd.Workspaces.KeptNumbers
import Coderd.ExternalAuth.TokenSets
import Coderd.ExternalAuth.RefreshTokens
import Coderd.Foundation.AsciiCase
import Coderd.Foundation.Trim
import Coderd.Foundation.Separated
import Coderd.Foundation.Calendar
import Coderd.Foundation.Unicode
import Coderd.Foundation.Replace
import Coderd.Foundation.Regex
import Coderd.Foundation.RegexMatches
import Coderd.Rbac.AgentConfinement
import Coderd.Provisioner.TagRouting
import Coderd.Identity.Usernames
import Coderd.Identity.ScimNames
import Coderd.Identity.OidcNames
import Coderd.SingleSignOn.Redirects
import Coderd.OAuth2.ConsentPage
import Coderd.Workspaces.MaxDeadline
import Coderd.Workspaces.FirstDeadline
import Coderd.WorkspaceApps.Names
import Coderd.WorkspaceApps.Splitting
import Coderd.WorkspaceApps.Subdomains
import Coderd.WorkspaceApps.Expressions
import Coderd.WorkspaceApps.Cookies
import Coderd.WorkspaceApps.HostnamePatterns
import Coderd.WorkspaceApps.WildcardHosts
import Coderd.Pty.Scrollback
import Coderd.Derp.FrameCodec
import Coderd.Prebuilds.Convergence
import Coderd.Foundation.Lockstep
import Coderd.CryptoKeys.Secrets
import Coderd.CryptoKeys.Idempotence
import Coderd.Drpc.Serving
import Coderd.Drpc.Replies
import Coderd.Drpc.Conversations
import Coderd.Drpc.Bidi
import Coderd.Foundation.Broadcast
import Coderd.Pubsub.PostgresPubSub
import Coderd.Pubsub.Delivery
import Coderd.Foundation.Leases
import Coderd.Tailnet.CoordinateRpc
import Coderd.Tailnet.CoordinateSessions
import Coderd.Agents.Provider
import Coderd.Auth.Passwords
import Coderd.Auth.PasswordResets
import Coderd.Auth.PasswordSessions
