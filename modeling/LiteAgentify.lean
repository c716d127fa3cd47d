import LiteAgentify.Lib.Run
import LiteAgentify.Lib.Linearizable
import LiteAgentify.Lib.Text
import LiteAgentify.Lib.Threads
import LiteAgentify.Lib.Keyed
import LiteAgentify.Lib.Maps
import LiteAgentify.Lib.Assoc
import LiteAgentify.Lib.Sums
import LiteAgentify.Lib.Lines
import LiteAgentify.Lib.KeySpace
import LiteAgentify.Lib.Table
import LiteAgentify.Lib.Once
import LiteAgentify.Lib.Pages
import LiteAgentify.Lib.Groups
import LiteAgentify.Lib.OrderBy
import LiteAgentify.Lib.Sql
import LiteAgentify.Lib.Mealy
import LiteAgentify.Lib.Multimap
import LiteAgentify.Lib.Machine
import LiteAgentify.Base
import LiteAgentify.Model
import LiteAgentify.Db
import LiteAgentify.Pricing
import LiteAgentify.Account
import LiteAgentify.Account.Users
import LiteAgentify.Quota
import LiteAgentify.Quota.Redis
import LiteAgentify.State
import LiteAgentify.Usage
import LiteAgentify.Reload
import LiteAgentify.Reload.Watcher
import LiteAgentify.Catalog.Store
import LiteAgentify.Catalog.Import
import LiteAgentify.Catalog.Startup
import LiteAgentify.Admin
import LiteAgentify.Admin.Session
import LiteAgentify.Admin.Login
import LiteAgentify.Admin.RedisSession
import LiteAgentify.Admin.SessionRace
import LiteAgentify.Admin.LoginApi
import LiteAgentify.Admin.AccountApi
import LiteAgentify.Admin.CatalogApi
import LiteAgentify.Admin.CatalogThread
import LiteAgentify.Admin.ModelsApi
import LiteAgentify.Admin.ModelsStore
import LiteAgentify.Catalog.Reads
import LiteAgentify.Admin.Lifetime
import LiteAgentify.Quota.Reconcile
import LiteAgentify.Quota.Gate
import LiteAgentify.Quota.RedisCalls
import LiteAgentify.Proxy.Request
import LiteAgentify.Proxy.Record
import LiteAgentify.Usage.Writer
import LiteAgentify.Usage.Query
import LiteAgentify.Usage.Memory
import LiteAgentify.Usage.SqlText
import LiteAgentify.Admin.Backend
import LiteAgentify.Admin.Routes
import LiteAgentify.Admin.Router
import LiteAgentify.Proxy.Router
import LiteAgentify.Proxy.Checked
import LiteAgentify.Proof.Snapshot
import LiteAgentify.Proof.Reload
import LiteAgentify.Proof.Rebuilt
import LiteAgentify.Proof.Watcher
import LiteAgentify.Proof.Refresh
import LiteAgentify.Proof.Reconcile
import LiteAgentify.Proof.Healing
import LiteAgentify.Proof.Gate
import LiteAgentify.Proof.Chunking
import LiteAgentify.Proof.Failover
import LiteAgentify.Proof.Contact
import LiteAgentify.Proof.Discovery
import LiteAgentify.Proof.Accounting
import LiteAgentify.Proof.Forwarding
import LiteAgentify.Proof.Schema
import LiteAgentify.Proof.Catalog
import LiteAgentify.Proof.Listing
import LiteAgentify.Proof.Bootable
import LiteAgentify.Proof.Import
import LiteAgentify.Proof.Startup
import LiteAgentify.Proof.DeadSections
import LiteAgentify.Proof.Billing
import LiteAgentify.Proof.Spend
import LiteAgentify.Proof.Outage
import LiteAgentify.Proof.RedisCalls
import LiteAgentify.Proof.Writer
import LiteAgentify.Proof.Lockout
import LiteAgentify.Proof.Guessing
import LiteAgentify.Proof.AdminServer
import LiteAgentify.Proof.Sessions
import LiteAgentify.Proof.LastAdmin
import LiteAgentify.Proof.RedisSessions
import LiteAgentify.Proof.RedisLockout
import LiteAgentify.Proof.Orphans
import LiteAgentify.Proof.Isolation
import LiteAgentify.Proof.Noninterference
import LiteAgentify.Proof.Authorize
import LiteAgentify.Proof.Charges
import LiteAgentify.Proof.Overflow
import LiteAgentify.Proof.Enumeration
import LiteAgentify.Proof.LastUsed
import LiteAgentify.Proof.HalfWrites
import LiteAgentify.Proof.Migration
import LiteAgentify.Proof.NextStart
import LiteAgentify.Proof.CatalogAlone
import LiteAgentify.Proof.CatalogThread
import LiteAgentify.Proof.CatalogRefresh
import LiteAgentify.Proof.Pagination
import LiteAgentify.Proof.Summary
import LiteAgentify.Proof.WhereClause
import LiteAgentify.Proof.Headers
import LiteAgentify.Proof.Backoff
import LiteAgentify.Proof.Reads
import LiteAgentify.Account.Bootstrap
import LiteAgentify.Proxy.Boot
import LiteAgentify.Proof.Served
import LiteAgentify.Proof.Bootstrap
import LiteAgentify.Proof.Gateway
import LiteAgentify.Proof.Revocation
import LiteAgentify.Proof.Held
import LiteAgentify.Proof.Restart
import LiteAgentify.Proof.Ledger
import LiteAgentify.Proof.Authority
