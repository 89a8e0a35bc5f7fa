import ChefAccess.Client.Script
import ChefAccess.Server.Resource
import ChefAccess.Session.Basic
import ChefAccess.Text.Redacted
import ChefAccess.Proofs.Base64
import ChefAccess.Proofs.Cache
import ChefAccess.Proofs.Cache.History
import ChefAccess.Proofs.Client.Authentic
import ChefAccess.Proofs.Client.Outcome
import ChefAccess.Proofs.Client.Target
import ChefAccess.Proofs.Http.Host
import ChefAccess.Proofs.InStep
import ChefAccess.Proofs.Key.Inverse
import ChefAccess.Proofs.Key.Octets
import ChefAccess.Proofs.Key.Signature
import ChefAccess.Proofs.Registry.Course
import ChefAccess.Proofs.Registry.Run
import ChefAccess.Proofs.Resolver.Address
import ChefAccess.Proofs.Resolver.Construct
import ChefAccess.Proofs.Resolver.Failure
import ChefAccess.Proofs.Resolver.Fallback
import ChefAccess.Proofs.Resolver.Fresh
import ChefAccess.Proofs.Resolver.InStep
import ChefAccess.Proofs.Resolver.Isolation
import ChefAccess.Proofs.Resolver.KeySpace
import ChefAccess.Proofs.Resolver.Kinds
import ChefAccess.Proofs.Resolver.Ledger
import ChefAccess.Proofs.Resolver.Polling
import ChefAccess.Proofs.Resolver.Repeat
import ChefAccess.Proofs.Resolver.Run
import ChefAccess.Proofs.Resolver.Traffic
import ChefAccess.Proofs.Server.Context
import ChefAccess.Proofs.Service.Address
import ChefAccess.Proofs.Service.Comparison
import ChefAccess.Proofs.Service.Confidential
import ChefAccess.Proofs.Service.EntryPoints
import ChefAccess.Proofs.Service.Faithful
import ChefAccess.Proofs.Service.Ledger
import ChefAccess.Proofs.Service.Lockstep
import ChefAccess.Proofs.Service.Parts
import ChefAccess.Proofs.Service.Restart
import ChefAccess.Proofs.Service.Run
import ChefAccess.Proofs.Service.Stage
import ChefAccess.Proofs.Signing.Headers
import ChefAccess.Proofs.Signing.KeyFree
import ChefAccess.Proofs.Text.Chunk
import ChefAccess.Proofs.Resolver.Shared
import ChefAccess.Proofs.Json.ReadBack
import ChefAccess.Proofs.Text.Utf8
import ChefAccess.Proofs.Dict
import ChefAccess.Proofs.Json.Order
import ChefAccess.Proofs.Json.Record
import ChefAccess.Proofs.Stored
import ChefAccess.Proofs.Client.Entity
import ChefAccess.Proofs.Cache.Eviction
import ChefAccess.Proofs.Backend.Blobs
import ChefAccess.Proofs.Signing.Success
import ChefAccess.Proofs.Time.Calendar
import ChefAccess.Proofs.Time.Timestamp
import ChefAccess.Proofs.Signing.Canonical
import ChefAccess.Proofs.Text.Escape
import ChefAccess.Proofs.Resolver.Material
import ChefAccess.Proofs.Key.Form
import ChefAccess.Proofs.Time.Clock
import ChefAccess.Proofs.Client.Query
import ChefAccess.Proofs.Server.Draft
import ChefAccess.Proofs.Server.Resource
import ChefAccess.Proofs.Settings
import ChefAccess.Proofs.Text.Redacted
import ChefAccess.Proofs.Instance.History
import ChefAccess.Proofs.Configuration.History
import ChefAccess.Proofs.Text.Walk
import ChefAccess.Proofs.Base64.Spelling
