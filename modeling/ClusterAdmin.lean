import ClusterAdmin.Bytes
import ClusterAdmin.Text.Letter
import ClusterAdmin.Text.Basic
import ClusterAdmin.Text.Base64
import ClusterAdmin.Hash.Keyed
import ClusterAdmin.Json.Parser
import ClusterAdmin.Json.Printer
import ClusterAdmin.Json.Record
import ClusterAdmin.Failure
import ClusterAdmin.Credential.Codec
import ClusterAdmin.Principal
import ClusterAdmin.Sasl
import ClusterAdmin.Scram.Client
import ClusterAdmin.Acl.Evaluation
import ClusterAdmin.Cluster
import ClusterAdmin.Connection
import ClusterAdmin.Config.File
import ClusterAdmin.Table
import ClusterAdmin.Target
import ClusterAdmin.Metadata
import ClusterAdmin.Fleet
import ClusterAdmin.Pool
import ClusterAdmin.Pool.Overlap
import ClusterAdmin.Acl.Cache
import ClusterAdmin.Topic
import ClusterAdmin.Backend
import ClusterAdmin.Services
import ClusterAdmin.Services.Access
import ClusterAdmin.Services.Topics
import ClusterAdmin.Services.Flights
import ClusterAdmin.Wire.Client
import ClusterAdmin.Tls.Setup
import ClusterAdmin.Proofs.Tables
import ClusterAdmin.Proofs.Fleets
import ClusterAdmin.Proofs.Custody
import ClusterAdmin.Proofs.Sweeps
import ClusterAdmin.Proofs.Lookups
import ClusterAdmin.Proofs.Moves
import ClusterAdmin.Proofs.Errands
import ClusterAdmin.Proofs.Runs
import ClusterAdmin.Proofs.Conservation
import ClusterAdmin.Proofs.Disposal
import ClusterAdmin.Proofs.Questions
import ClusterAdmin.Proofs.Answers
import ClusterAdmin.Proofs.Remembering
import ClusterAdmin.Proofs.Recollection
import ClusterAdmin.Proofs.Attribution
import ClusterAdmin.Proofs.Batches
import ClusterAdmin.Proofs.Forgetting
import ClusterAdmin.Proofs.Flights
import ClusterAdmin.Proofs.Clearings
import ClusterAdmin.Proofs.Endpoints
import ClusterAdmin.Proofs.Causes
import ClusterAdmin.Proofs.Identifiers
import ClusterAdmin.Proofs.Authorizations
import ClusterAdmin.Proofs.Objects
import ClusterAdmin.Proofs.Decoding
import ClusterAdmin.Proofs.Sorting
import ClusterAdmin.Proofs.Encoding
import ClusterAdmin.Proofs.Spellings
import ClusterAdmin.Proofs.Slots
import ClusterAdmin.Proofs.Turns
import ClusterAdmin.Proofs.Evictions
import ClusterAdmin.Proofs.Schedules
import ClusterAdmin.Proofs.Undisturbed
import ClusterAdmin.Proofs.Exclusion
import ClusterAdmin.Proofs.Exchanges
import ClusterAdmin.Proofs.Servers
import ClusterAdmin.Proofs.Streams
import ClusterAdmin.Proofs.Talks
import ClusterAdmin.Proofs.Logins
import ClusterAdmin.Proofs.Standings
import ClusterAdmin.Proofs.Calls
import ClusterAdmin.Proofs.Synchrony
import ClusterAdmin.Proofs.Admission
import ClusterAdmin.Proofs.Fields
import ClusterAdmin.Proofs.Frames
import ClusterAdmin.Proofs.Contents
import ClusterAdmin.Proofs.Identities
import ClusterAdmin.Proofs.Closing
import ClusterAdmin.Proofs.Renewals
import ClusterAdmin.Proofs.Sessions
import ClusterAdmin.Proofs.Abandonment
import ClusterAdmin.Proofs.Verdicts
import ClusterAdmin.Proofs.Chains
import ClusterAdmin.Proofs.Remnants
import ClusterAdmin.Proofs.Acquisition
import ClusterAdmin.Proofs.Lendings
import ClusterAdmin.Proofs.Reaping
import ClusterAdmin.Proofs.Targets
import ClusterAdmin.Proofs.Descriptions
import ClusterAdmin.Proofs.Segments
import ClusterAdmin.Proofs.Places
import ClusterAdmin.Proofs.Addresses
import ClusterAdmin.Proofs.Wordings
import ClusterAdmin.Proofs.Secrets
import ClusterAdmin.Proofs.Presence
import ClusterAdmin.Proofs.Searches
import ClusterAdmin.Proofs.Mishaps
import ClusterAdmin.Proofs.Assembly
import ClusterAdmin.Proofs.Quotations
import ClusterAdmin.Proofs.Documents
import ClusterAdmin.Proofs.Settings
