import OpenAudio.Core.Abci.Blocks
import OpenAudio.Core.Abci.Budget
import OpenAudio.Core.Abci.Finalize
import OpenAudio.Core.Abci.Footprint
import OpenAudio.Core.Abci.Locality
import OpenAudio.Core.Abci.Propose
import OpenAudio.Core.Abci.Validate
import OpenAudio.Core.Abci.Wire
import OpenAudio.Core.Addresses
import OpenAudio.Core.Auditor
import OpenAudio.Core.Auth.Agreement
import OpenAudio.Core.Auth.Attested
import OpenAudio.Core.Auth.Claims
import OpenAudio.Core.Auth.Effects
import OpenAudio.Core.Auth.Frame
import OpenAudio.Core.Auth.History
import OpenAudio.Core.Auth.Invariant
import OpenAudio.Core.Auth.Projection
import OpenAudio.Core.Auth.Rejections
import OpenAudio.Core.Auth.Store
import OpenAudio.Core.Auth.Tables
import OpenAudio.Core.BlockReaders
import OpenAudio.Core.BlockStream
import OpenAudio.Core.Config
import OpenAudio.Core.Content
import OpenAudio.Core.Db.Parts
import OpenAudio.Core.Db.Queries
import OpenAudio.Core.Db.Schema
import OpenAudio.Core.Externals
import OpenAudio.Core.ManageEntity
import OpenAudio.Core.Mempool
import OpenAudio.Core.Pos
import OpenAudio.Core.Pos.Provers
import OpenAudio.Core.Pos.Resolution
import OpenAudio.Core.Pos.Windows
import OpenAudio.Core.Registration
import OpenAudio.Core.Rewards
import OpenAudio.Core.Rewards.Attester
import OpenAudio.Core.Rewards.Pools
import OpenAudio.Core.Rewards.Claims
import OpenAudio.Core.Rewards.Migration
import OpenAudio.Core.Rewards.Rotations
import OpenAudio.Core.Rewards.Senders
import OpenAudio.Core.Server
import OpenAudio.Core.StateSync
import OpenAudio.Core.StateSync.Chunks
import OpenAudio.Core.StateSync.Persistence
import OpenAudio.Core.StateSync.Retention
import OpenAudio.Core.StateSync.Snapshots
import OpenAudio.Core.TransactionOrder
import OpenAudio.Core.TransactionV2
import OpenAudio.Core.Types
import OpenAudio.Core.Validators.Attestations
import OpenAudio.Core.Validators.Domain
import OpenAudio.Core.Validators.Keys
import OpenAudio.Core.Validators.Rendezvous
import OpenAudio.Eth.Endpoints
import OpenAudio.Etl.Tracks
import OpenAudio.Etl.Base58
import OpenAudio.Etl.Blocks
import OpenAudio.Etl.Comments
import OpenAudio.Etl.Emails
import OpenAudio.Etl.Entities
import OpenAudio.Etl.EntityManager
import OpenAudio.Etl.Events
import OpenAudio.Etl.Gaps
import OpenAudio.Etl.Reindex
import OpenAudio.Etl.Runs
import OpenAudio.Etl.Social
import OpenAudio.Etl.StorageProofs
import OpenAudio.Etl.Validators
import OpenAudio.Etl.Wallets
import OpenAudio.Lib.Program
import OpenAudio.Genesis.RewardPlan
import OpenAudio.Genesis.VerifyAuth
import OpenAudio.Lib.Encoding
import OpenAudio.Lib.Framing
import OpenAudio.Lib.GoJson
import OpenAudio.Lib.GoText
import OpenAudio.Lib.GoValues
import OpenAudio.Lib.IndexedQueue
import OpenAudio.Lib.Keyset
import OpenAudio.Lib.Postgres
import OpenAudio.Lib.Protobuf
import OpenAudio.Lib.Ranks
import OpenAudio.Lib.ReadSeeker
import OpenAudio.Lib.Retry
import OpenAudio.Lib.StableSort
import OpenAudio.Lib.Table
import OpenAudio.Mediorum.Access
import OpenAudio.Mediorum.AsyncQueue
import OpenAudio.Mediorum.BlobFetch
import OpenAudio.Mediorum.Buckets
import OpenAudio.Mediorum.CoreOps
import OpenAudio.Mediorum.Crudr
import OpenAudio.Mediorum.DataLoss
import OpenAudio.Mediorum.PresenceRows
import OpenAudio.Mediorum.Pulls
import OpenAudio.Mediorum.Repair
import OpenAudio.Mediorum.Replication
import OpenAudio.Mediorum.TaggedStream
import OpenAudio.Mediorum.WaveformFrames
import OpenAudio.Mediorum.WaveformSweeps
import OpenAudio.Mediorum.Waveforms
import OpenAudio.Uptime
