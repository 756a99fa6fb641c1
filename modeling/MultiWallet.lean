import MultiWallet.Text.Case
import MultiWallet.Text.Hex
import MultiWallet.Json.Writer
import MultiWallet.Json.Reader
import MultiWallet.Json.Fields
import MultiWallet.Json.Generic
import MultiWallet.Time.Rfc3339
import MultiWallet.Decimal.Fixed
import MultiWallet.Amount
import MultiWallet.Catalog.Basic
import MultiWallet.Disk.Replace
import MultiWallet.Catalog.Cache
import MultiWallet.Config
import MultiWallet.Replica.Memory
import MultiWallet.Replica.FileStore
import MultiWallet.Asset.Collection
import MultiWallet.Connection.Settings
import MultiWallet.Engine.Transfer
import MultiWallet.Currency.Registered
import MultiWallet.Engine.EventText
import MultiWallet.State.Basic
import MultiWallet.Wallet.Controller
import MultiWallet.Registry.Queue
import MultiWallet.Main
import MultiWallet.Report.Bench
import MultiWallet.Scripted.Replicas
import MultiWallet.Proofs.Contents
import MultiWallet.Proofs.Outcome
import MultiWallet.Proofs.Enlisting
import MultiWallet.Proofs.Run
import MultiWallet.Proofs.Mirror
import MultiWallet.Proofs.Registering
import MultiWallet.Proofs.Isolation
import MultiWallet.Proofs.Binding
import MultiWallet.Proofs.Sitting
import MultiWallet.Proofs.Reconnection
import MultiWallet.Proofs.ReadBack
import MultiWallet.Proofs.Editing
import MultiWallet.Proofs.Baseline
import MultiWallet.Proofs.Sharing
import MultiWallet.Proofs.Following
import MultiWallet.Proofs.Steady
import MultiWallet.Proofs.Ledger
import MultiWallet.Proofs.Settling
import MultiWallet.Proofs.Sending
import MultiWallet.Proofs.Switching
import MultiWallet.Proofs.Modes
import MultiWallet.Proofs.InstantText
import MultiWallet.Proofs.WorkingCopy
import MultiWallet.Proofs.Replacing
import MultiWallet.Proofs.RecordFile
import MultiWallet.Proofs.TypedRecords
import MultiWallet.Proofs.RecordPaths
import MultiWallet.Proofs.FilesAsMemory
import MultiWallet.Proofs.Session
import MultiWallet.Proofs.Loading
import MultiWallet.Proofs.Agreement
import MultiWallet.Proofs.Refreshing
import MultiWallet.Proofs.Refusing
import MultiWallet.Proofs.Stopping
import MultiWallet.Proofs.Commanding
import MultiWallet.Proofs.Choosing
import MultiWallet.Proofs.Interrupting
import MultiWallet.Proofs.Separation
import MultiWallet.Proofs.Idling
import MultiWallet.Proofs.Deciding
import MultiWallet.Proofs.Migrating
import MultiWallet.Proofs.Announcing
import MultiWallet.Proofs.Adopting
import MultiWallet.Proofs.Requesting
import MultiWallet.Proofs.Moving
import MultiWallet.Proofs.Offering
import MultiWallet.Proofs.Publishing
import MultiWallet.Proofs.Sparing
import MultiWallet.Proofs.Tracking
import MultiWallet.Proofs.Recounting
import MultiWallet.Proofs.AmountText
