import BlockLattice.Account
import BlockLattice.Account.Blueprints
import BlockLattice.Amount
import BlockLattice.Amount.Text
import BlockLattice.Blake2b
import BlockLattice.Block
import BlockLattice.Blueprint
import BlockLattice.Bytes
import BlockLattice.Bytes.Hex
import BlockLattice.Chain
import BlockLattice.Config
import BlockLattice.Config.Document
import BlockLattice.Decimal.Shortest
import BlockLattice.Delegation
import BlockLattice.Ed25519.Curve
import BlockLattice.Ed25519.Sha512
import BlockLattice.Ed25519.Signing
import BlockLattice.Election
import BlockLattice.Identifier
import BlockLattice.Inspect
import BlockLattice.Json.Block
import BlockLattice.Json.Outcome
import BlockLattice.Json.Params
import BlockLattice.Json.Reader
import BlockLattice.Json.Record
import BlockLattice.Json.Snapshot
import BlockLattice.Json.Types
import BlockLattice.Json.Value
import BlockLattice.Json.Writer
import BlockLattice.Keys
import BlockLattice.Ledger.Append
import BlockLattice.Ledger.Basic
import BlockLattice.Ledger.Check
import BlockLattice.Ledger.Directory
import BlockLattice.Ledger.Error
import BlockLattice.Ledger.Genesis
import BlockLattice.Ledger.Query
import BlockLattice.LogFormat
import BlockLattice.Metrics
import BlockLattice.Node.Basic
import BlockLattice.Node.Bootstrap
import BlockLattice.Node.Error
import BlockLattice.Node.Forging
import BlockLattice.Node.Operations
import BlockLattice.Node.Payout
import BlockLattice.Node.Process
import BlockLattice.Outcome
import BlockLattice.Params
import BlockLattice.Payout
import BlockLattice.Queue
import BlockLattice.Round
import BlockLattice.Share
import BlockLattice.Snapshot
import BlockLattice.Snapshot.Packed
import BlockLattice.Text.Blank
import BlockLattice.Text.CaseTable
import BlockLattice.Text.Digits
import BlockLattice.Text.Lowercase
import BlockLattice.Text.Quoted
import BlockLattice.Text.Unprintable
import BlockLattice.Time
import BlockLattice.Toml.Reader
import BlockLattice.Toml.Value
import BlockLattice.Toml.Writer
import BlockLattice.Vote
import BlockLattice.Weights
import BlockLattice.Proofs.ChainStructure
import BlockLattice.Proofs.LedgerCalls
import BlockLattice.Proofs.LedgerStructure
import BlockLattice.Proofs.Forging
import BlockLattice.Proofs.NodeRuns
import BlockLattice.Proofs.LedgerDirectory
import BlockLattice.Proofs.LedgerUndo
import BlockLattice.Proofs.Serving
import BlockLattice.Proofs.NodeLedger
import BlockLattice.Proofs.Refusals
import BlockLattice.Proofs.Checking
import BlockLattice.Proofs.Portions
import BlockLattice.Proofs.Plans
import BlockLattice.Proofs.Paying
import BlockLattice.Proofs.BalanceSteps
import BlockLattice.Proofs.DoubleEntry
import BlockLattice.Proofs.Shares
import BlockLattice.Proofs.Balances
import BlockLattice.Proofs.Enduring
import BlockLattice.Proofs.Forgers
import BlockLattice.Proofs.NoTrace
import BlockLattice.Proofs.Digests
import BlockLattice.Proofs.Placement
import BlockLattice.Proofs.Lasting
import BlockLattice.Proofs.AccountHistory
import BlockLattice.Proofs.Turns
import BlockLattice.Proofs.Signatures
import BlockLattice.Proofs.Landing
import BlockLattice.Proofs.CheckedRequests
import BlockLattice.Proofs.HalfTransfers
import BlockLattice.Proofs.VoteLimit
import BlockLattice.Proofs.Acceptance
import BlockLattice.Proofs.Delegates
import BlockLattice.Proofs.Tokens
import BlockLattice.Proofs.Elections
import BlockLattice.Proofs.LedgerBlocks
import BlockLattice.Proofs.Conservation
import BlockLattice.Proofs.Ranking
import BlockLattice.Proofs.Rotation
import BlockLattice.Proofs.History
import BlockLattice.Proofs.Payouts
import BlockLattice.Proofs.Independence
import BlockLattice.Proofs.Rollbacks
import BlockLattice.Proofs.Commitment
import BlockLattice.Proofs.Attestation
import BlockLattice.Proofs.Leadership
import BlockLattice.Proofs.Counters
import BlockLattice.Proofs.Gauges
import BlockLattice.Proofs.SnapshotDigests
import BlockLattice.Proofs.VotePlans
import BlockLattice.Proofs.Duplicates
import BlockLattice.Proofs.Bystanders
import BlockLattice.Proofs.Shortages
import BlockLattice.Proofs.DelegateNames
import BlockLattice.Proofs.Newcomers
import BlockLattice.Proofs.Bootstrapping
import BlockLattice.Proofs.AmountTexts
import BlockLattice.Proofs.PackedSnapshots
import BlockLattice.Proofs.JsonTexts
import BlockLattice.Proofs.JsonBlocks
import BlockLattice.Proofs.AccountNames
import BlockLattice.Proofs.LetterCase
import BlockLattice.Proofs.Lookups
