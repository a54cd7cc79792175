import BlockLattice.Ledger.Query

-- Counters of a node's work and gauges of its ledger. The gauges are copies,
-- true as of the last time they were taken.
namespace BlockLattice

structure Metrics where
  requestsProcessed : Nat
  requestsRejected : Nat
  blocksForged : Nat
  forgeFailures : Nat
  payoutCredits : Nat
  payoutWarnings : Nat
  roundsStarted : Nat
  blockCount : Nat
  accountCount : Nat
  delegateCount : Nat
deriving DecidableEq, Repr

namespace Metrics

def empty : Metrics := ⟨0, 0, 0, 0, 0, 0, 0, 0, 0, 0⟩

def observe (m : Metrics) (s : Ledger.Summary) : Metrics :=
  { m with blockCount := s.blocks, accountCount := s.opened, delegateCount := s.delegates }

def countRequest (m : Metrics) (accepted : Bool) : Metrics :=
  if accepted then { m with requestsProcessed := m.requestsProcessed + 1 }
  else { m with requestsRejected := m.requestsRejected + 1 }

def countForged (m : Metrics) : Metrics := { m with blocksForged := m.blocksForged + 1 }
def countFailure (m : Metrics) : Metrics := { m with forgeFailures := m.forgeFailures + 1 }
def countCredit (m : Metrics) : Metrics := { m with payoutCredits := m.payoutCredits + 1 }
def countWarning (m : Metrics) : Metrics := { m with payoutWarnings := m.payoutWarnings + 1 }
def countRound (m : Metrics) : Metrics := { m with roundsStarted := m.roundsStarted + 1 }

def requestsTimed (m : Metrics) : Nat := m.requestsProcessed + m.requestsRejected

def family (name help kind : String) (samples : List String) : List String :=
  ["# HELP vigil_" ++ name ++ " " ++ help, "# TYPE vigil_" ++ name ++ " " ++ kind]
    ++ samples.map ("vigil_" ++ name ++ ·)

def counter (name help : String) (n : Nat) : List String := family name help "counter" [" " ++ toString n]

def gauge (name help : String) (n : Nat) : List String := family name help "gauge" [" " ++ toString n]

def lines (m : Metrics) : List String :=
  gauge "account_count" "Opened accounts" m.accountCount
    ++ gauge "block_count" "Blocks in the ledger" m.blockCount
    ++ counter "blocks_forged_total" "Blocks forged and appended" m.blocksForged
    ++ gauge "delegate_count" "Registered delegates" m.delegateCount
    ++ counter "forge_failures_total" "Forge attempts that failed" m.forgeFailures
    ++ counter "payout_credits_total" "Reward credits applied" m.payoutCredits
    ++ counter "payout_warnings_total" "Reward credits that failed" m.payoutWarnings
    ++ family "process_time_ms" "Request processing time in milliseconds" "histogram"
      ["_bucket\x7ble=\"+Inf\"\x7d " ++ toString m.requestsTimed, "_count " ++ toString m.requestsTimed]
    ++ counter "requests_processed_total" "Requests processed successfully" m.requestsProcessed
    ++ counter "requests_rejected_total" "Requests rejected with an error" m.requestsRejected
    ++ counter "rounds_started_total" "Forging rounds started" m.roundsStarted

end Metrics
end BlockLattice
