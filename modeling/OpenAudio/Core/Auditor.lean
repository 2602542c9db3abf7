import OpenAudio.Core.Server

/-!
# The service level audit

Every so many blocks a proposer rolls the counts of proposed blocks up into one transaction, which
each validator rebuilds from its own tallies and compares.
-/

namespace OpenAudio.Core

open Prog

/-- The report of a validator: its tally, or zero when it has none. A later tally of the same
address replaces an earlier one. -/
def nodeReport (tallies : List OpenReport) (v : ValidatorRow) : SlaNodeReport :=
  match tallies.reverse.find? fun r => r.address == v.cometAddress with
  | some r => { address := r.address.val, numBlocksProposed := r.blocksProposed }
  | none => { address := v.cometAddress.val, numBlocksProposed := 0 }

def rollupsMatch (mine proposed : SlaRollup) : Bool :=
  mine.timestamp == proposed.timestamp && mine.blockStart == proposed.blockStart &&
    mine.blockEnd == proposed.blockEnd && mine.reports == proposed.reports

namespace Server

variable (s : Server)

def createRollup (timestamp : Timestamp) (height : Int) : SlaRollup where
  timestamp := timestamp
  blockStart := match Db.getLatestSlaRollup s.ext.rows s.committed with
    | some latest => latest.blockEnd + 1
    | none => 0
  blockEnd := height - 1
  reports := s.committed.getAllRegisteredNodesSorted.map
    (nodeReport s.committed.getInProgressRollupReports)

/-- `shouldProposeNewRollup`: the interval excludes the block at the height itself. -/
def shouldProposeNewRollup (height : Int) : Bool :=
  let previousHeight := match Db.getLatestSlaRollup s.ext.rows s.committed with
    | some latest => latest.blockEnd
    | none => 0
  decide (s.config.slaRollupInterval ≤ height - 1 - previousHeight)

/-- `isValidRollup`. The schedule is checked one height ahead of the one proposers use. -/
def isValidRollup (timestamp : Timestamp) (height : Int) (rollup : SlaRollup) : Bool :=
  if s.shouldProposeNewRollup (height + 1) = false then false
  else if rollup.blockEnd < rollup.blockStart then false
  else rollupsMatch (s.createRollup timestamp height) rollup

end Server

/-- Store a rollup and its reports, which replace the open ones. -/
def storeSlaRollup (rollup : SlaRollup) (txHash : String) : BlockProg Unit := do
  let id ← BlockProg.exec
    (Db.commitSlaRollup rollup.timestamp.micros txHash rollup.blockStart rollup.blockEnd)
  BlockProg.exec Db.clearUncommittedSlaNodeReports
  forEach rollup.reports fun r =>
    BlockProg.exec (Db.commitSlaNodeReport id r.address r.numBlocksProposed)

/-- `finalizeSlaRollup`; a rollup with a timestamp already there is skipped. -/
def finalizeSlaRollup (rollup : SlaRollup) (txHash : String) : BlockProg Unit := do
  let duplicate ← BlockProg.context "failed to check for existing rollup"
    (BlockProg.query fun db => .ok (Db.hasSlaRollupWithTimestamp rollup.timestamp.micros db))
  if duplicate then pure () else storeSlaRollup rollup txHash

end OpenAudio.Core
