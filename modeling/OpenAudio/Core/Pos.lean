import OpenAudio.Core.Server

/-!
# Proof of storage

A block whose hash ends in four zero bits challenges the storage nodes. A prover first commits to
its proof by a signature; once the deadline has passed, anyone may reveal the proof, and the
provers whose signatures match it pass if they are a majority.
-/

namespace OpenAudio.Core

open Prog

def posChallengeDeadline : Int := 2

def blockShouldTriggerNewPoSChallenge (blockHash : Bytes) : Bool :=
  match blockHash.getLast? with
  | some b => b &&& 0x0f == 0
  | none => false

namespace Server

variable (s : Server)

/-- The height is one of a block that triggered a challenge. -/
def checkChallengeHeight (height : Int) : Except GoError Unit := do
  let block ← (s.readOne (Db.getBlock s.ext.rows height)).mapError
    (GoError.wrap s!"failed to get block at height {height}")
  let hash := block.hash.val
  match decodeHex hash with
  | none =>
    .error (.plain (s!"failed to decode blockhash at height {height}: " ++ s.ext.hexError hash))
  | some bytes =>
    refuseIf (blockShouldTriggerNewPoSChallenge bytes = false)
      (.plain s!"block at height {height} with hash '{hash}' should not trigger a storage proof")

/-- `isValidStorageProofTx`, as validation and finalization call it: without enforcing the replica
set, which is local knowledge. -/
def isValidStorageProofTx (tx : SignedTransaction) (sp : StorageProof)
    (currentBlockHeight : Int) : Except GoError Unit := do
  refuseIf (tx.signature = "")
    (.plain ("no signature provided for storage proof tx: " ++ s.ext.formatTx tx))
  let (_, address) ← text "could not recover signer: "
    (s.ext.ethRecover tx.signature (s.ext.marshal (.storageProof sp)))
  let node ← (s.readOne (Db.getRegisteredNodeByEthAddress s.ext.rows address)).mapError
    (GoError.wrap s!"could not get validator for address '{address}'")
  refuseIf (node.jailed = true) (.plain s!"storage proof from jailed validator '{address}'")
  let prover := sp.address
  let comet := node.cometAddress.val
  refuseIf (s.rt.equalFold comet prover = false)
    (.plain s!"proof is for '{prover}' but was signed by '{comet}'")
  let height := sp.height
  refuseIf (height = 0) (.plain s!"invalid height '{height}' for storage proof")
  refuseIf (posChallengeDeadline < wrapInt64 (currentBlockHeight - height))
    (.plain (s!"proof submitted at height '{currentBlockHeight}' for challenge at height " ++
      s!"'{height}' which is past the deadline"))
  s.checkChallengeHeight height

def isValidStorageProofVerificationTx (spv : StorageProofVerification)
    (currentBlockHeight : Int) : Except GoError Unit := do
  let height := spv.height
  refuseIf (height = 0) (.plain s!"invalid height '{height}' for storage proof")
  refuseIf (wrapInt64 (currentBlockHeight - height) ≤ posChallengeDeadline)
    (.plain (s!"proof submitted at height '{currentBlockHeight}' for challenge at height " ++
      s!"'{height}' which is before the deadline"))
  s.checkChallengeHeight height

/-- Store a proof unless one of the prover is there already. -/
def storeStorageProof (sp : StorageProof) : BlockProg Unit := do
  -- any error of the lookup counts as a row
  let existing ← attempt (BlockProg.query (Db.hasStorageProof sp.height sp.address))
  match existing with
  | .ok false =>
    BlockProg.context "could not persist storage proof in db"
      (BlockProg.exec (Db.insertStorageProof sp.height sp.address sp.cid
        (base64Encode sp.proofSignature) sp.proverAddresses))
  | _ => pure ()

def finalizeStorageProof (tx : SignedTransaction) (sp : StorageProof) (blockHeight : Int) :
    BlockProg Unit :=
  match s.isValidStorageProofTx tx sp blockHeight with
  | .error e => fail e
  | .ok () => storeStorageProof sp

/-! ### Verification -/

def proofMatches (proof : Bytes) (address : PgText) (p : StorageProofRow) : BlockProg Bool := do
  let addr := address.val
  let node ← BlockProg.context s!"could not fetch node with address {addr}"
    (BlockProg.query (Db.getRegisteredNodeByCometAddress s.ext.rows addr))
  match node with
  | none => fail (noRows.wrap s!"could not fetch node with address {addr}")
  | some node =>
    rejectIf (node.jailed = true) (.plain s!"prover node at address {addr} is jailed")
    let comet := node.cometAddress.val
    let signature := match p.proofSignature with | some sig => sig.val | none => ""
    match base64Decode signature, base64Decode node.cometPubKey.val with
    | none, _ =>
      fail (.plain (s!"could not decode proof signature node at address {comet}: " ++
        s.ext.base64Error signature))
    | some _, none =>
      fail (.plain (s!"could not decode public key for node at address {comet}: " ++
        s.ext.base64Error node.cometPubKey.val))
    | some sigBytes, some pubKey => pure (s.ext.cometVerify pubKey proof sigBytes)

/-- The provers whose signatures match, and the peers they named, once for each time. -/
def collectConsensus (proof : Bytes) :
    List (PgText × StorageProofRow) → BlockProg (List PgText × List PgText)
  | [] => pure ([], [])
  | (address, p) :: rest => do
    let matched ← s.proofMatches proof address p
    let (nodes, peers) ← collectConsensus proof rest
    if matched then pure (address :: nodes, p.proverAddresses ++ peers) else pure (nodes, peers)

/-- Mark the provers as passed or failed, then the named peers a majority agrees on that sent no
proof as failed. The error of that last insert is ignored. -/
def resolveChallenge (spv : StorageProofVerification) (proofs : List (PgText × StorageProofRow))
    (consensusNodes consensusPeers : List PgText) : BlockProg Unit := do
  let proofStr := encodeHex spv.proof
  let height := spv.height
  forEach proofs fun p =>
    let addr := p.1.val
    BlockProg.context s!"could not update storage proof for prover {addr} at height {height}"
      (BlockProg.exec (Db.updateStorageProof proofStr
        (if p.1 ∈ consensusNodes then .pass else .fail) height addr))
  let missing := consensusPeers.filter fun peer => !proofs.any fun p => p.1 == peer
  forEach missing.dedup fun peer =>
    if proofs.length / 2 < missing.count peer then
      BlockProg.logged (BlockProg.exec (Db.insertFailedStorageProof height peer.val))
    else pure ()

/-- Resolve the challenge of a height by its proofs, if it is still unresolved. -/
def settleChallenge (spv : StorageProofVerification) (proofs : List (PgText × StorageProofRow)) :
    BlockProg Unit :=
  match s.ext.rows.pick proofs with
  | some (_, ⟨_, _, _, _, .unresolved⟩) => do
    let (nodes, peers) ← s.collectConsensus spv.proof proofs
    if proofs.length / 2 < nodes.length then resolveChallenge spv proofs nodes peers else pure ()
  | _ => pure ()

def finalizeStorageProofVerification (spv : StorageProofVerification) (blockHeight : Int) :
    BlockProg Unit :=
  match s.isValidStorageProofVerificationTx spv blockHeight with
  | .error e => fail e
  | .ok () => do
    let proofs ← BlockProg.context "could not fetch storage proofs"
      (BlockProg.query fun db => .ok (Db.getStorageProofs spv.height db))
    s.settleChallenge spv proofs

end Server

end OpenAudio.Core
