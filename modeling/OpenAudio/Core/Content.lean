import OpenAudio.Core.ManageEntity

/-!
# Plays, uploads and operations of storage nodes

Transactions a registered node vouches for: the plays it reports, the files it received and for
whom, and the operations on its storage tables.
-/

namespace OpenAudio.Core

open Prog

/-- `fmt.Errorf` behind `txRejectedf` -/
def txRejected (reason : String) : GoError := .txRejection reason

/-! ### Plays -/

def maxPlaysPerTransaction : Nat := 1000

/-- `crypto.SignatureLength` -/
def signatureLength : Nat := 65

def validatePlayTransactionShape (stx : SignedTransaction) (plays : TrackPlays) :
    Except GoError Unit := do
  let count := plays.plays.length
  refuseIf (count = 0) (txRejected "play tx has no plays")
  refuseIf (maxPlaysPerTransaction < count)
    (txRejected s!"play tx has {count} plays, max {maxPlaysPerTransaction}")
  let first := plays.plays.findIdx fun play => play.signature == ""
  refuseIf (first < count) (txRejected s!"play {first} has no signature")
  refuseIf (stx.signature = "") (txRejected "play tx has no signature")

def recoverPlaysSigner (ext : Externals) (signature : String) (plays : TrackPlays) :
    Except GoError String :=
  match ext.hexToBytes signature with
  | .error e => .error (txRejected ("play tx signature is not hex: " ++ e))
  | .ok sig => do
    let length := sig.length
    refuseIf (length ≠ signatureLength)
      (txRejected s!"play tx signature is {length} bytes, want {signatureLength}")
    match ext.sigToPub (ext.textHash (ext.keccak256 (ext.marshal (.trackPlays plays)))) sig with
    | .error e => .error (txRejected ("recover play tx signer: " ++ e))
    | .ok pub => .ok (ext.checksumHex (ext.pubkeyToAddress pub))

namespace Server

variable (s : Server)

def isValidPlayTransaction (stx : SignedTransaction) (plays : TrackPlays) :
    Except GoError Unit := do
  validatePlayTransactionShape stx plays
  let signer ← recoverPlaysSigner s.ext stx.signature plays
  let registered ← (s.read (Db.isRegisteredNodeEthAddress s.ext.sqlLower signer)).mapError
    (GoError.wrap "look up play tx signer")
  refuseIf (registered = false) (txRejected s!"play tx signer {signer} is not a registered node")

/-! ### Content attestations -/

def isValidContentAttestation (ca : ContentAttestation) : Except GoError Unit := do
  refuseIf (ca.userId = 0) (txRejected "no user id provided")
  refuseIf (ca.cids = []) (txRejected "no cids provided")
  refuseIf ("" ∈ ca.cids) (txRejected "empty cid provided")
  let validatorAddress := ca.validatorAddress
  refuseIf (validatorAddress = "") (txRejected "no validator address provided")
  refuseIf (ca.validatorSignature = "") (txRejected "no validator signature provided")
  let (_, recovered) ← (s.ext.ethRecover ca.validatorSignature
    (s.ext.marshal (.contentAttestationPayload ca.userId ca.cids))).mapError
      fun e => txRejected ("could not recover attestation signer: " ++ e)
  refuseIf (s.rt.equalFold recovered validatorAddress = false)
    (txRejected (s!"validator address and attestation signer mismatch: expected " ++
      s!"{validatorAddress}, got {recovered}"))
  let registered ← (s.read (Db.isRegisteredNodeEthAddress s.ext.sqlLower
    validatorAddress)).mapError (GoError.wrap s!"could not look up validator {validatorAddress}")
  refuseIf (registered = false)
    (txRejected s!"validator {validatorAddress} is not a registered node")

def projectContentAttestationCids (ca : ContentAttestation) (txHash : String) :
    Prog (Txn Db) AuthError Unit := do
  rejectIf (ca.userId = 0) (.validation "content attestation has no user id")
  forEach ca.cids fun cid =>
    if cid = "" then pure () else AuthStore.insertCid cid ca.userId txHash

def finalizeContentAttestation (ca : ContentAttestation) (txHash : String) (blockHeight : Int) :
    BlockProg Unit :=
  if (s.rules blockHeight).contentAuthEnforced = false then
    fail (.plain "content attestation before content auth is active")
  else match s.isValidContentAttestation ca with
    | .error e => fail e
    | .ok () =>
      BlockProg.context "could not project content attestation cids"
        ((projectContentAttestationCids ca txHash).mapError fun e => match e with
          | .validation msg => .plain msg
          | .store e => .store e)

/-! ### File uploads -/

def isValidFileUpload (fu : FileUpload) : Except GoError Unit := do
  refuseIf (s.config.programmableDistributionEnabled = false)
    (.plain "programmable distribution is not enabled in this environment")
  refuseIf (fu.uploadSignature = "") (.plain "no signature in file upload")
  refuseIf (fu.uploaderAddress = "") (.plain "not uploader address")
  refuseIf (fu.cid = "") (.plain "no cid provided")
  let (_, address) ← text "could not recover eth key: "
    (s.ext.ethRecover fu.uploadSignature (s.ext.marshal (.uploadSignature fu.cid)))
  refuseIf (address ≠ fu.uploaderAddress) (.plain "uploader and signer mismatch")
  refuseIf (fu.transcodedCid = "") (.plain "no transcoded cid provided")
  refuseIf (fu.validatorSignature = "") (.plain "no validator signature provided")
  let validatorAddress := fu.validatorAddress
  refuseIf (validatorAddress = "") (.plain "no validator address provided")
  let (_, recovered) ← text "could not recover validator eth key: "
    (s.ext.ethRecover fu.validatorSignature (s.ext.marshal (.uploadSignature fu.transcodedCid)))
  refuseIf (s.rt.equalFold recovered validatorAddress = false)
    (.plain s!"validator address and signer mismatch: expected {validatorAddress}, got {recovered}")
  refuseIf ((s.committed.getAllRegisteredNodes.any fun v =>
      s.rt.equalFold v.ethAddress.val validatorAddress) = false)
    (.plain s!"validator {validatorAddress} is not a registered content/storage node")

def finalizeFileUpload (fu : FileUpload) (txHash : String) (blockHeight : Int) : BlockProg Unit :=
  match s.isValidFileUpload fu with
  | .error e => fail e
  | .ok () =>
    BlockProg.context "could not store file upload tx"
      (BlockProg.exec (Db.insertFileUpload fu.uploaderAddress fu.cid fu.transcodedCid fu.uploadId
        fu.uploadSignature fu.validatorAddress fu.validatorSignature txHash blockHeight))

/-! ### Mediorum operations -/

/-- `mediorumTableTypes`: the tables an operation may name. -/
def mediorumTables : List String :=
  ["uploads", "storage_and_db_sizes", "qm_audio_analyses", "audio_previews"]

def validatePayload (op : MediorumOperation) : Except GoError Unit := do
  refuseIf (op.action ∉ ["create", "update", "delete"])
    (.plain ("unknown mediorum operation action " ++ s.rt.quote op.action))
  let table := op.table
  refuseIf (table = "") (.plain "mediorum operation missing table")
  refuseIf (table ∉ mediorumTables) (.plain s!"no type registered for {table}")
  refuseIf (op.data = []) (.plain "mediorum operation missing data")
  text s!"invalid mediorum operation data for {table}: " (s.ext.decodeRecords table op.data)

def validateOperation (op : MediorumOperation) : Except GoError Unit := do
  refuseIf (op.ulid = "") (.plain "mediorum operation missing ulid")
  text "invalid mediorum operation ulid: " (s.ext.parseUlid op.ulid)
  refuseIf (op.host = "") (.plain "mediorum operation missing host")
  s.validatePayload op

def removeTrailingSlash (u : String) : String :=
  if u.toList.getLast? = some '/' then String.ofList u.toList.dropLast else u

def isValidMediorumOperationTx (tx : SignedTransaction) (op : MediorumOperation) :
    Except GoError Unit := do
  s.validateOperation op
  refuseIf (tx.signature = "") (.plain "mediorum operation missing signature")
  let (_, signer) ← text "recover mediorum operation signer: "
    (s.ext.ethRecover tx.signature (s.ext.marshal (.mediorumOperation op)))
  let host := op.host
  refuseIf ((s.committed.getAllRegisteredNodesIncludingJailed.any fun node =>
      removeTrailingSlash (s.rt.toLower node.endpoint.val) ==
        removeTrailingSlash (s.rt.toLower host) &&
      s.rt.equalFold node.ethAddress.val signer) = false)
    (.plain s!"mediorum operation signer {signer} is not registered for host {host}")

/-- `finalizeMediorumOperation`: the operation is applied to storage tables, not to the block. -/
def finalizeMediorumOperation (tx : SignedTransaction) (op : MediorumOperation) :
    BlockProg Unit := ofExcept (s.isValidMediorumOperationTx tx op)

end Server

end OpenAudio.Core
