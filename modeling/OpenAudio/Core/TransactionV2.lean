import OpenAudio.Core.Rewards

/-!
# Transactions of `core.v1beta1`

An envelope of DDEX messages. Its finalization runs inside a savepoint of the block's transaction,
so a failed one leaves nothing behind.
-/

namespace OpenAudio.Core

open Prog

def oapNamespace : String := "OAP"

/-- `getERNOAPMessageSender`: the last proprietary id of the namespace that is an address. -/
def getERNOAPMessageSender (ern : NewReleaseMessage) : String :=
  match ern.messageHeader with
  | none => ""
  | some header =>
    match header.senderIds.reverse.find? fun p =>
        p.namespaceId == oapNamespace && isHexAddress p.id with
    | some p => p.id
    | none => ""

/-- `getERNResourceReference` -/
def ErnResource.reference : ErnResource → String
  | .soundRecording reference _ => reference
  | .image reference => reference
  | .other => ""

/-- `validateUniqueERNReferences`, from the references seen so far. -/
def validateUniqueERNReferences (rt : GoRuntime) (entityType : String) :
    List String → List String → Except GoError Unit
  | _, [] => .ok ()
  | seen, ref :: rest =>
    if ref ∈ seen then
      let quoted := rt.quote ref
      let first := seen.idxOf ref + 1
      let second := seen.length + 1
      .error (.plain
        s!"duplicate ERN {entityType} reference {quoted} at positions {first} and {second}")
    else validateUniqueERNReferences rt entityType (seen ++ [ref]) rest

def validateUniqueERNEntityReferences (rt : GoRuntime) (msg : NewReleaseMessage) :
    Except GoError Unit := do
  validateUniqueERNReferences rt "party" [] msg.partyReferences
  validateUniqueERNReferences rt "resource" [] (msg.resources.map (·.reference))
  validateUniqueERNReferences rt "release" [] msg.releaseReferences
  validateUniqueERNReferences rt "deal" [] msg.deals

namespace Server

variable (s : Server)

/-- A sound recording with a delivery file was uploaded by the sender. -/
def checkResourceUpload (ernSender : String) (r : ErnResource) : Except GoError Unit :=
  match r with
  | .soundRecording _ (some uri) => do
    let upload ← (s.readOne (Db.getCoreUpload s.ext.rows uri)).mapError
      (GoError.wrap s!"file doesn't exist with cid {uri}")
    let uploader := upload.uploaderAddress.val
    refuseIf (uploader ≠ ernSender)
      (.plain s!"sender {ernSender} doesn't match uploader {uploader} for CID {uri}")
  | _ => .ok ()

def validateERNNewMessage (msg : NewReleaseMessage) : Except GoError Unit := do
  refuseIf (s.config.programmableDistributionEnabled = false)
    (.plain "programmable distribution is not enabled in this environment")
  validateUniqueERNEntityReferences s.rt msg
  msg.resources.forM (s.checkResourceUpload (getERNOAPMessageSender msg))

/-- `%s` of a control type without a name. -/
def controlTypeText : MessageControlType → String
  | .unspecified => "MESSAGE_CONTROL_TYPE_UNSPECIFIED"
  | .newMessage => "MESSAGE_CONTROL_TYPE_NEW_MESSAGE"
  | .updatedMessage => "MESSAGE_CONTROL_TYPE_UPDATED_MESSAGE"
  | .takedownMessage => "MESSAGE_CONTROL_TYPE_TAKEDOWN_MESSAGE"
  | .testMessage => "MESSAGE_CONTROL_TYPE_TEST_MESSAGE"
  | .other n => toString n

/-- The validation of one message of an envelope. Updates, takedowns, MEAD and PIE messages pass
unexamined. -/
def validateV2Message (msg : V2Message) : Except GoError Unit :=
  match msg with
  | .ern ern =>
    match ern.messageHeader.bind (·.messageControlType) with
    | none => .error (.plain "ERN message control type is nil")
    | some .newMessage => s.validateERNNewMessage ern
    | some .testMessage => s.validateERNNewMessage ern
    | some .updatedMessage => .ok ()
    | some .takedownMessage => .ok ()
    | some t => .error (.plain ("unsupported ERN message control type: " ++ controlTypeText t))
  | .mead _ => .ok ()
  | .pie _ => .ok ()
  | .empty => .ok ()

def validateV2Transaction (currentHeight : Int) (tx : V2Transaction) : Except GoError Unit :=
  match tx.envelope with
  | none => .error (.plain "transaction envelope is nil")
  | some envelope =>
    match envelope.header with
    | none => .error (.plain "transaction envelope header is nil")
    | some header => do
      refuseIf (header.chainId ≠ s.config.chainID) (.plain "invalid chain id")
      refuseIf (header.expiration < currentHeight) (.plain "transaction expired")
      envelope.messages.forM s.validateV2Message

/-- `isValidV2Transaction`: the expiration is compared with the height another goroutine last put
into the cache. -/
def isValidV2Transaction (tx : Bytes) : Except GoError (V2Transaction × Envelope × EnvelopeHeader) :=
  match s.ext.unmarshalV2 tx with
  | none => .error (.plain "proto: cannot parse invalid wire-format data")
  | some msg =>
    match msg.envelope with
    | none => .error (.plain "transaction envelope header is nil")
    | some envelope =>
      match envelope.header with
      | none => .error (.plain "transaction envelope header is nil")
      | some header => do
        let chainId := header.chainId
        refuseIf (chainId ≠ s.config.chainID) (.plain s!"invalid chain id: {chainId}")
        refuseIf (header.expiration < s.cache.currentHeight) (.plain "transaction expired")
        return (msg, envelope, header)

/-- What passes is an envelope with a header for this chain that has not expired by the cached
height. -/
theorem isValidV2Transaction_eq_ok {tx : Bytes} {r : V2Transaction × Envelope × EnvelopeHeader} :
    s.isValidV2Transaction tx = .ok r ↔
      s.ext.unmarshalV2 tx = some r.1 ∧ r.1.envelope = some r.2.1 ∧ r.2.1.header = some r.2.2 ∧
        r.2.2.chainId = s.config.chainID ∧ ¬ r.2.2.expiration < s.cache.currentHeight := by
  obtain ⟨msg, envelope, header⟩ := r
  unfold isValidV2Transaction
  cases s.ext.unmarshalV2 tx with
  | none => simp
  | some msg' =>
    simp only [Option.some.injEq]
    cases henv : msg'.envelope with
    | none =>
      simp only [reduceCtorEq, false_iff]
      rintro ⟨rfl, h, -⟩
      rw [henv] at h
      cases h
    | some envelope' =>
      cases hhead : envelope'.header with
      | none =>
        simp only [hhead, reduceCtorEq, false_iff]
        rintro ⟨rfl, h, h', -⟩
        rw [henv, Option.some.injEq] at h
        rw [← h, hhead] at h'
        cases h'
      | some header' =>
        simp only [hhead, refuseIf_bind_eq_ok, not_not]
        constructor
        · rintro ⟨hchain, hexp, h⟩
          cases h
          exact ⟨rfl, henv, hhead, hchain, hexp⟩
        · rintro ⟨rfl, h, h', hchain, hexp⟩
          rw [henv, Option.some.injEq] at h
          subst h
          rw [hhead, Option.some.injEq] at h'
          subst h'
          exact ⟨hchain, hexp, rfl⟩

/-! ### Finalization -/

/-- `errors.Join` of a sentinel and an error -/
def joinErrors (sentinel : String) (e : GoError) : GoError := .plain (sentinel ++ "\n" ++ e.message)

/-- Insert the rows of one kind of entity, numbered from one. -/
def insertErnEntities (entity : Db.ErnEntity) (ernAddress txhash : String) (height : Int) :
    List String → Nat → BlockProg Unit
  | [], _ => pure ()
  | address :: rest, i => do
    let kind := entity.text
    BlockProg.context s!"failed to insert {kind} {i}"
      (BlockProg.exec (Db.insertErnEntity entity address ernAddress (i + 1) txhash height))
    insertErnEntities entity ernAddress txhash height rest (i + 1)

def finalizeERNNewMessage (req : FinalizeBlockRequest) (txhash : String) (messageIndex : Int)
    (ern : NewReleaseMessage) (header : ErnHeader) (sender : String) : BlockProg Unit := do
  let bytes ← ofExcept (text "failed to decode txhash: " (s.ext.hexToBytes txhash))
  let address := s.ext.createAddress bytes s.config.chainID req.height messageIndex
  let messageID := if header.messageId ≠ "" then header.messageId else s!"{txhash}:{messageIndex}"
  let ernAddress := address ("ern:" ++ messageID)
  let parties := ern.partyReferences.map fun r => address ("party:" ++ r)
  let resources := ern.resources.map fun r => address ("resource:" ++ r.reference)
  let releases := ern.releaseReferences.map fun r => address ("release:" ++ r)
  let deals := ern.deals.map fun d => address ("deal:" ++ d)
  let ack := s.ext.marshal (.newReleaseMessageAck ernAddress parties resources releases deals)
  BlockProg.context "failed to insert ERN"
    (BlockProg.exec (Db.insertDdexMessage .ern ernAddress txhash messageIndex sender
      header.messageControlType ern.raw ack req.height))
  insertErnEntities .party ernAddress txhash req.height parties 0
  insertErnEntities .resource ernAddress txhash req.height resources 0
  insertErnEntities .release ernAddress txhash req.height releases 0
  insertErnEntities .deal ernAddress txhash req.height deals 0

/-- The finalization of a new ERN message: it is validated again first. -/
def finalizeNewERN (req : FinalizeBlockRequest) (txhash : String) (messageIndex : Int)
    (ern : NewReleaseMessage) (header : ErnHeader) (sender : String) : BlockProg Unit :=
  match s.validateERNNewMessage ern with
  | .error e => fail (joinErrors "ERN message validation failed" e)
  | .ok () =>
    mapError (joinErrors "ERN message finalization failed")
      (s.finalizeERNNewMessage req txhash messageIndex ern header sender)

/-- `finalizeERN`. The code reads the header of the message without a check; a message without one
never passes validation. -/
def finalizeERN (req : FinalizeBlockRequest) (txhash : String) (messageIndex : Int)
    (ern : NewReleaseMessage) (sender : String) : BlockProg Unit :=
  let at_ := s!"tx: {txhash}, message index: {messageIndex}, "
  match ern.messageHeader with
  | none => fail (.plain "invalid memory address or nil pointer dereference")
  | some header =>
    match header.messageControlType with
    | none => fail (.plain (at_ ++ "ERN message control type is nil"))
    | some .newMessage => s.finalizeNewERN req txhash messageIndex ern header sender
    | some .testMessage => s.finalizeNewERN req txhash messageIndex ern header sender
    | some .updatedMessage => pure ()
    | some .takedownMessage => pure ()
    | some .unspecified => fail (.plain (at_ ++ "ERN message control type is unspecified"))
    | some t =>
      fail (.plain (at_ ++ "unsupported ERN message control type: " ++ controlTypeText t))

/-- `finalizeMEAD` and `finalizePIE`, which store the message under its place on the chain. -/
def finalizeDdex (table : Db.DdexTable) (name : String) (ack : String → ProtoMessage)
    (req : FinalizeBlockRequest) (txhash : String) (messageIndex : Int) (raw : Bytes)
    (sender : String) : BlockProg Unit :=
  mapError (joinErrors (name ++ " message finalization failed")) do
    let bytes ← ofExcept (text "invalid txhash: " (s.ext.hexToBytes txhash))
    let address := s.ext.createAddress bytes s.config.chainID req.height messageIndex ""
    BlockProg.context ("failed to insert " ++ name)
      (BlockProg.exec (Db.insertDdexMessage table address txhash messageIndex sender none raw
        (s.ext.marshal (ack address)) req.height))

def finalizeMEAD := s.finalizeDdex .mead "MEAD" .meadMessageAck

def finalizePIE := s.finalizeDdex .pie "PIE" .pieMessageAck

/-- The messages of an envelope, from an index on. -/
def finalizeV2Messages (req : FinalizeBlockRequest) (txhash sender : String) :
    List V2Message → Int → BlockProg Unit
  | [], _ => pure ()
  | msg :: rest, i => do
    match msg with
    | .ern ern =>
      BlockProg.context "failed to finalize ERN message" (s.finalizeERN req txhash i ern sender)
    | .mead raw =>
      BlockProg.context "failed to finalize MEAD message" (s.finalizeMEAD req txhash i raw sender)
    | .pie raw =>
      BlockProg.context "failed to finalize PIE message" (s.finalizePIE req txhash i raw sender)
    | .empty => pure ()
    finalizeV2Messages req txhash sender rest (i + 1)

def finalizeV2Transaction (req : FinalizeBlockRequest) (envelope : Envelope)
    (header : EnvelopeHeader) (txhash : String) : BlockProg Unit := do
  let chainId := header.chainId
  rejectIf (chainId ≠ s.config.chainID) (.plain s!"invalid chain id: {chainId}")
  rejectIf (header.expiration < req.height) (.plain "transaction expired")
  s.finalizeV2Messages req txhash header.sender envelope.messages 0

def withBlockSavepoint (p : BlockProg Unit) : BlockProg Unit :=
  Txn.savepoint (fun e => GoError.wrap "begin block savepoint" (.store e))
    (fun e => GoError.wrap "commit block savepoint" (.store e)) p

end Server

end OpenAudio.Core
