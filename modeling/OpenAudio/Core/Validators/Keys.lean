import OpenAudio.Core.Abci.Blocks
import OpenAudio.Lib.Protobuf

/-!
# The public key of a registered node

Validation recovers the signer of a registration from the bytes of its attestation and compares the
address with the wallet the registration names. Finalization recovers a key again for the row it
inserts, from the bytes of the whole transaction, which nobody signed: the key it stores belongs to
another wallet.
-/

namespace OpenAudio.Core

open Prog

namespace Server

variable (s : Server)

/-! ### What a finalizer does to the rows -/

theorem insertRegisteredNode_eq_ok
    {pubKey endpoint wallet comet cometPubKey ethBlock nodeType spId : String} {db db' : Db} {u : Unit}
    (h : Db.insertRegisteredNode pubKey endpoint wallet comet cometPubKey ethBlock nodeType spId db =
      .ok (u, db')) :
    ∃ row : ValidatorRow, row.ethAddress.val = wallet ∧ row.cometAddress.val = comet ∧
      row.jailed = false ∧ row.pubKey.val = pubKey ∧
      db'.validators = db.validators ++ [row] := by
  unfold Db.insertRegisteredNode at h
  obtain ⟨pubKey', hpubKey, h⟩ := except_bind_eq_ok.mp h
  obtain ⟨endpoint', _, h⟩ := except_bind_eq_ok.mp h
  obtain ⟨wallet', hwallet, h⟩ := except_bind_eq_ok.mp h
  obtain ⟨comet', hcomet, h⟩ := except_bind_eq_ok.mp h
  obtain ⟨cometPubKey', _, h⟩ := except_bind_eq_ok.mp h
  obtain ⟨ethBlock', _, h⟩ := except_bind_eq_ok.mp h
  obtain ⟨nodeType', _, h⟩ := except_bind_eq_ok.mp h
  obtain ⟨spId', _, h⟩ := except_bind_eq_ok.mp h
  cases h
  exact ⟨_, PgText.val_of_ofString hwallet, PgText.val_of_ofString hcomet, rfl,
    PgText.val_of_ofString hpubKey, rfl⟩

/-! ### Two wallets and one consensus key -/

def sharedKey : Bytes := 
  bigEndian 32 0xd75a980182b10ab7d54bfed3c964073a0ee172f3daa62325af021a68f707511a

def sharedAddress : String := "21FE31DFA154A261626BF854046FD2271B7BED4B"

/-- A registration of the key for a wallet, with what its signature recovers to: the wallet's key
over the attestation, and another one over the whole transaction. -/
structure SharedRegistration where
  wallet : String
  endpoint : PgText
  hostname : String
  spId : String
  signature : String
  signatureBytes : Bytes
  signer : Externals.RecordedKey
  txSigner : Externals.RecordedKey
  bodyBytes : Bytes
  attestationDigest : Externals.Digest
  tx : Bytes
  txDigest : Externals.Digest

namespace SharedRegistration

variable (r : SharedRegistration)

def body : ValidatorRegistration where
  delegateWallet := r.wallet
  endpoint := r.endpoint.val
  nodeType := "validator"
  spId := r.spId
  ethBlock := 1
  cometAddress := sharedAddress
  pubKey := sharedKey
  power := 25
  deadline := 1

def attestation : Attestation := { body := some (.validatorRegistration r.body) }

def signed : SignedTransaction :=
  { signature := r.signature, transaction := some (.attestation r.attestation) }

def attestationBytes : Bytes := bigEndian 4 0xc23e9f01 ++ r.bodyBytes

def calls : Externals.Recorded :=
  { sha256 := [(r.attestationBytes, r.attestationDigest), (r.tx, r.txDigest)]
    sigToPub := [((r.attestationDigest.val, r.signatureBytes), r.signer.pubKey),
      ((r.txDigest.val, r.signatureBytes), r.txSigner.pubKey)]
    marshal := [(.attestation r.attestation, r.attestationBytes),
      (.signedTransaction r.signed, r.tx),
      (.attestationBody (.validatorRegistration r.body), r.bodyBytes)]
    unmarshalSigned := [(r.tx, r.signed)]
    parseURL := [(r.endpoint, ⟨"https", r.hostname, false, "", ""⟩)] } ++
  r.signer.calls ++ r.txSigner.calls

end SharedRegistration

def firstTxKey : Externals.RecordedKey where
  pubKey := bigEndian 1 4 ++
    bigEndian 32 0x12ee16fe202611706be72c6aba09f37e2c629c4aeaba95923f96749e92a121fb ++
    bigEndian 32 0x3b713ec97417e078bdbc64e17dda8808332c9abea25227a7e6788712b5071d9a
  digest := Externals.digest 0x12e7b53599045004ba79c3fb25abeb92c96d89c2ca40fc884fea46aa60e28457
  textDigest := Externals.digest 0x978ced5227de1c2247ca0ca1ed638b625d019787222b02667ef16a2f0069b156

def firstRegistration : SharedRegistration where
  wallet := "0x7E5F4552091A69125d5DfCb7b8C2659029395Bdf"
  endpoint := firstNode.endpoint
  hostname := "a.example"
  spId := "1"
  signature := "402ef740e6fbcc28b16a8d0b9d509af5ce92c7e17645876bfd7b3a5b8e20ce5d16" ++
    "0ffebb832acb99f6f842420732af322dedf148e5a0f61e64e3849c2770938601"
  signatureBytes := bigEndian 40 0x402ef740e6fbcc28b16a8d0b9d509af5ce92c7e17645876bfd7b3a5b8e20ce5d160ffebb832acb99 ++
    bigEndian 25 0xf6f842420732af322dedf148e5a0f61e64e3849c2770938601
  signer := firstKey
  txSigner := firstTxKey
  bodyBytes := bigEndian 40 0xa2a3078374535463435353230393141363931323564354466436237623843323635393032393339 ++
    bigEndian 40 0x35426466121168747470733a2f2f612e6578616d706c651a0976616c696461746f72220131280132 ++
    bigEndian 40 0x28323146453331444641313534413236313632364246383534303436464432323731423742454434 ++
    bigEndian 39 0x423a20d75a980182b10ab7d54bfed3c964073a0ee172f3daa62325af021a68f707511a40194801
  attestationDigest :=
    Externals.digest 0x3df1cf4387bf51c03c30eb89361f9c2267299a4b744af64be9e049e73f11ddd1
  tx := bigEndian 40 0xa820134303265663734306536666263633238623136613864306239643530396166356365393263 ++
    bigEndian 40 0x37653137363435383736626664376233613562386532306365356431363066666562623833326163 ++
    bigEndian 40 0x62393966366638343234323037333261663332326465646631343865356130663631653634653338 ++
    bigEndian 40 0x34396332373730393338363031fa3ea301c23e9f010a2a3078374535463435353230393141363931 ++
    bigEndian 40 0x32356435446643623762384332363539303239333935426466121168747470733a2f2f612e657861 ++
    bigEndian 40 0x6d706c651a0976616c696461746f7222013128013228323146453331444641313534413236313632 ++
    bigEndian 40 0x364246383534303436464432323731423742454434423a20d75a980182b10ab7d54bfed3c964073a ++
    bigEndian 20 0xee172f3daa62325af021a68f707511a40194801
  txDigest := Externals.digest 0x75db4554ccbc0d2053607513fb8d4d41a76d6f5a69d9f6cb49246829877eb497

end Server

/-- The signature recovers to the key exactly over the bytes that were signed. -/
def Externals.RecoversExactly (ext : Externals) (signature : String) (signed key : Bytes) : Prop :=
  ∀ data k address, ext.ethRecover signature data = .ok (k, address) →
    (ext.serializePublicKeyHex k = ext.serializePublicKeyHex key ↔ data = signed)

theorem Externals.ethRecover_eq_ok {ext : Externals} {signature address : String}
    {data key : Bytes} (h : ext.ethRecover signature data = .ok (key, address)) :
    ∃ bytes, decodeHex signature = some bytes ∧ ext.sigToPub (ext.sha256 data) bytes = .ok key := by
  unfold Externals.ethRecover at h
  split at h
  · cases h
  · rename_i bytes hbytes
    split at h
    · cases h
    · rename_i k hk
      cases h
      exact ⟨bytes, hbytes, hk⟩

namespace Server

variable {s : Server} {tx : SignedTransaction} {att : Attestation} {vr : ValidatorRegistration}

theorem signer_of_isValid {signers : List String} {height : Int} {u : Unit}
    (h : s.isValidRegisterNodeAttestation tx att vr signers height = .ok u) :
    ∃ key, s.ext.ethRecover tx.signature (s.ext.marshal (.attestation att)) =
      .ok (key, vr.delegateWallet) := by
  unfold isValidRegisterNodeAttestation at h
  obtain ⟨_, _, h⟩ := except_bind_eq_ok.mp h
  obtain ⟨_, h⟩ := refuseIf_bind_eq_ok.mp h
  obtain ⟨⟨key, address⟩, hrecover, h⟩ := except_bind_eq_ok.mp h
  obtain ⟨haddress, _⟩ := refuseIf_bind_eq_ok.mp h
  have hrecover := except_mapError_eq_ok.mp hrecover
  rw [not_not.mp haddress] at hrecover
  exact ⟨key, hrecover⟩

theorem length_validators_of_reregistration {existing : ValidatorRow} {t t' : Txn Db}
    (h : s.finalizeReregistration existing vr t = (.ok (), t')) :
    t'.view.validators.length = t.view.validators.length := by
  unfold finalizeReregistration at h
  split at h
  · obtain ⟨_, hunjail⟩ := BlockProg.exec_context_eq_ok h
    unfold Db.unjailRegisteredNode at hunjail
    rw [PgText.ofString_val] at hunjail
    have hrows := congrArg (fun r => r.2.validators.length) (Except.ok.inj hunjail)
    simpa [Db.setJailed] using hrows.symm
  · cases h
    rfl

/-- The key of the row a registration inserts is the one recovered from the whole transaction. -/
theorem key_of_inserted {t t' : Txn Db} {row : ValidatorRow}
    (h : s.finalizeRegisterNodeAttestation tx vr t = (.ok (), t'))
    (hrow : t'.view.validators = t.view.validators ++ [row]) :
    ∃ key address, s.ext.ethRecover tx.signature (s.ext.marshal (.signedTransaction tx)) =
        .ok (key, address) ∧
      row.pubKey.val = s.ext.serializePublicKeyHex key ∧ row.ethAddress.val = vr.delegateWallet := by
  unfold finalizeRegisterNodeAttestation at h
  cases hrecover : s.ext.ethRecover tx.signature (s.ext.marshal (.signedTransaction tx)) with
  | error e =>
    rw [hrecover] at h
    cases h
  | ok recovered =>
    obtain ⟨key, address⟩ := recovered
    rw [hrecover] at h
    dsimp only at h
    refine ⟨key, address, rfl, ?_⟩
    rcases BlockProg.query_context_cases "error checking registered node"
      (Db.getRegisteredNodeByEthAddress s.ext.rows vr.delegateWallet) t with
      ⟨e, t₁, hread, _⟩ | ⟨existing, _, _, hread⟩
    · rw [bind_of_error hread] at h
      cases h
    · rw [bind_of_ok hread] at h
      cases existing with
      | none =>
        obtain ⟨_, hinsert⟩ := BlockProg.exec_context_eq_ok h
        obtain ⟨row', heth, _, _, hkey, hrows⟩ := insertRegisteredNode_eq_ok hinsert
        have hsame : row = row' := by simpa [hrow] using hrows
        rw [hsame]
        exact ⟨hkey, heth⟩
      | some existing =>
        have hlength := length_validators_of_reregistration h
        rw [hrow, List.length_append] at hlength
        simp at hlength

theorem ne_of_nested {bytes before after : Bytes} (num : Nat) :
    before ++ Protobuf.bytesField num bytes ++ after ≠ bytes := by
  intro h
  have hlength := congrArg List.length h
  simp only [Protobuf.bytesField, List.length_append] at hlength
  have htag := List.length_pos_iff.mpr (Protobuf.appendVarint_ne_nil (8 * num + 2))
  omega

/-- A registration that passes validation and inserts a row stores the key that signed it, the key
of the wallet, exactly if the transaction has the bytes of its attestation. It never has, since it
nests the attestation as its field 1007. -/
theorem storedKey_iff {signers : List String} {height : Int} {t t' : Txn Db} {row : ValidatorRow}
    (hvalid : s.isValidRegisterNodeAttestation tx att vr signers height = .ok ())
    (hfinal : s.finalizeRegisterNodeAttestation tx vr t = (.ok (), t'))
    (hrow : t'.view.validators = t.view.validators ++ [row]) :
    ∃ key, s.ext.ethRecover tx.signature (s.ext.marshal (.attestation att)) =
        .ok (key, row.ethAddress.val) ∧
      (s.ext.RecoversExactly tx.signature (s.ext.marshal (.attestation att)) key →
        (row.pubKey.val = s.ext.serializePublicKeyHex key ↔
          s.ext.marshal (.signedTransaction tx) = s.ext.marshal (.attestation att)) ∧
        ∀ before after, s.ext.marshal (.signedTransaction tx) =
            before ++ Protobuf.bytesField 1007 (s.ext.marshal (.attestation att)) ++ after →
          row.pubKey.val ≠ s.ext.serializePublicKeyHex key) := by
  obtain ⟨key, hsigner⟩ := signer_of_isValid hvalid
  obtain ⟨stored, address, hstored, hkey, heth⟩ := key_of_inserted hfinal hrow
  refine ⟨key, by rw [heth, hsigner], fun hexact => ?_⟩
  have hiff : row.pubKey.val = s.ext.serializePublicKeyHex key ↔
      s.ext.marshal (.signedTransaction tx) = s.ext.marshal (.attestation att) := by
    rw [hkey]
    exact hexact _ stored address hstored
  refine ⟨hiff, fun before after hnested hsame => ?_⟩
  exact ne_of_nested 1007 (hnested.symm.trans (hiff.mp hsame))

/-! ### One registration -/

def soloCalls : Externals.Recorded :=
  firstRegistration.calls ++
    { sha256 := [(sharedKey,
        Externals.digest 0x21fe31dfa154a261626bf854046fd2271b7bed4b6abe45aa58877ef47f9721b9)] }

def soloNode : Server := .devnet soloCalls Db.empty

def soloRun : Except GoError Unit × Txn Db :=
  soloNode.finalizeRegisterNodeAttestation firstRegistration.signed firstRegistration.body
    (Txn.begin Db.empty)

theorem soloRegistration_accepted :
    soloNode.isValidRegisterNodeAttestation firstRegistration.signed firstRegistration.attestation
        firstRegistration.body [] 1 = .ok () ∧ soloRun.1 = .ok () ∧
      soloRun.2.view.validators.map (fun v => (v.pubKey.val, v.ethAddress.val)) =
        [(soloNode.ext.serializePublicKeyHex firstTxKey.pubKey, firstRegistration.wallet)] := by
  decide +kernel

theorem soloRun_inserts : ∃ row t', soloNode.finalizeRegisterNodeAttestation
      firstRegistration.signed firstRegistration.body (Txn.begin Db.empty) = (.ok (), t') ∧
    t'.view.validators = Db.empty.validators ++ [row] ∧
    row.pubKey.val = soloNode.ext.serializePublicKeyHex firstTxKey.pubKey ∧
    row.ethAddress.val = firstRegistration.wallet := by
  obtain ⟨_, hok, hrows⟩ := soloRegistration_accepted
  obtain ⟨row, hrow, hvalues⟩ := List.map_eq_singleton_iff.mp hrows
  rw [Prod.mk.injEq] at hvalues
  have hrun : soloRun = (.ok (), soloRun.2) := eq_mk_of_fst hok
  exact ⟨row, soloRun.2, hrun, hrow, hvalues⟩

/-- The first wallet signs its registration, and the row that is inserted for it holds a key of
another wallet. -/
theorem soloRegistration_stores_other_key :
    soloNode.isValidRegisterNodeAttestation firstRegistration.signed firstRegistration.attestation
        firstRegistration.body [] 1 = .ok () ∧
      ∃ row t', soloNode.finalizeRegisterNodeAttestation firstRegistration.signed
          firstRegistration.body (Txn.begin Db.empty) = (.ok (), t') ∧
        t'.view.validators = Db.empty.validators ++ [row] ∧
        row.ethAddress.val = firstRegistration.wallet ∧
        row.pubKey.val = soloNode.ext.serializePublicKeyHex firstTxKey.pubKey ∧
        row.pubKey.val ≠ soloNode.ext.serializePublicKeyHex firstKey.pubKey ∧
        soloNode.ext.checksumHex (soloNode.ext.pubkeyToAddress firstTxKey.pubKey) ≠
          firstRegistration.wallet := by
  obtain ⟨row, t', hrun, hrow, hkey, hwallet⟩ := soloRun_inserts
  refine ⟨soloRegistration_accepted.1, row, t', hrun, hrow, hwallet, hkey, ?_, by decide +kernel⟩
  rw [hkey]
  decide +kernel

theorem data_of_sha256 {r : Externals.Recorded} {data digest : Bytes}
    (h : r.externals.sha256 data = digest) (hne : digest ≠ List.replicate 32 0) :
    ∃ d, d.val = digest ∧ (data, d) ∈ r.sha256 := by
  dsimp only [Externals.Recorded.externals] at h
  split at h
  · rename_i d hd
    obtain ⟨before, after, heq, _⟩ := List.lookup_eq_some_iff.mp hd
    exact ⟨d, h, by simp [heq]⟩
  · exact absurd h.symm hne

theorem mem_of_sigToPub {r : Externals.Recorded} {hash sig key : Bytes}
    (h : r.externals.sigToPub hash sig = .ok key) : ((hash, sig), key) ∈ r.sigToPub := by
  dsimp only [Externals.Recorded.externals] at h
  cases hlookup : r.sigToPub.lookup (hash, sig) with
  | none =>
    rw [hlookup] at h
    cases h
  | some k =>
    rw [hlookup] at h
    cases h
    obtain ⟨before, after, heq, _⟩ := List.lookup_eq_some_iff.mp hlookup
    simp [heq]

theorem soloNode_recoversExactly : soloNode.ext.RecoversExactly firstRegistration.signature
    (soloNode.ext.marshal (.attestation firstRegistration.attestation)) firstKey.pubKey := by
  intro data k address h
  have hsigned : soloNode.ext.marshal (.attestation firstRegistration.attestation) =
      firstRegistration.attestationBytes := by decide +kernel
  obtain ⟨bytes, _, hkey⟩ := Externals.ethRecover_eq_ok h
  rw [hsigned]
  have hrecorded := mem_of_sigToPub (r := soloCalls) hkey
  have hcalls : soloCalls.sigToPub =
      [((firstRegistration.attestationDigest.val, firstRegistration.signatureBytes),
          firstKey.pubKey),
        ((firstRegistration.txDigest.val, firstRegistration.signatureBytes),
          firstTxKey.pubKey)] := rfl
  rw [hcalls, List.mem_pair, Prod.mk.injEq, Prod.mk.injEq, Prod.mk.injEq, Prod.mk.injEq] at hrecorded
  rcases hrecorded with ⟨⟨hdigest, _⟩, rfl⟩ | ⟨⟨hdigest, _⟩, rfl⟩
  · -- the digest of the attestation has one preimage on record
    obtain ⟨d, hd, hmem⟩ := data_of_sha256 (r := soloCalls) hdigest (by decide +kernel)
    have hpreimages : soloCalls.sha256 =
        [(firstRegistration.attestationBytes, firstRegistration.attestationDigest),
          (firstRegistration.tx, firstRegistration.txDigest), (sharedKey, Externals.digest
            0x21fe31dfa154a261626bf854046fd2271b7bed4b6abe45aa58877ef47f9721b9)] := rfl
    rw [hpreimages, List.mem_cons, List.mem_pair, Prod.mk.injEq, Prod.mk.injEq,
      Prod.mk.injEq] at hmem
    rcases hmem with ⟨rfl, _⟩ | ⟨_, rfl⟩ | ⟨_, rfl⟩
    · simp
    · exact absurd hd (by decide +kernel)
    · exact absurd hd (by decide +kernel)
  · have hother : soloNode.ext.serializePublicKeyHex firstTxKey.pubKey ≠
        soloNode.ext.serializePublicKeyHex firstKey.pubKey := by decide +kernel
    refine iff_of_false hother fun hdata => ?_
    rw [hdata] at hdigest
    revert hdigest
    decide +kernel

/-- The registration is one whose stored key is not the signer's. -/
theorem soloRegistration_storedKey :
    ∃ row t' key, soloNode.finalizeRegisterNodeAttestation firstRegistration.signed
        firstRegistration.body (Txn.begin Db.empty) = (.ok (), t') ∧
      t'.view.validators = Db.empty.validators ++ [row] ∧
      soloNode.ext.ethRecover firstRegistration.signature
        (soloNode.ext.marshal (.attestation firstRegistration.attestation)) =
          .ok (key, row.ethAddress.val) ∧
      row.pubKey.val ≠ soloNode.ext.serializePublicKeyHex key := by
  obtain ⟨row, t', hrun, hrow, _, _⟩ := soloRun_inserts
  obtain ⟨key, hsigner, hstored⟩ := storedKey_iff soloRegistration_accepted.1 hrun hrow
  have hfirst : soloNode.ext.ethRecover firstRegistration.signature
      (soloNode.ext.marshal (.attestation firstRegistration.attestation)) =
        .ok (firstKey.pubKey, firstRegistration.wallet) := by decide +kernel
  have hkey : key = firstKey.pubKey :=
    (Prod.mk.inj (Except.ok.inj (hsigner.symm.trans hfirst))).1
  have hexact := soloNode_recoversExactly
  rw [← hkey] at hexact
  have hnested : soloNode.ext.marshal (.signedTransaction firstRegistration.signed) =
      firstRegistration.tx.take 133 ++ Protobuf.bytesField 1007
        (soloNode.ext.marshal (.attestation firstRegistration.attestation)) ++ [] := by
    decide +kernel
  exact ⟨row, t', key, hrun, hrow, hsigner, (hstored hexact).2 _ _ hnested⟩

end Server

end OpenAudio.Core
