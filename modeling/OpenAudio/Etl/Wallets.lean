import OpenAudio.Core.Server
import OpenAudio.Etl.EntityManager
import OpenAudio.Core.Auth.Effects

/-!
# Wallets linked to users

A user links wallets of either chain as associated wallets, and a dashboard wallet may be assigned
to a user. Both take signatures that are embedded in the metadata next to the signature of the
transaction itself. An associated wallet proves itself by a signature over any message; a dashboard
wallet and its user are to sign both, one of them as the signer of the transaction.
-/

namespace OpenAudio.Etl

open OpenAudio.Core

/-! ### Embedded signatures -/

/-- `sigData` -/
structure SigData where
  message : String
  signature : String
deriving DecidableEq, Repr

/-- A text member of an object, empty where there is none. -/
def textMember (members : List (String × Json.Value)) (key : String) : String :=
  match Json.lastMember members key with
  | some (.str s) => s
  | _ => ""

def extractSignature (p : Params) (key : String) : Option SigData :=
  match Json.lastMember p.metadata key with
  | some (.obj members) =>
    let msg := textMember members "message"
    let sig := textMember members "signature"
    if msg = "" ∨ sig = "" then none else some ⟨msg, sig⟩
  | _ => none

/-- The recovery byte of a wallet is 27 or 28, the library's is 0 or 1. -/
def adjustRecoveryByte (sig : Bytes) : Bytes :=
  sig.take 64 ++ (sig.drop 64).map fun v => if 27 ≤ v then v - 27 else v

def recoverETHAddress (ext : Externals) (message signatureHex : String) : Except String String :=
  let hex := trimPrefix signatureHex "0x"
  match decodeHex hex with
  | none => .error ("invalid signature hex: " ++ ext.hexError hex)
  | some sigBytes =>
    if sigBytes.length ≠ 65 then
      let got := sigBytes.length
      .error s!"signature must be 65 bytes, got {got}"
    else match ext.sigToPub (ext.textHash (textBytes message)) (adjustRecoveryByte sigBytes) with
      | .error e => .error ("ecrecover failed: " ++ e)
      | .ok pubKey => .ok (ext.checksumHex (ext.pubkeyToAddress pubKey))

/-- The digits of `base58Decode`. -/
def base58Alphabet : Bytes :=
  textBytes "123456789ABCDEFGHJKLMNPQRSTUVWXYZabcdefghijkmnopqrstuvwxyz"

/-- Multiply the number, its low byte first, by 58 and add the carry. -/
def base58Carry : Nat → Bytes → Bytes × Nat
  | carry, [] => ([], carry)
  | carry, b :: bs =>
    let n := carry + b.toNat * 58
    let (rest, carry) := base58Carry (n / 256) bs
    (UInt8.ofNat (n % 256) :: rest, carry)

/-- One digit more. A carry is below 58, so it takes one byte at most. -/
def base58Push (result : Bytes) (digit : Nat) : Bytes :=
  let (bytes, carry) := base58Carry digit result
  if 0 < carry then bytes ++ [UInt8.ofNat carry] else bytes

def base58Bytes : Bytes → Bytes → Except String Bytes
  | result, [] => .ok result
  | result, c :: cs =>
    match base58Alphabet.findIdx? (· == c) with
    | none => .error ("invalid base58 character: " ++ String.singleton (Char.ofNat c.toNat))
    | some digit => base58Bytes (base58Push result digit) cs

/-- `base58Decode`. The number starts out as one zero byte, which stays where all digits are ones. -/
def base58Decode (s : String) : Except String Bytes := do
  let bytes ← base58Bytes [0] (textBytes s)
  let zeros := (textBytes s).takeWhile (· == 49)
  return (bytes ++ zeros.map fun _ => 0).reverse

def ed25519PublicKeySize : Nat := 32

def ed25519SignatureSize : Nat := 64

def solSignatureBytes (signature : String) : Except String Bytes :=
  match base64Decode signature with
  | some bytes => .ok bytes
  | none => (base58Decode signature).mapError ("invalid signature encoding: " ++ ·)

def verifySolSignature (ext : Externals) (message signature wallet : String) :
    Except String Unit := do
  let pubKey ← (base58Decode wallet).mapError ("invalid solana wallet address: " ++ ·)
  let size := pubKey.length
  refuseIf (size ≠ ed25519PublicKeySize) s!"invalid solana public key length: {size}"
  let sig ← solSignatureBytes signature
  let length := sig.length
  refuseIf (length ≠ ed25519SignatureSize) s!"invalid signature length: {length}"
  refuseIf (ext.ed25519Verify pubKey (textBytes message) sig = false)
    "signature verification failed"

/-! ### Tables -/

/-- `associated_wallets` -/
structure AssociatedWalletRow where
  userId : Int4
  wallet : PgText
  chain : PgText
  isCurrent : Bool
  isDelete : Bool
deriving DecidableEq

/-- `dashboard_wallet_users`, under wallet. -/
structure DashboardWalletRow where
  userId : Int4
  isDelete : Bool
deriving DecidableEq

/-- The tables of linked wallets, over those the signer is checked against. -/
structure WalletDb where
  base : EtlDb
  associatedWallets : List AssociatedWalletRow
  dashboardWalletUsers : Table PgText DashboardWalletRow

/-! ### Associated wallets -/

def canonicalizeWallet (rt : GoRuntime) (wallet chain : String) : String :=
  if chain = "eth" ∨ trimPrefix wallet "0x" ≠ wallet ∨ trimPrefix wallet "0X" ≠ wallet then
    rt.toLower wallet
  else wallet

def validateAssociatedWalletShape (wallet chain : String) : Except EtlError Unit := do
  invalidIf (wallet = "") "wallet address is required"
  invalidIf (chain = "") "chain is required"
  invalidIf (chain ≠ "eth" ∧ chain ≠ "sol") s!"chain must be eth or sol, got {chain}"

section Create

variable (ext : Externals) (db : WalletDb) (p : Params)

def provesWallet (sig : SigData) (wallet chain : String) : Except EtlError Unit :=
  if chain = "eth" then
    match recoverETHAddress ext sig.message sig.signature with
    | .error e => .error (.validation ("invalid wallet_signature: " ++ e))
    | .ok recovered => invalidIf (ext.rt.equalFold recovered wallet = false)
        s!"wallet_signature was not signed by wallet {wallet}"
  else if chain = "sol" then
    (verifySolSignature ext sig.message sig.signature wallet).mapError fun e =>
      .validation ("invalid sol wallet_signature: " ++ e)
  else .ok ()

def verifyAssociatedWalletSignature (wallet chain : String) : Except EtlError Unit :=
  match extractSignature p "wallet_signature" with
  | none => .error (.validation "wallet_signature is required")
  | some sig => provesWallet ext sig wallet chain

def validateAssociatedWalletCreate (wallet chain : String) : Except EtlError Unit := do
  validateSigner ext.rt db.base p
  validateAssociatedWalletShape wallet chain
  verifyAssociatedWalletSignature ext p wallet chain

/-- A row that a new link supersedes: another user loses the wallet, the same user's row is only no
longer current. -/
def AssociatedWalletRow.supersede (id : Int4) (wallet chain : PgText) (r : AssociatedWalletRow) :
    AssociatedWalletRow :=
  if r.wallet = wallet ∧ r.chain = chain ∧ r.isCurrent = true then
    if r.userId = id then { r with isCurrent := false }
    else { r with isCurrent := false, isDelete := true }
  else r

def insertAssociatedWallet (wallet chain : String) : Except EtlError WalletDb := do
  let w ← bindText wallet
  let c ← bindText chain
  let id ← Int4.ofInt p.userId
  return { db with associatedWallets :=
    db.associatedWallets.map (AssociatedWalletRow.supersede id w c) ++ [⟨id, w, c, true, false⟩] }

/-- The wallet of a transaction as it is stored. -/
def linkedWallet (rt : GoRuntime) (p : Params) : String :=
  canonicalizeWallet rt (p.metadataString "wallet") (p.metadataString "chain")

def associatedWalletCreate : Except EtlError WalletDb := do
  let chain := p.metadataString "chain"
  let wallet := linkedWallet ext.rt p
  validateAssociatedWalletCreate ext db p wallet chain
  insertAssociatedWallet db p wallet chain

end Create

/-! ### Creates in sequence -/

/-- What happens to the tables: a create, or anything else the indexer does. -/
inductive WalletEvent where
  | create (p : Params)
  | other (change : WalletDb → WalletDb)

/-- The creates that are accepted, in order. A refused one leaves the tables alone. -/
def acceptedCreates (ext : Externals) : WalletDb → List WalletEvent → List Params
  | _, [] => []
  | db, .other change :: events => acceptedCreates ext (change db) events
  | db, .create p :: events =>
    match associatedWalletCreate ext db p with
    | .ok db' => p :: acceptedCreates ext db' events
    | .error _ => acceptedCreates ext db events

/-- No message that one user's transaction proves a wallet with proves it for another user. -/
def ProofsUnshared (rt : GoRuntime) (creates : List Params) : Prop :=
  ∀ p ∈ creates, ∀ q ∈ creates, p.userId ≠ q.userId → linkedWallet rt p = linkedWallet rt q →
    ∀ s t, extractSignature p "wallet_signature" = some s →
      extractSignature q "wallet_signature" = some t → s.message ≠ t.message

/-- The creates that stand in a sequence, each with the tables it meets. -/
def attempts (ext : Externals) : WalletDb → List WalletEvent → List (WalletDb × Params)
  | _, [] => []
  | db, .other change :: events => attempts ext (change db) events
  | db, .create p :: events =>
    (db, p) :: match associatedWalletCreate ext db p with
      | .ok db' => attempts ext db' events
      | .error _ => attempts ext db events

/-- The wallet has signed the message that stands in the metadata, by the rule of its chain. Who
sends the transaction does not matter. -/
structure Proven (ext : Externals) (p : Params) (sig : SigData) : Prop where
  carried : extractSignature p "wallet_signature" = some sig
  named : linkedWallet ext.rt p ≠ ""
  stored : NulFree (linkedWallet ext.rt p)
  signed :
    (p.metadataString "chain" = "eth" ∧ ∃ recovered,
      recoverETHAddress ext sig.message sig.signature = .ok recovered ∧
        ext.rt.equalFold recovered (linkedWallet ext.rt p) = true) ∨
    (p.metadataString "chain" = "sol" ∧
      verifySolSignature ext sig.message sig.signature (linkedWallet ext.rt p) = .ok ())

/-- Nothing the proof is read from is the sender's. -/
theorem Proven.copy {ext : Externals} {p q : Params} {sig : SigData} (h : Proven ext p sig)
    (hmetadata : q.metadata = p.metadata) : Proven ext q sig := by
  obtain ⟨hcarried, hnamed, hstored, hsigned⟩ := h
  unfold linkedWallet Params.metadataString at hnamed hstored hsigned
  unfold extractSignature at hcarried
  rw [← hmetadata] at hcarried hnamed hstored hsigned
  exact ⟨hcarried, hnamed, hstored, hsigned⟩

theorem provesWallet_eq_ok {ext : Externals} {sig : SigData} {wallet chain : String}
    (hchain : chain = "eth" ∨ chain = "sol") :
    provesWallet ext sig wallet chain = .ok () ↔
      (chain = "eth" ∧ ∃ recovered, recoverETHAddress ext sig.message sig.signature = .ok recovered ∧
        ext.rt.equalFold recovered wallet = true) ∨
      (chain = "sol" ∧ verifySolSignature ext sig.message sig.signature wallet = .ok ()) := by
  rcases hchain with rfl | rfl
  · rw [provesWallet, if_pos rfl]
    cases recoverETHAddress ext sig.message sig.signature with
    | error e => simp
    | ok recovered => simp [invalidIf_eq_ok]
  · rw [provesWallet, if_neg (by decide), if_pos rfl, except_mapError_eq_ok]
    simp

theorem validateAssociatedWalletShape_eq_ok {wallet chain : String} :
    validateAssociatedWalletShape wallet chain = .ok () ↔
      wallet ≠ "" ∧ (chain = "eth" ∨ chain = "sol") := by
  unfold validateAssociatedWalletShape
  rw [invalidIf_bind_eq_ok, invalidIf_bind_eq_ok, invalidIf_eq_ok]
  constructor
  · rintro ⟨hwallet, -, hchain⟩
    refine ⟨hwallet, ?_⟩
    by_contra hother
    exact hchain (not_or.mp hother)
  · rintro ⟨hwallet, hchain⟩
    refine ⟨hwallet, ?_, fun hother => not_or.mpr hother hchain⟩
    rintro rfl
    revert hchain
    decide

/-- A signer is valid only for a user there is a row of. -/
theorem exists_ofInt_of_validateSigner {rt : GoRuntime} {db : EtlDb} {p : Params}
    (h : validateSigner rt db p = .ok ()) : ∃ id, Int4.ofInt p.userId = .ok id := by
  obtain ⟨hwallet, -⟩ := invalidIf_bind_eq_ok.mp h
  cases hid : Int4.ofInt p.userId with
  | ok id => exact ⟨id, rfl⟩
  | error e => simp [EtlDb.getUserWallet, hid] at hwallet

/-- A create is accepted exactly if its signer is valid for its user, in the tables it meets, and the
wallet has signed what it carries. -/
theorem associatedWalletCreate_accepts_iff {ext : Externals} {db : WalletDb} {p : Params} :
    (∃ db', associatedWalletCreate ext db p = .ok db') ↔
      validateSigner ext.rt db.base p = .ok () ∧ ∃ sig, Proven ext p sig := by
  constructor
  · rintro ⟨db', h⟩
    obtain ⟨_, hvalid, hinsert⟩ := except_bind_eq_ok.mp h
    obtain ⟨_, hsigner, hvalid⟩ := except_bind_eq_ok.mp hvalid
    obtain ⟨_, hshape, hverify⟩ := except_bind_eq_ok.mp hvalid
    obtain ⟨hnamed, hchain⟩ := validateAssociatedWalletShape_eq_ok.mp hshape
    obtain ⟨w, hw, -⟩ := except_bind_eq_ok.mp hinsert
    have hstored : NulFree (linkedWallet ext.rt p) := by
      rw [← PgText.val_of_ofString (except_mapError_eq_ok.mp hw)]
      exact w.nulFree
    unfold verifyAssociatedWalletSignature at hverify
    cases hsig : extractSignature p "wallet_signature" with
    | none =>
      rw [hsig] at hverify
      cases hverify
    | some sig =>
      rw [hsig] at hverify
      exact ⟨hsigner, sig, hsig, hnamed, hstored, (provesWallet_eq_ok hchain).mp hverify⟩
  · rintro ⟨hsigner, sig, hproven⟩
    have hchain : p.metadataString "chain" = "eth" ∨ p.metadataString "chain" = "sol" :=
      hproven.signed.imp And.left And.left
    have hchainStored : NulFree (p.metadataString "chain") := by
      rcases hchain with h | h
      · rw [h]
        decide
      · rw [h]
        decide
    have hverify : verifyAssociatedWalletSignature ext p (linkedWallet ext.rt p)
        (p.metadataString "chain") = .ok () := by
      rw [verifyAssociatedWalletSignature, hproven.carried]
      exact (provesWallet_eq_ok hchain).mpr hproven.signed
    have hshape := validateAssociatedWalletShape_eq_ok.mpr ⟨hproven.named, hchain⟩
    obtain ⟨id, hid⟩ := exists_ofInt_of_validateSigner hsigner
    simp [associatedWalletCreate, validateAssociatedWalletCreate, hsigner, hshape, hverify,
      insertAssociatedWallet, bindText, PgText.ofString_of_nulFree hproven.stored,
      PgText.ofString_of_nulFree hchainStored, hid, Except.mapError, Except.bind, Bind.bind, pure,
      Except.pure]

theorem mem_acceptedCreates_iff {ext : Externals} {events : List WalletEvent} {db : WalletDb}
    {p : Params} : p ∈ acceptedCreates ext db events ↔ ∃ at', (at', p) ∈ attempts ext db events ∧
      ∃ db', associatedWalletCreate ext at' p = .ok db' := by
  induction events generalizing db with
  | nil => simp [acceptedCreates, attempts]
  | cons e events ih =>
    cases e with
    | other change => exact ih
    | create q =>
      rw [acceptedCreates, attempts]
      cases hq : associatedWalletCreate ext db q with
      | error e =>
        simp only [ih, List.mem_cons, Prod.mk.injEq]
        constructor
        · rintro ⟨at', hmem, hok⟩
          exact ⟨at', .inr hmem, hok⟩
        · rintro ⟨at', ⟨rfl, rfl⟩ | hmem, hok⟩
          · rw [hq] at hok
            obtain ⟨_, hok⟩ := hok
            cases hok
          · exact ⟨at', hmem, hok⟩
      | ok db' =>
        simp only [ih, List.mem_cons, Prod.mk.injEq]
        constructor
        · rintro (rfl | ⟨at', hmem, hok⟩)
          · exact ⟨db, .inl ⟨rfl, rfl⟩, db', hq⟩
          · exact ⟨at', .inr hmem, hok⟩
        · rintro ⟨at', ⟨rfl, rfl⟩ | hmem, hok⟩
          · exact .inl rfl
          · exact .inr ⟨at', hmem, hok⟩

theorem create_mem_of_attempts {ext : Externals} {events : List WalletEvent} {db at' : WalletDb}
    {p : Params} (h : (at', p) ∈ attempts ext db events) : WalletEvent.create p ∈ events := by
  induction events generalizing db with
  | nil => cases h
  | cons e events ih =>
    cases e with
    | other change => exact List.mem_cons_of_mem _ (ih h)
    | create q =>
      rcases List.mem_cons.mp h with heq | h
      · cases heq
        exact List.mem_cons_self
      · refine List.mem_cons_of_mem _ ?_
        split at h <;> exact ih h

/-- No proof serves two users in a sequence exactly if, of two creates in it whose messages the one
wallet has signed and agree, the signers are not both valid, each where its create stands. And a
signer is all that a copy of an accepted create takes: it is accepted from every user and in all
tables in which its signer is valid. -/
theorem proofsUnshared_iff_notResent (ext : Externals) (db : WalletDb) (events : List WalletEvent) :
    (ProofsUnshared ext.rt (acceptedCreates ext db events) ↔
      ∀ x ∈ attempts ext db events, ∀ y ∈ attempts ext db events, x.2.userId ≠ y.2.userId →
        linkedWallet ext.rt x.2 = linkedWallet ext.rt y.2 →
        ∀ s t, Proven ext x.2 s → Proven ext y.2 t → s.message = t.message →
          validateSigner ext.rt x.1.base x.2 = .ok () →
          validateSigner ext.rt y.1.base y.2 ≠ .ok ()) ∧
    ∀ p ∈ acceptedCreates ext db events, ∀ later copy, copy.metadata = p.metadata →
      ((∃ db', associatedWalletCreate ext later copy = .ok db') ↔
        validateSigner ext.rt later.base copy = .ok ()) := by
  refine ⟨⟨?_, ?_⟩, ?_⟩
  · intro hunshared x hx y hy huser hwallet s t hs ht hmessage hsigner hsigner'
    refine hunshared x.2 ?_ y.2 ?_ huser hwallet s t hs.carried ht.carried hmessage
    · exact mem_acceptedCreates_iff.mpr
        ⟨x.1, hx, associatedWalletCreate_accepts_iff.mpr ⟨hsigner, s, hs⟩⟩
    · exact mem_acceptedCreates_iff.mpr
        ⟨y.1, hy, associatedWalletCreate_accepts_iff.mpr ⟨hsigner', t, ht⟩⟩
  · intro h p hp q hq huser hwallet s t hs ht hmessage
    obtain ⟨at', hp, hok⟩ := mem_acceptedCreates_iff.mp hp
    obtain ⟨at'', hq, hok'⟩ := mem_acceptedCreates_iff.mp hq
    obtain ⟨hsigner, s', hproven⟩ := associatedWalletCreate_accepts_iff.mp hok
    obtain ⟨hsigner', t', hproven'⟩ := associatedWalletCreate_accepts_iff.mp hok'
    obtain rfl : s = s' := Option.some.inj (hs.symm.trans hproven.carried)
    obtain rfl : t = t' := Option.some.inj (ht.symm.trans hproven'.carried)
    exact h _ hp _ hq huser hwallet s t hproven hproven' hmessage hsigner hsigner'
  · intro p hp later copy hmetadata
    obtain ⟨at', -, hok⟩ := mem_acceptedCreates_iff.mp hp
    obtain ⟨-, sig, hproven⟩ := associatedWalletCreate_accepts_iff.mp hok
    rw [associatedWalletCreate_accepts_iff]
    exact ⟨And.left, fun hsigner => ⟨hsigner, sig, hproven.copy hmetadata⟩⟩

/-! ### One proof for two users -/

/-- A text that a key signed with `personal_sign`. -/
structure RecordedMessage where
  text : String
  digest : Externals.Digest
  signature : String
  /-- with the recovery id the library expects -/
  signatureBytes : Bytes
  key : Externals.RecordedKey

namespace RecordedMessage

variable (m : RecordedMessage)

def calls : Externals.Recorded where
  keccak256 := [(0x19 :: textBytes ("Ethereum Signed Message:\n" ++ toString (textBytes m.text).length) ++
    textBytes m.text, m.digest)]
  sigToPub := [((m.digest.val, m.signatureBytes), m.key.pubKey)]

def member (name : String) : String :=
  "\"" ++ name ++ "\":\x7b\"message\":\"" ++ m.text ++ "\",\"signature\":\"" ++ m.signature ++ "\"\x7d"

end RecordedMessage

def walletKey : Externals.RecordedKey where
  pubKey := bigEndian 1 4 ++
    bigEndian 32 0xf9308a019258c31049344f85f89d5229b531c845836f99b08601f113bce036f9 ++
    bigEndian 32 0x388f7b0f632de8140fe337e62a37f3566500a99934c2231b6cb9fd7584b8e672
  digest := Externals.digest 0x75bf18e34f9add02a2fe5a146813eb9362372eef6200f3b1dbc3f819671cba69
  textDigest := Externals.digest 0xebb4f6b641638db84742695023e378ac34a4cfc5672f5a544f24b2b0d33da507

def plainProof : RecordedMessage where
  text := "I own this wallet"
  digest := Externals.digest 0xcebe8d9097189f72e72ec8589328ec9ffe50b906f386071e10635c3908a81fd3
  signature := "0x365f4bb1324712dbf91fc42749014b4f9dba32c72b73dcd211ca4f8849c75e56" ++
    "05ac10bd9aec6298eaf799f4a3dab4d0a6ade036c32d1c1edfb7b3078b2018691b"
  signatureBytes := bigEndian 40 0x365f4bb1324712dbf91fc42749014b4f9dba32c72b73dcd211ca4f8849c75e5605ac10bd9aec6298 ++
    bigEndian 25 0xeaf799f4a3dab4d0a6ade036c32d1c1edfb7b3078b20186900
  key := walletKey

def firstProof : RecordedMessage where
  text := "link to user 1"
  digest := Externals.digest 0xed716dca84c292131264949a98ad355b44029ab6bc3327582300dc12d5bb621f
  signature := "0x4def5e64b391d908fb88515510c40a5a0d96b8670ae5185def338906ddbb0969" ++
    "769045a1b1be0b46b282c162c758081c0b2fb7b53c9fdb1ca021d389efa490021c"
  signatureBytes := bigEndian 40 0x4def5e64b391d908fb88515510c40a5a0d96b8670ae5185def338906ddbb0969769045a1b1be0b46 ++
    bigEndian 25 0xb282c162c758081c0b2fb7b53c9fdb1ca021d389efa4900201
  key := walletKey

def secondProof : RecordedMessage where
  text := "link to user 2"
  digest := Externals.digest 0x7142a95fe285fab7e2f8e0b89790f06839cd5ed59ae24062e2227b9a1d3b3375
  signature := "0x1ed6f620d723eda1faaa22a162b28a9e20f06a341a4ba251ae94de50379b4aaf" ++
    "67c8e37b4cbcc878dbc94dc8cfcacb3f47c1abc91510c41009c1358953ffda191b"
  signatureBytes := bigEndian 40 0x1ed6f620d723eda1faaa22a162b28a9e20f06a341a4ba251ae94de50379b4aaf67c8e37b4cbcc878 ++
    bigEndian 25 0xdbc94dc8cfcacb3f47c1abc91510c41009c1358953ffda1900
  key := walletKey

theorem nulFree_secondWallet : NulFree "0x2b5ad5c4795c026514f8317c7a215e218dccd6cf" := by decide

def secondWallet : PgText :=
  ⟨"0x2b5ad5c4795c026514f8317c7a215e218dccd6cf", nulFree_secondWallet⟩

theorem firstId_range : -2 ^ 31 ≤ (1 : Int) ∧ (1 : Int) < 2 ^ 31 := by decide

theorem secondId_range : -2 ^ 31 ≤ (2 : Int) ∧ (2 : Int) < 2 ^ 31 := by decide

def walletDb : WalletDb where
  base :=
    { users := [⟨⟨1, firstId_range⟩, Server.firstWallet, none, false, true⟩,
        ⟨⟨2, secondId_range⟩, secondWallet, none, false, true⟩]
      grants := []
      developerApps := [] }
  associatedWallets := []
  dashboardWalletUsers := ∅

def linkTx (userId : Int) (signer : PgText) (proof : RecordedMessage) : Params :=
  newParams
    { userId := userId
      entityType := "AssociatedWallet"
      action := "Create"
      metadata := "\x7b\"chain\":\"eth\",\"wallet\":\"0x6813Eb9362372EEF6200f3b1dbC3f819671cBA69\"," ++
        proof.member "wallet_signature" ++ "\x7d"
      signer := signer.val }

def RecordedMessage.value (m : RecordedMessage) : Json.Value :=
  .obj [("message", .str m.text), ("signature", .str m.signature)]

def linkText (proof : RecordedMessage) : String :=
  "\x7b\"chain\":\"eth\",\"wallet\":\"0x6813Eb9362372EEF6200f3b1dbC3f819671cBA69\"," ++
    proof.member "wallet_signature" ++ "\x7d"

def linkMembers (proof : RecordedMessage) : List (String × Json.Value) :=
  [("chain", .str "eth"), ("wallet", .str "0x6813Eb9362372EEF6200f3b1dbC3f819671cBA69"),
    ("wallet_signature", proof.value)]

def linkParams (userId : Int) (signer : PgText) (proof : RecordedMessage) : Params where
  userId := userId
  entityId := 0
  entityType := "AssociatedWallet"
  action := "Create"
  signer := signer.val
  metadata := linkMembers proof

theorem linkTx_eq {userId : Int} {signer : PgText} {proof : RecordedMessage}
    (h : (Json.parse (linkText proof), Json.numbersInRange (linkText proof)) =
      (some (.obj (linkMembers proof)), true)) :
    linkTx userId signer proof = linkParams userId signer proof := by
  have hmetadata : parseAuthMetadata (linkText proof) = linkMembers proof :=
    parseAuthMetadata_of_read h rfl
  exact congrArg (Params.mk userId 0 "AssociatedWallet" "Create" signer.val) hmetadata

set_option maxRecDepth 4000 in
theorem linkTx_plainProof (userId : Int) (signer : PgText) :
    linkTx userId signer plainProof = linkParams userId signer plainProof := by
  apply linkTx_eq
  unfold linkText linkMembers RecordedMessage.member RecordedMessage.value plainProof
  rw [Json.parse, Json.numbersInRange, Json.tokens]
  simp only [String.toList_append]
  repeat rw [toList_eq_of_ofList rfl]
  rfl

set_option maxRecDepth 4000 in
theorem linkTx_firstProof (userId : Int) (signer : PgText) :
    linkTx userId signer firstProof = linkParams userId signer firstProof := by
  apply linkTx_eq
  unfold linkText linkMembers RecordedMessage.member RecordedMessage.value firstProof
  rw [Json.parse, Json.numbersInRange, Json.tokens]
  simp only [String.toList_append]
  repeat rw [toList_eq_of_ofList rfl]
  rfl

set_option maxRecDepth 4000 in
theorem linkTx_secondProof (userId : Int) (signer : PgText) :
    linkTx userId signer secondProof = linkParams userId signer secondProof := by
  apply linkTx_eq
  unfold linkText linkMembers RecordedMessage.member RecordedMessage.value secondProof
  rw [Json.parse, Json.numbersInRange, Json.tokens]
  simp only [String.toList_append]
  repeat rw [toList_eq_of_ofList rfl]
  rfl

def walletExternals : Externals :=
  (plainProof.calls ++ firstProof.calls ++ secondProof.calls ++ walletKey.calls).externals

def acceptedProofs (events : List WalletEvent) : List (Int × Option SigData) :=
  (acceptedCreates walletExternals walletDb events).map fun p =>
    (p.userId, extractSignature p "wallet_signature")

/-- Two users who link one wallet with a message for each. -/
theorem proofsUnshared_named :
    acceptedProofs [.create (linkTx 1 Server.firstWallet firstProof),
        .create (linkTx 2 secondWallet secondProof)] =
      [(1, some ⟨firstProof.text, firstProof.signature⟩),
        (2, some ⟨secondProof.text, secondProof.signature⟩)] ∧
    ProofsUnshared walletExternals.rt (acceptedCreates walletExternals walletDb
      [.create (linkTx 1 Server.firstWallet firstProof),
        .create (linkTx 2 secondWallet secondProof)]) := by
  rw [linkTx_firstProof, linkTx_secondProof]
  have hrun : acceptedProofs [.create (linkParams 1 Server.firstWallet firstProof),
        .create (linkParams 2 secondWallet secondProof)] =
      [(1, some ⟨firstProof.text, firstProof.signature⟩),
        (2, some ⟨secondProof.text, secondProof.signature⟩)] ∧
      extractSignature (linkParams 1 Server.firstWallet firstProof) "wallet_signature" =
        some ⟨firstProof.text, firstProof.signature⟩ ∧
      extractSignature (linkParams 2 secondWallet secondProof) "wallet_signature" =
        some ⟨secondProof.text, secondProof.signature⟩ := by decide +kernel
  obtain ⟨haccepted, hfirst, hsecond⟩ := hrun
  refine ⟨haccepted, (proofsUnshared_iff_notResent walletExternals walletDb _).1.mpr ?_⟩
  rintro ⟨at', p⟩ hp ⟨at'', q⟩ hq huser - s t hs ht hmessage
  have hp := List.mem_pair.mp (create_mem_of_attempts hp)
  have hq := List.mem_pair.mp (create_mem_of_attempts hq)
  rw [WalletEvent.create.injEq, WalletEvent.create.injEq] at hp hq
  rcases hp with rfl | rfl <;> rcases hq with rfl | rfl
  · exact absurd rfl huser
  · cases hfirst.symm.trans hs.carried
    cases hsecond.symm.trans ht.carried
    exact absurd hmessage (by decide)
  · cases hsecond.symm.trans hs.carried
    cases hfirst.symm.trans ht.carried
    exact absurd hmessage (by decide)
  · exact absurd rfl huser

/-- The proof in the first user's transaction is taken from the second user as well. -/
theorem proof_shared :
    linkedWallet walletExternals.rt (linkTx 1 Server.firstWallet plainProof) =
      linkedWallet walletExternals.rt (linkTx 2 secondWallet plainProof) ∧
    acceptedProofs [.create (linkTx 1 Server.firstWallet plainProof),
        .create (linkTx 2 secondWallet plainProof)] =
      [(1, some ⟨plainProof.text, plainProof.signature⟩),
        (2, some ⟨plainProof.text, plainProof.signature⟩)] := by
  rw [linkTx_plainProof, linkTx_plainProof]
  decide +kernel

/-! ### Dashboard wallets -/

section Dashboard

variable (ext : Externals) (db : WalletDb) (p : Params)

/-- The row of a dashboard wallet; a failed query finds none. -/
def dashboardWalletRow (wallet : String) : Option DashboardWalletRow :=
  match bindText wallet with
  | .ok w => db.dashboardWalletUsers.lookup w
  | .error _ => none

/-- `validateDashboardWalletAssignment`: the user's wallet. -/
def validateDashboardWalletAssignment (wallet : String) : Except EtlError String := do
  let id := p.userId
  let exists' ← db.base.userExists id
  invalidIf (exists' = false) s!"user {id} does not exist"
  let userWallet := db.base.getUserWallet id
  invalidIf (ext.rt.equalFold userWallet p.signer = false ∧ ext.rt.equalFold wallet p.signer = false)
    "signer does not match user or dashboard wallet"
  invalidIf ((dashboardWalletRow db wallet).any fun r => !r.isDelete)
    s!"dashboard wallet {wallet} already has an assigned user"
  return userWallet

/-- An embedded signature, if there is one, is by the address; `invalid` and `mismatch` are the
texts of the errors. -/
def checkEmbedded (sig : Option SigData) (address invalid mismatch : String) :
    Except EtlError Unit :=
  match sig with
  | none => .ok ()
  | some sig =>
    match recoverETHAddress ext sig.message sig.signature with
    | .error e => .error (.validation (invalid ++ e))
    | .ok recovered => invalidIf (ext.rt.equalFold recovered address = false) mismatch

def verifyDashboardWalletSignatures (wallet userWallet : String) : Except EtlError Unit := do
  let walletSig := extractSignature p "wallet_signature"
  let userSig := extractSignature p "user_signature"
  invalidIf (walletSig = none ∧ userSig = none) "wallet signature or user signature is required"
  checkEmbedded ext walletSig wallet "invalid wallet_signature: "
    "wallet_signature was not signed by the dashboard wallet"
  checkEmbedded ext userSig userWallet "invalid user_signature: "
    "user_signature was not signed by the user wallet"

def validateDashboardWalletCreate (wallet : String) : Except EtlError Unit := do
  let userWallet ← validateDashboardWalletAssignment ext db p wallet
  verifyDashboardWalletSignatures ext p wallet userWallet

def insertDashboardWalletUser (wallet : String) : Except EtlError WalletDb := do
  let w ← bindText wallet
  let id ← Int4.ofInt p.userId
  return { db with dashboardWalletUsers := db.dashboardWalletUsers.insert w ⟨id, false⟩ }

def dashboardWallet (rt : GoRuntime) (p : Params) : String := rt.toLower (p.metadataString "wallet")

def dashboardWalletCreate : Except EtlError WalletDb := do
  let wallet := dashboardWallet ext.rt p
  invalidIf (wallet = "") "dashboard wallet address is required"
  validateDashboardWalletCreate ext db p wallet
  insertDashboardWalletUser db p wallet

/-- The key of an address signed: the transaction, or one of the messages embedded in it. -/
def SignedByKey (address : String) : Prop :=
  ext.rt.equalFold address p.signer = true ∨
    ∃ key ∈ ["wallet_signature", "user_signature"], ∃ sig recovered,
      extractSignature p key = some sig ∧
      recoverETHAddress ext sig.message sig.signature = .ok recovered ∧
      ext.rt.equalFold recovered address = true

end Dashboard

theorem checkEmbedded_eq_ok {ext : Externals} {sig : Option SigData}
    {address invalid mismatch : String} :
    checkEmbedded ext sig address invalid mismatch = .ok () ↔
      ∀ s, sig = some s → ∃ recovered, recoverETHAddress ext s.message s.signature = .ok recovered ∧
        ext.rt.equalFold recovered address = true := by
  cases sig with
  | none => simp [checkEmbedded]
  | some s =>
    cases hr : recoverETHAddress ext s.message s.signature with
    | error e => simp [checkEmbedded, hr]
    | ok recovered => simp [checkEmbedded, hr, invalidIf_eq_ok]

theorem equalFold_symm {u : CaseTables} {s t : String} (h : u.equalFold s t = true) :
    u.equalFold t s = true := by
  rw [u.equalFold_iff] at h ⊢
  exact h.symm

theorem equalFold_trans {u : CaseTables} {s t w : String} (h₁ : u.equalFold s t = true)
    (h₂ : u.equalFold t w = true) : u.equalFold s w = true := by
  rw [u.equalFold_iff] at h₁ h₂ ⊢
  exact h₁.trans h₂

/-- What an accepted assignment has checked. -/
structure Assigned (ext : Externals) (db : WalletDb) (p : Params) : Prop where
  signer : ext.rt.equalFold (db.base.getUserWallet p.userId) p.signer = true ∨
    ext.rt.equalFold (dashboardWallet ext.rt p) p.signer = true
  byWallet : ∀ s, extractSignature p "wallet_signature" = some s →
    ∃ recovered, recoverETHAddress ext s.message s.signature = .ok recovered ∧
      ext.rt.equalFold recovered (dashboardWallet ext.rt p) = true
  byUser : ∀ s, extractSignature p "user_signature" = some s →
    ∃ recovered, recoverETHAddress ext s.message s.signature = .ok recovered ∧
      ext.rt.equalFold recovered (db.base.getUserWallet p.userId) = true

theorem assigned_of_create {ext : Externals} {db db' : WalletDb} {p : Params}
    (h : dashboardWalletCreate ext db p = .ok db') : Assigned ext db p := by
  obtain ⟨-, h⟩ := invalidIf_bind_eq_ok.mp h
  obtain ⟨_, hvalid, -⟩ := except_bind_eq_ok.mp h
  obtain ⟨userWallet, hassign, hverify⟩ := except_bind_eq_ok.mp hvalid
  obtain ⟨_, -, hassign⟩ := except_bind_eq_ok.mp hassign
  obtain ⟨-, hassign⟩ := invalidIf_bind_eq_ok.mp hassign
  obtain ⟨hsigner, hassign⟩ := invalidIf_bind_eq_ok.mp hassign
  obtain ⟨-, hassign⟩ := invalidIf_bind_eq_ok.mp hassign
  cases hassign
  obtain ⟨-, hverify⟩ := invalidIf_bind_eq_ok.mp hverify
  obtain ⟨_, hwallet, huser⟩ := except_bind_eq_ok.mp hverify
  refine ⟨?_, checkEmbedded_eq_ok.mp hwallet, checkEmbedded_eq_ok.mp huser⟩
  by_contra hnone
  rw [not_or, Bool.not_eq_true, Bool.not_eq_true] at hnone
  exact hsigner hnone

/-- A party has signed exactly if it signed the transaction or embedded its own signature: the
signature of the other party recovers to it only if both are one address, and then it signed the
transaction. -/
theorem signedByKey_iff {ext : Externals} {p : Params} {own other wallet wallet' : String}
    (hown : own ∈ ["wallet_signature", "user_signature"])
    (hkeys : ∀ key ∈ ["wallet_signature", "user_signature"], key = own ∨ key = other)
    (hbyOwn : ∀ s, extractSignature p own = some s →
      ∃ recovered, recoverETHAddress ext s.message s.signature = .ok recovered ∧
        ext.rt.equalFold recovered wallet = true)
    (hbyOther : ∀ s, extractSignature p other = some s →
      ∃ recovered, recoverETHAddress ext s.message s.signature = .ok recovered ∧
        ext.rt.equalFold recovered wallet' = true)
    (hsigned : ext.rt.equalFold wallet p.signer = true ∨
      ext.rt.equalFold wallet' p.signer = true) :
    SignedByKey ext p wallet ↔ ext.rt.equalFold wallet p.signer = true ∨
      (extractSignature p own).isSome = true := by
  constructor
  · rintro (hsigner | ⟨key, hkey, sig, recovered, hsig, hrecovered, hfold⟩)
    · exact .inl hsigner
    · rcases hkeys key hkey with rfl | rfl
      · exact .inr (by rw [hsig]; rfl)
      · obtain ⟨recovered', hrecovered', hfold'⟩ := hbyOther sig hsig
        obtain rfl : recovered = recovered' := Except.ok.inj (hrecovered.symm.trans hrecovered')
        rcases hsigned with hsigner | hsigner
        · exact .inl hsigner
        · exact .inl (equalFold_trans (equalFold_trans (equalFold_symm hfold) hfold') hsigner)
  · rintro (hsigner | hsome)
    · exact .inl hsigner
    · obtain ⟨sig, hsig⟩ := Option.isSome_iff_exists.mp hsome
      obtain ⟨recovered, hrecovered, hfold⟩ := hbyOwn sig hsig
      exact .inr ⟨own, hown, sig, recovered, hsig, hrecovered, hfold⟩

namespace Assigned

variable {ext : Externals} {db : WalletDb} {p : Params} (h : Assigned ext db p)

include h

theorem signedByWallet_iff :
    SignedByKey ext p (dashboardWallet ext.rt p) ↔
      ext.rt.equalFold (dashboardWallet ext.rt p) p.signer = true ∨
        (extractSignature p "wallet_signature").isSome = true :=
  signedByKey_iff (by simp) (fun _ => List.mem_pair.mp) h.byWallet h.byUser h.signer.symm

theorem signedByUser_iff :
    SignedByKey ext p (db.base.getUserWallet p.userId) ↔
      ext.rt.equalFold (db.base.getUserWallet p.userId) p.signer = true ∨
        (extractSignature p "user_signature").isSome = true :=
  signedByKey_iff (by simp) (fun _ hkey => (List.mem_pair.mp hkey).symm) h.byUser h.byWallet h.signer

end Assigned

/-- An assignment that is accepted is signed by both parties if and only if whoever did not sign the
transaction embedded a signature. -/
theorem signedByBoth_iff {ext : Externals} {db db' : WalletDb} {p : Params}
    (h : dashboardWalletCreate ext db p = .ok db') :
    (SignedByKey ext p (dashboardWallet ext.rt p) ∧
        SignedByKey ext p (db.base.getUserWallet p.userId)) ↔
      (ext.rt.equalFold (dashboardWallet ext.rt p) p.signer = true ∨
          (extractSignature p "wallet_signature").isSome = true) ∧
        (ext.rt.equalFold (db.base.getUserWallet p.userId) p.signer = true ∨
          (extractSignature p "user_signature").isSome = true) := by
  have hassigned := assigned_of_create h
  rw [hassigned.signedByWallet_iff, hassigned.signedByUser_iff]

/-! ### A wallet assigned by one party -/

def userProof : RecordedMessage where
  text := "link dashboard"
  digest := Externals.digest 0x67b0629b3481e8dc7d11111c343887362bd4f3a6ee0f3fbf38867b3a3a9a3f86
  signature := "0xeb73ebc083c83e9a00dd86189d1bf47209d234a8f55a414459f2b56255a618d5" ++
    "5babbebc1e730f69fceae67c2dfe8c7f97a63ac9ace13a9a633cb0a8f8d1cf791c"
  signatureBytes := bigEndian 40 0xeb73ebc083c83e9a00dd86189d1bf47209d234a8f55a414459f2b56255a618d55babbebc1e730f69 ++
    bigEndian 25 0xfceae67c2dfe8c7f97a63ac9ace13a9a633cb0a8f8d1cf7901
  key := Server.firstKey

def assignTx (name : String) (proof : RecordedMessage) : Params :=
  newParams
    { userId := 1
      entityType := "DashboardWalletUser"
      action := "Create"
      metadata := "\x7b\"wallet\":\"0x6813Eb9362372EEF6200f3b1dbC3f819671cBA69\"," ++
        proof.member name ++ "\x7d"
      signer := Server.firstWallet.val }

def assignText (name : String) (proof : RecordedMessage) : String :=
  "\x7b\"wallet\":\"0x6813Eb9362372EEF6200f3b1dbC3f819671cBA69\"," ++ proof.member name ++ "\x7d"

def assignMembers (name : String) (proof : RecordedMessage) : List (String × Json.Value) :=
  [("wallet", .str "0x6813Eb9362372EEF6200f3b1dbC3f819671cBA69"), (name, proof.value)]

def assignParams (name : String) (proof : RecordedMessage) : Params where
  userId := 1
  entityId := 0
  entityType := "DashboardWalletUser"
  action := "Create"
  signer := Server.firstWallet.val
  metadata := assignMembers name proof

theorem assignTx_eq {name : String} {proof : RecordedMessage}
    (h : (Json.parse (assignText name proof), Json.numbersInRange (assignText name proof)) =
      (some (.obj (assignMembers name proof)), true))
    (hdata : Json.lastMember (assignMembers name proof) "data" = none) :
    assignTx name proof = assignParams name proof := by
  have hmetadata : parseAuthMetadata (assignText name proof) = assignMembers name proof :=
    parseAuthMetadata_of_read h hdata
  exact congrArg (Params.mk 1 0 "DashboardWalletUser" "Create" Server.firstWallet.val) hmetadata

set_option maxRecDepth 4000 in
theorem assignTx_plainProof :
    assignTx "wallet_signature" plainProof = assignParams "wallet_signature" plainProof := by
  refine assignTx_eq ?_ rfl
  unfold assignText assignMembers RecordedMessage.member RecordedMessage.value plainProof
  rw [Json.parse, Json.numbersInRange, Json.tokens]
  simp only [String.toList_append]
  repeat rw [toList_eq_of_ofList rfl]
  rfl

set_option maxRecDepth 4000 in
theorem assignTx_userProof :
    assignTx "user_signature" userProof = assignParams "user_signature" userProof := by
  refine assignTx_eq ?_ rfl
  unfold assignText assignMembers RecordedMessage.member RecordedMessage.value userProof
  rw [Json.parse, Json.numbersInRange, Json.tokens]
  simp only [String.toList_append]
  repeat rw [toList_eq_of_ofList rfl]
  rfl

def dashboardExternals : Externals :=
  (plainProof.calls ++ userProof.calls ++ walletKey.calls ++ Server.firstKey.calls).externals

/-- With the signature of the wallet, both have signed. -/
theorem signedByBoth_wallet :
    (dashboardWalletCreate dashboardExternals walletDb (assignTx "wallet_signature" plainProof)).isOk ∧
      SignedByKey dashboardExternals (assignTx "wallet_signature" plainProof)
        (dashboardWallet dashboardExternals.rt (assignTx "wallet_signature" plainProof)) ∧
      SignedByKey dashboardExternals (assignTx "wallet_signature" plainProof)
        (walletDb.base.getUserWallet (assignTx "wallet_signature" plainProof).userId) := by
  rw [assignTx_plainProof]
  have hrun : (dashboardWalletCreate dashboardExternals walletDb
        (assignParams "wallet_signature" plainProof)).isOk = true ∧
      (extractSignature (assignParams "wallet_signature" plainProof) "wallet_signature").isSome =
        true ∧
      dashboardExternals.rt.equalFold
        (walletDb.base.getUserWallet (assignParams "wallet_signature" plainProof).userId)
        (assignParams "wallet_signature" plainProof).signer = true := by decide +kernel
  obtain ⟨hok, hsome, hsigner⟩ := hrun
  refine ⟨hok, ?_⟩
  cases hrun : dashboardWalletCreate dashboardExternals walletDb
      (assignParams "wallet_signature" plainProof) with
  | error e =>
    rw [hrun] at hok
    cases hok
  | ok db' =>
    exact (signedByBoth_iff hrun).mpr ⟨.inr hsome, .inl hsigner⟩

/-- With a second signature of the user instead, the wallet is assigned without its key. -/
theorem assigned_by_user_alone :
    (dashboardWalletCreate dashboardExternals walletDb (assignTx "user_signature" userProof)).isOk ∧
      ¬ SignedByKey dashboardExternals (assignTx "user_signature" userProof)
        (dashboardWallet dashboardExternals.rt (assignTx "user_signature" userProof)) := by
  rw [assignTx_userProof]
  have hrun : (dashboardWalletCreate dashboardExternals walletDb
        (assignParams "user_signature" userProof)).isOk = true ∧
      ¬ (dashboardExternals.rt.equalFold
          (dashboardWallet dashboardExternals.rt (assignParams "user_signature" userProof))
          (assignParams "user_signature" userProof).signer = true ∨
        (extractSignature (assignParams "user_signature" userProof) "wallet_signature").isSome =
          true) := by decide +kernel
  obtain ⟨hok, hunsigned⟩ := hrun
  refine ⟨hok, ?_⟩
  cases hrun : dashboardWalletCreate dashboardExternals walletDb
      (assignParams "user_signature" userProof) with
  | error e =>
    rw [hrun] at hok
    cases hok
  | ok db' =>
    rwa [(assigned_of_create hrun).signedByWallet_iff]

end OpenAudio.Etl
