import OpenAudio.Core.Registration

/-!
# Attestations of deregistrations

A validator leaves the set by an attestation that enough of its peers sign. A peer signs when the
validator is not registered on Ethereum, or has proposed no block in the recent rollups. The first
is a reason to remove the validator, the second only to jail it. The request itself says which of
the two it is, under which key and until when, and the peer signs it as it comes.
-/

namespace OpenAudio.Core

/-! ### Underperformance -/

def validatorPurgeSLAInterval : Nat := 8

namespace Db

def totalValidators (db : Db) : Int := (db.validators.filter fun v => !v.jailed).length

/-- `GetRecentRollupsForNode`: the blocks the address proposed in each of the latest rollups, where
it has a report. Rollups differ in their times, so the order is determined. -/
def getRecentRollupsForNode (limit : Nat) (address : String) : Query Db (List (Option Int)) :=
  fun db => do
    let a ← PgText.ofString address
    let rollups := (db.sla.rollups.entries.map (·.2)).insertionSort fun r r' => r'.time ≤ r.time
    return (rollups.take limit).reverse.map fun r => r.reports.lookup a

end Db

/-! ### The registry on Ethereum -/

/-- What the registry has for an endpoint. -/
structure ServiceEndpoint where
  blockNumber : Int
  delegateWallet : String
deriving DecidableEq

inductive RegistryError where
  /-- `connect.CodeNotFound` -/
  | notFound
  | other (msg : String)
deriving DecidableEq

/-- `big.Int.SetString` in base 10. -/
def bigIntOfDecimal (s : String) : Option Int :=
  match s.toList with
  | '-' :: cs => (decimalDigits cs).map fun n => -(n : Int)
  | '+' :: cs => (decimalDigits cs).map Int.ofNat
  | cs => (decimalDigits cs).map Int.ofNat

/-- A node that attests, with what it reads outside the chain. -/
structure Attestor where
  core : Server
  /-- `config.ValidatorPurgeMinValidators` -/
  purgeMinValidators : Int
  /-- `eth.GetRegisteredEndpointInfo` -/
  getRegisteredEndpointInfo : String → Except RegistryError ServiceEndpoint

/-- The errors of the endpoint: those it returns as they are, and those with `CodeInternal`. -/
inductive AttestError where
  | plain (e : GoError)
  | internal (msg : String)
deriving DecidableEq

/-- `GetDeregistrationAttestationResponse` -/
structure DeregistrationAttestation where
  signature : String
  deregistration : ValidatorDeregistration
deriving DecidableEq

namespace Attestor

variable (a : Attestor)

/-- `ShouldPurgeValidatorForUnderperformance` -/
def shouldPurge (validatorAddress : String) : Except GoError Bool :=
  if a.core.committed.totalValidators ≤ a.purgeMinValidators then .ok false
  else do
    let rollups ← (a.core.read (Db.getRecentRollupsForNode validatorPurgeSLAInterval
      validatorAddress)).mapError
      (GoError.wrap s!"could not get recent rollups for node {validatorAddress}")
    -- without a report the validator was not registered in the interval
    return rollups.any Option.isSome && rollups.all fun blocks => !decide (0 < blocks.getD 0)

def isNodeRegisteredOnEthereum (endpoint delegateWallet : String) (ethBlock : Int) :
    Except GoError Bool :=
  match a.getRegisteredEndpointInfo endpoint with
  | .error .notFound => .ok false
  | .error (.other e) =>
    .error (.plain (s!"could check registration status for node at {endpoint} with address " ++
      delegateWallet ++ ": " ++ e))
  | .ok se => .ok (decide (se.blockNumber = ethBlock ∧ se.delegateWallet = delegateWallet))

/-- The registration of a row on Ethereum, at the block the row names. -/
def registered (node : ValidatorRow) : Except AttestError Bool :=
  match bigIntOfDecimal node.ethBlock.val with
  | none =>
    .error (.plain (.plain ("could not format eth block '" ++ node.ethBlock.val ++
      "' for node '" ++ node.endpoint.val ++ "'")))
  | some ethBlock =>
    (a.isNodeRegisteredOnEthereum node.endpoint.val node.ethAddress.val
      (wrapInt64 ethBlock)).mapError fun _ => .internal "could not attest to node deregistration"

/-- The signature of the node under a deregistration, as valid in the next block. -/
def signDeregistration (dereg : ValidatorDeregistration) : Except AttestError String := do
  let bytes ← (a.core.validatorAttestationBytes (.validatorDeregistration dereg)
    (a.core.cache.currentHeight + 1)).mapError .plain
  (Server.text "" (a.core.ext.ethSign bytes)).mapError .plain

def nodeOf (cometAddress : String) : Except GoError ValidatorRow :=
  (a.core.readOne (Db.getRegisteredNodeByCometAddress a.core.ext.rows cometAddress)).mapError
    (GoError.wrap s!"could not attest deregistration for '{cometAddress}'")

def getDeregistrationAttestation (request : Option ValidatorDeregistration) :
    Except AttestError DeregistrationAttestation :=
  match request with
  | none => .error (.plain (.plain "empty deregistration attestation"))
  | some dereg => do
    let node ← (a.nodeOf dereg.cometAddress).mapError .plain
    let registered ← a.registered node
    let shouldPurge ← (a.shouldPurge dereg.cometAddress).mapError
      fun _ => .internal "could not attest to node deregistration"
    refuseIf (registered = true ∧ shouldPurge = false)
      (.internal "could not attest to node deregistration")
    let sig ← a.signDeregistration dereg
    return ⟨sig, dereg⟩

def buildDeregistration (node : ValidatorRow) (remove : Bool) : Option ValidatorDeregistration :=
  (base64Decode node.cometPubKey.val).map fun pubKey =>
    { cometAddress := node.cometAddress.val
      pubKey := pubKey
      deadline := a.core.cache.currentHeight + 120
      remove := remove }

/-! ### What a signature stands for -/

/-- A deadline the chain accepts at the current height. -/
def InWindow (deadline : Int) : Prop :=
  a.core.cache.currentHeight ≤ deadline ∧
    deadline ≤ a.core.cache.currentHeight + maxDeregistrationAttestationValidity

/-- The deregistration is tied to a reason to sign it. -/
structure Warranted (node : ValidatorRow) (dereg : ValidatorDeregistration) : Prop where
  reason : a.registered node = .ok false ∨
    (a.shouldPurge dereg.cometAddress = .ok true ∧ dereg.remove = false)
  key : base64Decode node.cometPubKey.val = some dereg.pubKey
  deadline : a.InWindow dereg.deadline
  expires : ∀ (core : Server) (tx : SignedTransaction) (signers : List String) (height : Int),
    a.core.cache.currentHeight + maxDeregistrationAttestationValidity < height →
      core.isValidDeregisterNodeAttestation tx dereg signers height ≠ .ok ()

/-- The request asks for no more than the state gives a reason for: a removal only off Ethereum,
under the key of the row, for a time the chain accepts. -/
structure Apt (node : ValidatorRow) (dereg : ValidatorDeregistration) : Prop where
  removal : dereg.remove = true → a.registered node = .ok false
  key : base64Decode node.cometPubKey.val = some dereg.pubKey
  deadline : a.InWindow dereg.deadline

variable {a}

theorem signed_eq_ok {dereg : ValidatorDeregistration} {resp : DeregistrationAttestation}
    {node : ValidatorRow} (h : a.getDeregistrationAttestation (some dereg) = .ok resp)
    (hnode : a.nodeOf dereg.cometAddress = .ok node) :
    ∃ registered purge, a.registered node = .ok registered ∧
      a.shouldPurge dereg.cometAddress = .ok purge ∧ (registered = false ∨ purge = true) ∧
      resp.deregistration = dereg := by
  obtain ⟨node', hnode', h⟩ := except_bind_eq_ok.mp h
  rw [hnode] at hnode'
  cases hnode'
  obtain ⟨registered, hregistered, h⟩ := except_bind_eq_ok.mp h
  obtain ⟨purge, hpurge, h⟩ := except_bind_eq_ok.mp h
  obtain ⟨hreason, h⟩ := refuseIf_bind_eq_ok.mp h
  obtain ⟨sig, -, h⟩ := except_bind_eq_ok.mp h
  cases h
  refine ⟨registered, purge, hregistered, except_mapError_eq_ok.mp hpurge, ?_, rfl⟩
  cases registered <;> cases purge <;> simp_all

theorem not_valid_after_deadline {core : Server} {tx : SignedTransaction}
    {dereg : ValidatorDeregistration} {signers : List String} {height : Int}
    (h : dereg.deadline < height) :
    core.isValidDeregisterNodeAttestation tx dereg signers height ≠ .ok () := by
  intro hvalid
  obtain ⟨_, -, hvalid⟩ := except_bind_eq_ok.mp hvalid
  obtain ⟨hdeadline, -⟩ := refuseIf_bind_eq_ok.mp hvalid
  exact hdeadline (.inl h)

/-- Whatever the endpoint signs is warranted if and only if the request was apt. -/
theorem warranted_iff_apt {dereg : ValidatorDeregistration} {resp : DeregistrationAttestation}
    {node : ValidatorRow} (h : a.getDeregistrationAttestation (some dereg) = .ok resp)
    (hnode : a.nodeOf dereg.cometAddress = .ok node) :
    a.Warranted node resp.deregistration ↔ a.Apt node dereg := by
  obtain ⟨registered, purge, hregistered, hpurge, hreason, hresp⟩ := signed_eq_ok h hnode
  rw [hresp]
  constructor
  · intro hw
    refine ⟨fun hremove => ?_, hw.key, hw.deadline⟩
    rcases hw.reason with hoff | ⟨-, hjail⟩
    · exact hoff
    · rw [hremove] at hjail
      cases hjail
  · intro hapt
    refine ⟨?_, hapt.key, hapt.deadline, fun core tx signers height hlate => ?_⟩
    · cases hremove : dereg.remove with
      | true => exact .inl (hapt.removal hremove)
      | false =>
        rcases hreason with rfl | rfl
        · exact .inl hregistered
        · exact .inr ⟨hpurge, rfl⟩
    · exact not_valid_after_deadline (lt_of_le_of_lt hapt.deadline.2 hlate)

theorem apt_buildDeregistration {node : ValidatorRow} {remove : Bool}
    {dereg : ValidatorDeregistration} (h : a.buildDeregistration node remove = some dereg)
    (hremove : remove = true → a.registered node = .ok false) : a.Apt node dereg := by
  obtain ⟨pubKey, hkey, rfl⟩ := Option.map_eq_some_iff.mp h
  refine ⟨hremove, hkey, ?_⟩
  unfold InWindow maxDeregistrationAttestationValidity
  constructor
  · dsimp only
    omega
  · dsimp only
    omega

/-! ### A validator that is down -/

open Server in
def idleDb : Db :=
  { Db.empty with
    validators := [firstNode, secondNode]
    sla := { Db.empty.sla with
      rollups := AList.insert 1 ⟨⟨"", nulFree_empty⟩, 0, 15, 1700000000000000,
        AList.insert firstNode.cometAddress 0 ∅⟩ ∅ } }

def jailing : ValidatorDeregistration where
  cometAddress := "21FE31DFA154A261626BF854046FD2271B7BED4B"
  pubKey := bigEndian 32 0xd75a980182b10ab7d54bfed3c964073a0ee172f3daa62325af021a68f707511a
  deadline := 120
  remove := false

def removal : ValidatorDeregistration :=
  { jailing with deadline := 1000000000, remove := true }

def attestationCalls : Externals.Recorded where
  marshal :=
    [(.attestationBody (.validatorDeregistration jailing),
        bigEndian 40 0xa283231464533314446413135344132363136323642463835343034364644323237314237424544 ++
        bigEndian 38 0x34421220d75a980182b10ab7d54bfed3c964073a0ee172f3daa62325af021a68f707511a1878),
      (.attestationBody (.validatorDeregistration removal),
        bigEndian 40 0xa283231464533314446413135344132363136323642463835343034364644323237314237424544 ++
        bigEndian 40 0x34421220d75a980182b10ab7d54bfed3c964073a0ee172f3daa62325af021a68f707511a188094eb ++
        bigEndian 4 0xdc032001)]
  sha256 :=
    [(bigEndian 40 0x6f70656e617564696f2f6174746573746174696f6e2f76310000000000000000106f70656e6175 ++
        bigEndian 40 0x64696f2d6465766e6574636f72652e76312e56616c696461746f724465726567697374726174696f ++
        bigEndian 40 0x6e000a28323146453331444641313534413236313632364246383534303436464432323731423742 ++
        bigEndian 40 0x454434421220d75a980182b10ab7d54bfed3c964073a0ee172f3daa62325af021a68f707511a1878,
        Externals.digest 0xce4cd5170ae0e767e8923d2080f3e094ad86dca1899c8ac5c84d8067edd5f0f1),
      (bigEndian 40 0x6f70656e617564696f2f6174746573746174696f6e2f76310000000000000000106f70656e6175 ++
        bigEndian 40 0x64696f2d6465766e6574636f72652e76312e56616c696461746f724465726567697374726174696f ++
        bigEndian 40 0x6e000a28323146453331444641313534413236313632364246383534303436464432323731423742 ++
        bigEndian 40 0x454434421220d75a980182b10ab7d54bfed3c964073a0ee172f3daa62325af021a68f707511a1880 ++
        bigEndian 6 0x94ebdc032001,
        Externals.digest 0xdd2ca5ab487d7aa53dd4af09d021f325db076ca68abbb534f5732899401f516e)]
  sign :=
    [(bigEndian 32 0xce4cd5170ae0e767e8923d2080f3e094ad86dca1899c8ac5c84d8067edd5f0f1,
        ⟨bigEndian 40 0x5678f9bcd80c5739bf5e9f710666765230795566da70821c8d06a491016efcd36f50fc2fc3ba0253 ++
          bigEndian 25 0xd593bdd3ddfbc125833cb8dc7dd6de966c997c6adf6e4ae600, by decide⟩),
      (bigEndian 32 0xdd2ca5ab487d7aa53dd4af09d021f325db076ca68abbb534f5732899401f516e,
        ⟨bigEndian 40 0xbd5e748e2ce4a698b079bd904833bfaebb3087df0ff5499cfb9bf77a23ba215f7101807cc886d888 ++
          bigEndian 25 0x378accdea264537b6a1cf78c9ab9d953fee5b473a52639400, by decide⟩)]

def attestor : Attestor where
  core := .devnet attestationCalls idleDb
  purgeMinValidators := 1
  getRegisteredEndpointInfo _ := .ok ⟨1, "0x7E5F4552091A69125d5DfCb7b8C2659029395Bdf"⟩

/-- The jailing that a peer asks for is warranted. -/
theorem warranted_jailing :
    attestor.buildDeregistration Server.firstNode false = some jailing ∧
      ∃ resp, attestor.getDeregistrationAttestation (some jailing) = .ok resp ∧
        attestor.Warranted Server.firstNode resp.deregistration := by
  have hbuild : attestor.buildDeregistration Server.firstNode false = some jailing := by
    decide +kernel
  have hnode : attestor.nodeOf jailing.cometAddress = .ok Server.firstNode := by decide +kernel
  have hsigned : (attestor.getDeregistrationAttestation (some jailing)).isOk = true := by
    decide +kernel
  cases hresp : attestor.getDeregistrationAttestation (some jailing) with
  | error e =>
    rw [hresp] at hsigned
    cases hsigned
  | ok resp =>
    refine ⟨hbuild, resp, rfl, (warranted_iff_apt hresp hnode).mpr ?_⟩
    exact apt_buildDeregistration hbuild fun h => by cases h

/-- A validator that is registered and only down is signed for removal, for as long as the request
says. -/
theorem signed_removal :
    attestor.nodeOf removal.cometAddress = .ok Server.firstNode ∧
      attestor.registered Server.firstNode = .ok true ∧
      attestor.core.cache.currentHeight + maxDeregistrationAttestationValidity <
        removal.deadline ∧
      attestor.getDeregistrationAttestation (some removal) = .ok
        ⟨"bd5e748e2ce4a698b079bd904833bfaebb3087df0ff5499cfb9bf77a23ba215f7101807cc886d888" ++
          "0378accdea264537b6a1cf78c9ab9d953fee5b473a52639400", removal⟩ ∧
      ¬ attestor.Warranted Server.firstNode removal := by
  have hregistered : attestor.registered Server.firstNode = .ok true := by decide +kernel
  refine ⟨by decide +kernel, hregistered, by decide +kernel, by decide +kernel, fun hw => ?_⟩
  rcases hw.reason with hoff | ⟨-, hjail⟩
  · rw [hregistered] at hoff
    cases hoff
  · cases hjail

end Attestor

end OpenAudio.Core
