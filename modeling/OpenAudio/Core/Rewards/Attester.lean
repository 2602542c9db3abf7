import OpenAudio.Core.Rewards.Claims
import OpenAudio.Core.Rewards.Rotations

/-!
# Attestations of reward claims

A node signs the bytes of a reward claim for whoever brings the signature of an authority over the
same bytes. There are two ways to ask. Over HTTP the authorities are those of the rewards in the
configuration. Over connect the reward is one of the chain, and its authorities are the list its
pool has at the moment, so that a rotation takes effect with the block that carries it.
-/

namespace OpenAudio.Core

/-- `Reward`; an authority is its address. -/
structure Reward where
  claimAuthorities : List String
  amount : UInt64
  rewardId : String

/-- `RewardAttester`, with the node's key behind `sign`. -/
structure RewardAttester where
  ext : Externals
  ethereumAddress : String
  rewards : List Reward

/-- What both endpoints answer with. -/
structure ClaimAttestation where
  owner : String
  attestation : String
deriving DecidableEq, Repr

def verifyClaim (ext : Externals) (claim : RewardClaim) (signature : String) :
    Except String String := do
  let claimData ← (claim.compile ext).mapError ("failed to compile claim: " ++ ·)
  let sigBytes ← RewardClaim.decodeAddress ext "failed to decode signature: " signature
  let pubKey ← (ext.sigToPub (ext.keccak256 claimData) sigBytes).mapError
    ("failed to recover public key: " ++ ·)
  return ext.checksumHex (ext.pubkeyToAddress pubKey)

def validClaimAuthority (rt : GoRuntime) (claimAuthorities : List String) (address : String) :
    Bool :=
  claimAuthorities.any fun authority => rt.equalFold authority address

namespace RewardAttester

variable (rs : RewardAttester)

def getRewardById (rewardID : String) : Except String Reward :=
  match rs.rewards.find? fun reward => reward.rewardId == rewardID with
  | some reward => .ok reward
  | none => .error s!"reward {rewardID} not found"

def validate (claim : RewardClaim) : Except String Unit := do
  let reward ← rs.getRewardById claim.rewardID
  refuseIf (claim.recipientEthAddress = "") "missing recipient eth address"
  refuseIf (claim.specifier = "") "missing specifier"
  refuseIf (claim.amount = 0) "missing amount"
  refuseIf (reward.amount < claim.amount)
    s!"amount {claim.amount} exceeds reward amount {reward.amount}"

def authenticate (claim : RewardClaim) (signature : String) : Except String Unit := do
  let reward ← rs.getRewardById claim.rewardID
  let recoveredSigner ← verifyClaim rs.ext claim signature
  refuseIf (validClaimAuthority rs.ext.rt reward.claimAuthorities recoveredSigner = false)
    s!"address {recoveredSigner} is not a claim authority for reward {reward.rewardId}"

def attest (claim : RewardClaim) : Except String String := do
  let claimData ← (claim.compile rs.ext).mapError ("failed to get attestation bytes: " ++ ·)
  let signatureBytes ← (rs.ext.sign (rs.ext.keccak256 claimData)).mapError
    ("failed to sign hash: " ++ ·)
  return "0x" ++ encodeHex signatureBytes

/-- Validate, authenticate and attest, as both endpoints do; they differ in how they report the
errors of the three. -/
def handle {ε : Type} (invalid denied failed : String → ε) (claim : RewardClaim)
    (signature : String) : Except ε ClaimAttestation := do
  (rs.validate claim).mapError invalid
  (rs.authenticate claim signature).mapError denied
  let attestation ← (rs.attest claim).mapError failed
  return ⟨rs.ethereumAddress, attestation⟩

end RewardAttester

/-! ### The endpoint over HTTP -/

/-- The parameters of `/core/rewards/attestation`. -/
structure ClaimQuery where
  ethRecipientAddress : String
  rewardID : String
  specifier : String
  oracleAddress : String
  signature : String
  amount : String

/-- `strconv.ParseUint(s, 10, 64)`. -/
def parseUint64 (s : String) : Option UInt64 :=
  ((decimalDigits s.toList).filter fun n => decide (n < 2 ^ 64)).map UInt64.ofNat

def ClaimQuery.claim (q : ClaimQuery) (amount : UInt64) : RewardClaim where
  recipientEthAddress := q.ethRecipientAddress
  amount := amount
  rewardID := q.rewardID
  rewardAddress := ""
  specifier := q.specifier
  claimAuthority := q.oracleAddress
  decimals := 0

/-- `Server.getRewardAttestation`, over the attester of the rewards in the configuration. An error
is the status and the text of the answer. -/
def RewardAttester.getRewardAttestation (rs : RewardAttester) (q : ClaimQuery) :
    Except (Nat × String) ClaimAttestation := do
  refuseIf (q.ethRecipientAddress = "") (400, "eth_recipient_address is required")
  refuseIf (q.rewardID = "") (400, "reward_id is required")
  refuseIf (q.specifier = "") (400, "specifier is required")
  refuseIf (q.oracleAddress = "") (400, "oracle_address is required")
  refuseIf (q.signature = "") (400, "signature is required")
  refuseIf (q.amount = "") (400, "amount is required")
  match parseUint64 q.amount with
  | none => .error (400, "amount is invalid")
  | some amount =>
    rs.handle (fun e => (400, e)) (fun e => (401, e)) (fun e => (500, e)) (q.claim amount)
      q.signature

/-! ### The endpoint over connect -/

/-- `GetRewardAttestationRequest`. -/
structure ClaimRequest where
  ethRecipientAddress : String
  rewardAddress : String
  specifier : String
  claimAuthority : String
  signature : String
  amount : UInt64
  rewardId : String
  amountDecimals : UInt32

/-- The claim of a request. It does not carry the address of the reward. -/
def ClaimRequest.claim (req : ClaimRequest) : RewardClaim where
  recipientEthAddress := trimSpace req.ethRecipientAddress
  amount := req.amount
  rewardID := req.rewardId
  rewardAddress := ""
  specifier := req.specifier
  claimAuthority := trimSpace req.claimAuthority
  decimals := req.amountDecimals

/-- The codes of the errors of `GetRewardAttestation`. -/
inductive ClaimCode where
  | invalidArgument
  | notFound
  | permissionDenied
  | internal
  | unavailable
deriving DecidableEq, Repr

/-- The reward of the chain as an attester has it: its authorities are those of its pool. -/
def Db.RewardWithPool.asReward (r : Db.RewardWithPool) : Reward where
  claimAuthorities := r.claimAuthorities.map (·.val)
  amount := .ofInt r.reward.amount
  rewardId := r.reward.rewardId.val

namespace CoreService

variable (c : CoreService)

def getRewardAttestation (req : ClaimRequest) :
    Except (ClaimCode × String) ClaimAttestation := do
  let some core := c.core | .error (.unavailable, "core service not ready")
  refuseIf (trimSpace req.ethRecipientAddress = "")
    (.invalidArgument, "eth_recipient_address is required")
  let rewardAddress := trimSpace req.rewardAddress
  refuseIf (rewardAddress = "") (.invalidArgument, "reward_address is required")
  refuseIf (req.specifier = "") (.invalidArgument, "specifier is required")
  refuseIf (256 < req.specifier.utf8ByteSize) (.invalidArgument, "specifier too long")
  refuseIf (trimSpace req.claimAuthority = "") (.invalidArgument, "claim_authority is required")
  refuseIf (req.signature = "") (.invalidArgument, "signature is required")
  refuseIf (req.amount = 0) (.invalidArgument, "amount is required")
  refuseIf (req.rewardId = "") (.invalidArgument, "reward_id is required")
  refuseIf (18 < req.amountDecimals) (.invalidArgument, "amount_decimals too large; max 18")
  let found ← (core.read (Db.getReward core.ext.rows rewardAddress)).mapError
    fun e => (.internal, "failed to load reward: " ++ e.message)
  let some dbReward := found | .error (.notFound, "programmatic reward not found")
  let attester : RewardAttester := ⟨core.ext, c.ownerWallet, [dbReward.asReward]⟩
  attester.handle (fun e => (.invalidArgument, "claim validation failed: " ++ e))
    (fun e => (.permissionDenied, "authentication failed: " ++ e))
    (fun e => (.internal, "attestation generation failed: " ++ e)) req.claim req.signature

end CoreService

/-- A call of one of the two endpoints. -/
inductive ClaimCall where
  | http (q : ClaimQuery)
  | connect (req : ClaimRequest)

/-- The claim a call is about, if its amount is a number, with the signature it brings. -/
def ClaimCall.claim : ClaimCall → Option (RewardClaim × String)
  | http q => (parseUint64 q.amount).map fun amount => (q.claim amount, q.signature)
  | connect req => some (req.claim, req.signature)

/-- What the node answers a call with, unless it is refused. -/
def CoreService.answer (c : CoreService) (configured : RewardAttester) :
    ClaimCall → Option ClaimAttestation
  | .http q => (configured.getRewardAttestation q).toOption
  | .connect req => (c.getRewardAttestation req).toOption

/-! ### What an attestation vouches for -/

namespace RewardClaim

variable (claim : RewardClaim)

/-- The signature over the claim's bytes is that of a key whose address the text names. -/
def SignedFor (ext : Externals) (signature text : String) : Prop :=
  ∃ bytes sig key, claim.compile ext = .ok bytes ∧
    decodeHex (trimPrefix signature "0x") = some sig ∧
    ext.sigToPub (ext.keccak256 bytes) sig = .ok key ∧
    namedAddress text = some (ext.pubkeyToAddress key)

/-- The attestation is the node's signature over the claim's bytes. -/
def AttestedBy (ext : Externals) (attestation : String) : Prop :=
  ∃ bytes sig, claim.compile ext = .ok bytes ∧ ext.sign (ext.keccak256 bytes) = .ok sig ∧
    attestation = "0x" ++ encodeHex sig

/-- The claim is one on the reward, of an amount the reward allows. -/
def Claims (reward : Reward) : Prop :=
  reward.rewardId = claim.rewardID ∧ claim.amount ≠ 0 ∧ claim.amount ≤ reward.amount

variable {claim} {ext : Externals} {signature : String}

theorem signedFor_of_verifyClaim {address text : String}
    (h : verifyClaim ext claim signature = .ok address)
    (hfold : ext.rt.equalFold text address = true) : claim.SignedFor ext signature text := by
  obtain ⟨bytes, hbytes, h⟩ := except_bind_eq_ok.mp h
  obtain ⟨sig, hsig, h⟩ := except_bind_eq_ok.mp h
  obtain ⟨key, hkey, h⟩ := except_bind_eq_ok.mp h
  cases h
  have hnamed := namedAddress_checksumHex ext (length_pubkeyToAddress ext key)
  refine ⟨bytes, sig, key, except_mapError_eq_ok.mp hbytes, decodeAddress_eq_ok.mp hsig,
    except_mapError_eq_ok.mp hkey, ?_⟩
  -- the comparison is the one the eligible senders are searched with
  have hspells : (SenderGate.audio []).Spells ext.rt text
      (ext.checksumHex (ext.pubkeyToAddress key)) := hfold
  exact hspells.namedAddress hnamed

end RewardClaim

namespace RewardAttester

variable {rs : RewardAttester} {claim : RewardClaim} {signature : String}

theorem getRewardById_eq_ok {rewardID : String} {reward : Reward}
    (h : rs.getRewardById rewardID = .ok reward) :
    reward ∈ rs.rewards ∧ reward.rewardId = rewardID := by
  unfold getRewardById at h
  split at h
  · rename_i hfind
    cases h
    exact ⟨List.mem_of_find?_eq_some hfind, by simpa using List.find?_some hfind⟩
  · cases h

/-- An attestation is given for a claim on one of the rewards that an authority of this reward has
signed. -/
theorem handle_eq_ok {ε : Type} {invalid denied failed : String → ε} {res : ClaimAttestation}
    (h : rs.handle invalid denied failed claim signature = .ok res) :
    ∃ reward ∈ rs.rewards, claim.Claims reward ∧
      (∃ text ∈ reward.claimAuthorities, claim.SignedFor rs.ext signature text) ∧
      claim.AttestedBy rs.ext res.attestation := by
  obtain ⟨_, hvalid, h⟩ := except_bind_eq_ok.mp h
  obtain ⟨_, hauth, h⟩ := except_bind_eq_ok.mp h
  obtain ⟨attestation, hattest, h⟩ := except_bind_eq_ok.mp h
  cases h
  obtain ⟨reward, hreward, hvalid⟩ := except_bind_eq_ok.mp (except_mapError_eq_ok.mp hvalid)
  obtain ⟨reward', hreward', hauth⟩ := except_bind_eq_ok.mp (except_mapError_eq_ok.mp hauth)
  obtain rfl : reward = reward' := Except.ok.inj (hreward.symm.trans hreward')
  obtain ⟨hmem, hid⟩ := getRewardById_eq_ok hreward
  simp only [refuseIf_bind_eq_ok, refuseIf_eq_ok] at hvalid
  obtain ⟨-, -, hamount, hbound⟩ := hvalid
  obtain ⟨address, haddress, hauth⟩ := except_bind_eq_ok.mp hauth
  rw [refuseIf_eq_ok, Bool.not_eq_false, validClaimAuthority, List.any_eq_true] at hauth
  obtain ⟨text, htext, hfold⟩ := hauth
  obtain ⟨bytes, hbytes, hattest⟩ := except_bind_eq_ok.mp (except_mapError_eq_ok.mp hattest)
  obtain ⟨sig, hsig, hattest⟩ := except_bind_eq_ok.mp hattest
  cases hattest
  exact ⟨reward, hmem, ⟨hid, hamount, UInt64.not_lt.mp hbound⟩,
    ⟨text, htext, RewardClaim.signedFor_of_verifyClaim haddress hfold⟩,
    bytes, sig, except_mapError_eq_ok.mp hbytes, except_mapError_eq_ok.mp hsig, rfl⟩

theorem getRewardAttestation_eq_ok {q : ClaimQuery} {res : ClaimAttestation}
    (h : rs.getRewardAttestation q = .ok res) :
    ∃ amount, parseUint64 q.amount = some amount ∧
      ∃ reward ∈ rs.rewards, (q.claim amount).Claims reward ∧
        (∃ text ∈ reward.claimAuthorities, (q.claim amount).SignedFor rs.ext q.signature text) ∧
        (q.claim amount).AttestedBy rs.ext res.attestation := by
  simp only [getRewardAttestation, refuseIf_bind_eq_ok] at h
  obtain ⟨-, -, -, -, -, -, h⟩ := h
  split at h
  · cases h
  · rename_i amount hamount
    exact ⟨amount, hamount, handle_eq_ok h⟩

end RewardAttester

/-! ### How an authority came into a list -/

/-- The text is in the list of the pool. -/
def Listed (pools : Table PgText (List PgText)) (rm a : PgText) : Prop :=
  ∃ list, pools.lookup rm = some list ∧ a ∈ list

namespace Server

/-- The transaction puts the text in the list of the pool: it makes the pool, or its signer is in
the list that it replaces. -/
def Execution.Enlists (e : Execution) (rm a : PgText) : Prop :=
  ∃ stx envelope body signer, e.node.ext.unmarshalSigned e.tx = some stx ∧
    stx.transaction = some (.rewardPool envelope) ∧
    e.node.SignedBy e.req.height envelope body signer ∧
    ((∃ msg, body.action = some (.create msg) ∧ msg.rewardsManagerPubkey = rm.val ∧
        a.val ∈ canonicalAuthorities e.node.rt msg.authorities ∧
        e.node.checkPoolMessage envelope body msg signer = .ok () ∧
        e.before.view.rewards.pools.lookup rm = none) ∨
      ∃ msg, body.action = some (.setAuthorities msg) ∧ msg.rewardsManagerPubkey = rm.val ∧
        a.val ∈ canonicalAuthorities e.node.rt msg.authorities ∧
        ∃ x, Listed e.before.view.rewards.pools rm x ∧ x.val = canonicalSigner e.node.rt signer)

variable {s : Server}

theorem mem_of_stored {rt : GoRuntime} {addrs : List String} {list : List PgText} {a : PgText}
    (h : list.map PgText.val = canonicalAuthorities rt addrs) (ha : a ∈ list) :
    a.val ∈ canonicalAuthorities rt addrs := by
  rw [← h]
  exact List.mem_map_of_mem ha

theorem Execution.listed_of_poolStep {e : Execution} {stx : SignedTransaction}
    {envelope : RewardPoolMessage} {pools' : Table PgText (List PgText)} {rm a : PgText}
    (hdecode : e.node.ext.unmarshalSigned e.tx = some stx)
    (hbody : stx.transaction = some (.rewardPool envelope))
    (h : e.node.PoolStep e.req.height envelope e.before.view.rewards.pools pools')
    (ha : Listed pools' rm a) : Listed e.before.view.rewards.pools rm a ∨ e.Enlists rm a := by
  obtain ⟨list, hlist, ha⟩ := ha
  cases h with
  | same h =>
    rw [h] at hlist
    exact .inl ⟨list, hlist, ha⟩
  | created signed action check manager stored isNew sets =>
    rcases sets.cases hlist with ⟨rfl, rfl⟩ | ⟨-, hold⟩
    · exact .inr ⟨stx, envelope, _, _, hdecode, hbody, signed,
        .inl ⟨_, action, manager.symm, mem_of_stored stored ha, check, isNew⟩⟩
    · exact .inl ⟨list, hold, ha⟩
  | rotated signed action rotates sets =>
    rcases sets.cases hlist with ⟨rfl, rfl⟩ | ⟨-, hold⟩
    · obtain ⟨x, hx, hsigner⟩ := rotates.listed
      exact .inr ⟨stx, envelope, _, _, hdecode, hbody, signed, .inr ⟨_, action,
        rotates.manager.symm, mem_of_stored rotates.stored ha, x, ⟨_, rotates.found, hx⟩, hsigner⟩⟩
    · exact .inl ⟨list, hold, ha⟩

/-- The step: what a list has after a transaction it had before, or the transaction put it there. -/
theorem Execution.listed_after (e : Execution) {rm a : PgText}
    (hcurrent : ∀ stx msg, e.node.ext.unmarshalSigned e.tx = some stx →
      stx.transaction = some (.reward msg) → msg.body ≠ none)
    (ha : Listed e.after.view.rewards.pools rm a) :
    Listed e.before.view.rewards.pools rm a ∨ e.Enlists rm a := by
  rcases e.poolStep_or_eq hcurrent with heq | ⟨stx, envelope, hdecode, hbody, hstep⟩
  · rw [heq] at ha
    exact .inl ha
  · exact listed_of_poolStep hdecode hbody hstep ha

theorem listed_progress {db : Db} {b : Block} {bs : List Block}
    (haccepts : (s.voter db b).Accepts b.req) {n : Nat} (hn : n ≤ b.req.txs.length)
    {rm a : PgText} (ha : Listed ((s.executor db b).progress b.req n).txn.view.rewards.pools rm a) :
    Listed db.rewards.pools rm a ∨ ∃ e ∈ s.executions db (b :: bs), e.Enlists rm a := by
  induction n with
  | zero =>
    rw [executor_start db b] at ha
    exact .inl ha
  | succ n ih =>
    have htx : b.req.txs[n]? = some (b.req.txs.get ⟨n, hn⟩) := by simp
    rw [(s.executor db b).txn_progress_succ b.req htx] at ha
    let e : Execution := ⟨s.executor db b, b.req, n, b.req.txs.get ⟨n, hn⟩,
      ((s.executor db b).progress b.req n).txn⟩
    have he : e ∈ s.executions db (b :: bs) := by
      apply List.mem_append_left
      exact List.mem_map.mpr ⟨(_, n), List.mem_zipIdx_iff_getElem?.mpr htx, rfl⟩
    rcases e.listed_after (fun stx msg hdecode hbody =>
      haccepts.reward_body (List.mem_of_getElem? htx) hdecode hbody) ha with hbefore | henlists
    · exact ih (by omega) hbefore
    · exact .inr ⟨e, he, henlists⟩

/-- The run: who is in a list at its end was there at its start, or a transaction of it put them
there. -/
theorem listed_commitAll {db db' : Db} {bs : List Block}
    (hrun : s.EachBlock (fun db b => (s.voter db b).Accepts b.req) db bs)
    (hend : s.commitAll db bs = some db') {rm a : PgText} (ha : Listed db'.rewards.pools rm a) :
    Listed db.rewards.pools rm a ∨ ∃ e ∈ s.executions db bs, e.Enlists rm a := by
  induction bs generalizing db with
  | nil =>
    cases hend
    exact .inl ha
  | cons b bs ih =>
    obtain ⟨hb, hrest⟩ := hrun
    obtain ⟨db₁, hdb₁, hend⟩ := Option.bind_eq_some_iff.mp hend
    rcases ih (hrest db₁ hdb₁) hend with hlisted | ⟨e, he, henlists⟩
    · rw [(blockGoverns_of_accepts hb).commits db₁ hdb₁] at hlisted
      exact listed_progress hb le_rfl hlisted
    · refine .inr ⟨e, List.mem_append_right _ ?_, henlists⟩
      rw [hdb₁]
      exact he

end Server

/-! ### The attestations of a node -/

namespace CoreService

variable {c : CoreService}

theorem getReward_eq_ok {rows : RowChoice} {address : String} {db : Db} {found : Db.RewardWithPool}
    (h : Db.getReward rows address db = .ok (some found)) :
    found.reward ∈ db.rewards.rewards ∧ found.reward.address.val = address ∧
      ∀ a ∈ found.claimAuthorities, ∃ rm,
        found.reward.rewardsManagerPubkey = some rm ∧ Listed db.rewards.pools rm a := by
  obtain ⟨text, htext, h⟩ := except_bind_eq_ok.mp h
  obtain ⟨row, hrow, rfl⟩ := Option.map_eq_some_iff.mp (Except.ok.inj h)
  have hmem := List.mem_of_mem_filter (rows.mem_of_pick hrow)
  rw [List.mem_filter, beq_iff_eq] at hmem
  refine ⟨hmem.1, by rw [hmem.2, PgText.val_of_ofString htext], fun a ha => ?_⟩
  cases hlist : row.rewardsManagerPubkey.bind db.rewards.pools.lookup with
  | none => simp [hlist] at ha
  | some list =>
    rw [hlist] at ha
    obtain ⟨rm, hrm, hlist⟩ := Option.bind_eq_some_iff.mp hlist
    exact ⟨rm, hrm, list, hlist, ha⟩

theorem getRewardAttestation_eq_ok {core : Server} (hcore : c.core = some core)
    {req : ClaimRequest} {res : ClaimAttestation} (h : c.getRewardAttestation req = .ok res) :
    ∃ found : Db.RewardWithPool, Db.getReward core.ext.rows (trimSpace req.rewardAddress)
        core.committed = .ok (some found) ∧
      req.claim.Claims found.asReward ∧
      (∃ a ∈ found.claimAuthorities, req.claim.SignedFor core.ext req.signature a.val) ∧
      req.claim.AttestedBy core.ext res.attestation := by
  simp only [getRewardAttestation, hcore, refuseIf_bind_eq_ok] at h
  obtain ⟨-, -, -, -, -, -, -, -, -, h⟩ := h
  obtain ⟨found, hfound, h⟩ := except_bind_eq_ok.mp h
  have hfound := except_mapError_eq_ok.mp (except_mapError_eq_ok.mp hfound)
  cases found with
  | none => cases h
  | some found =>
    obtain ⟨reward, hreward, hclaims, ⟨text, htext, hsigned⟩, hattested⟩ :=
      RewardAttester.handle_eq_ok h
    obtain rfl : reward = found.asReward := List.mem_singleton.mp hreward
    obtain ⟨a, ha, rfl⟩ := List.mem_map.mp htext
    exact ⟨found, hfound, hclaims, ⟨a, ha, hsigned⟩, hattested⟩

/-- What an attestation goes back to: a key has signed the same bytes, for an amount the reward
allows. Over HTTP the key is that of an authority of a configured reward. Over connect its address
is in the list the pool of the reward has at the end of the run, and it was there when the run
began or a transaction of the run put it there. -/
def Traces (s : Server) (db : Db) (bs : List Server.Block) (db' : Db) (configured : RewardAttester)
    (call : ClaimCall) (attestation : String) : Prop :=
  ∃ claim signature text, call.claim = some (claim, signature) ∧
    claim.SignedFor s.ext signature text ∧ claim.AttestedBy s.ext attestation ∧
    ((∃ q, call = .http q ∧
        ∃ reward ∈ configured.rewards, claim.Claims reward ∧ text ∈ reward.claimAuthorities) ∨
      ∃ req, call = .connect req ∧ ∃ found : Db.RewardWithPool,
        found.reward ∈ db'.rewards.rewards ∧
        found.reward.address.val = trimSpace req.rewardAddress ∧ claim.Claims found.asReward ∧
        ∃ rm a, found.reward.rewardsManagerPubkey = some rm ∧ a.val = text ∧
          Listed db'.rewards.pools rm a ∧
          (Listed db.rewards.pools rm a ∨ ∃ e ∈ s.executions db bs, e.Enlists rm a))

/-- Whatever a node attests after a run of accepted blocks goes back to an authority. -/
theorem attestations_traced {s : Server} {db db' : Db} {bs : List Server.Block}
    (hrun : s.EachBlock (fun db b => (s.voter db b).Accepts b.req) db bs)
    (hend : s.commitAll db bs = some db') {cache : Cache} (hcore : c.core = some (s.on db' cache))
    {configured : RewardAttester} (hext : configured.ext = s.ext) {call : ClaimCall}
    {res : ClaimAttestation} (h : c.answer configured call = some res) :
    Traces s db bs db' configured call res.attestation := by
  cases call with
  | http q =>
    obtain ⟨amount, hamount, reward, hreward, hclaims, ⟨text, htext, hsigned⟩, hattested⟩ :=
      RewardAttester.getRewardAttestation_eq_ok (except_toOption_eq_some.mp h)
    rw [hext] at hsigned hattested
    exact ⟨q.claim amount, q.signature, text, by simp [ClaimCall.claim, hamount], hsigned,
      hattested, .inl ⟨q, rfl, reward, hreward, hclaims, htext⟩⟩
  | connect req =>
    obtain ⟨found, hfound, hclaims, ⟨a, ha, hsigned⟩, hattested⟩ :=
      getRewardAttestation_eq_ok hcore (except_toOption_eq_some.mp h)
    obtain ⟨hrow, haddress, hlisted⟩ := getReward_eq_ok hfound
    obtain ⟨rm, hrm, hlisted⟩ := hlisted a ha
    exact ⟨req.claim, req.signature, a.val, rfl, hsigned, hattested, .inr ⟨req, rfl, found, hrow,
      haddress, hclaims, rm, a, hrm, rfl, hlisted, Server.listed_commitAll hrun hend hlisted⟩⟩

end CoreService

/-! ### A claim the second key signs -/

def secondClaim : ClaimRequest where
  ethRecipientAddress := "0x1eff47bc3a10a45d4b230b5d10e37751fe6aa718"
  rewardAddress := "0x01"
  specifier := "37364e80"
  claimAuthority := "0x2B5AD5c4795c026514f8317c7a215E218DcCD6cF"
  signature := "0x3ea2dc39690cb851a988b1b40ea5274c30f1c1930ce03be3777fde1b5d9473182e" ++
    "dc3b9485b1cbcd559adfcbaf8b645d28749a1e5b3306d2c4261100d739690901"
  amount := 5
  rewardId := "b"
  amountDecimals := 0

def secondClaimDigest : Externals.Digest :=
  Externals.digest 0x8f8a76fe075eb797271a26fbedc8a0a0378b37595e2c986bbe7c7b869ee3a50d

def secondClaimCalls : Externals.Recorded where
  keccak256 :=
    [(bigEndian 40 0x1eff47bc3a10a45d4b230b5d10e37751fe6aa7185f0065cd1d000000005f623a3337333634653830 ++
        bigEndian 21 0x5f2b5ad5c4795c026514f8317c7a215e218dccd6cf, secondClaimDigest)]
  sigToPub :=
    [((secondClaimDigest.val,
      bigEndian 40 0x3ea2dc39690cb851a988b1b40ea5274c30f1c1930ce03be3777fde1b5d9473182edc3b9485b1cbcd ++
        bigEndian 25 0x559adfcbaf8b645d28749a1e5b3306d2c4261100d739690901), Server.secondKey.pubKey)]
  sign :=
    [(secondClaimDigest.val,
      ⟨bigEndian 40 0xe4d6b1f76f8f2dc93e2dfc272739f4e608209171bfc610ff95e11f0da4310d7317b6a11cdeccc32a ++
        bigEndian 25 0x6dbb4c11d10cd14fefd04f2218af90df3126d05c0bd9daf101, by decide⟩)]

/-- A reward of ten tokens under the first pool. -/
def rewardDb : Db :=
  { poolDb with rewards := { poolDb.rewards with rewards :=
      [{ address := ⟨"0x01", by decide⟩
         txHash := ⟨"", by decide⟩
         index := 0
         sender := Server.firstWallet
         rewardId := ⟨"b", by decide⟩
         name := ⟨"", by decide⟩
         amount := 10
         rewardsManagerPubkey := some firstPool
         rawMessage := []
         blockHeight := 1 }] } }

def attesterNode : Server :=
  .devnet (senderCalls ++ Server.firstKey.calls ++ Server.secondKey.calls ++
    Server.admitSecond.calls ++ Server.dismissSecond.calls ++ Server.admission.calls ++
    Server.dismissal.calls ++ secondClaimCalls) rewardDb

/-- The service of the node after a run. -/
def attesterService (db : Db) : CoreService :=
  { poolService with core := some (attesterNode.on db ⟨0, false⟩) }

def configuredAttester : RewardAttester := ⟨attesterNode.ext, poolService.ownerWallet, []⟩

/-- The second key has its claim attested once the first has admitted it, neither before nor after
it is dismissed. -/
theorem CoreService.attestations_traced_admission :
    ((attesterService rewardDb).answer configuredAttester (.connect secondClaim) = none ∧
      (attesterNode.commitAll rewardDb [Server.admission.block 1, Server.dismissal.block 2]).map
        (fun db => (attesterService db).answer configuredAttester (.connect secondClaim)) =
          some none) ∧
    ∃ db res, attesterNode.commitAll rewardDb [Server.admission.block 1] = some db ∧
      (attesterService db).answer configuredAttester (.connect secondClaim) = some res ∧
      Traces attesterNode rewardDb [Server.admission.block 1] db configuredAttester
        (.connect secondClaim) res.attestation := by
  have hrun : (attesterService rewardDb).answer configuredAttester (.connect secondClaim) = none ∧
      (attesterNode.commitAll rewardDb [Server.admission.block 1, Server.dismissal.block 2]).map
        (fun db => (attesterService db).answer configuredAttester (.connect secondClaim)) =
          some none ∧
      ((attesterNode.commitAll rewardDb [Server.admission.block 1]).bind fun db =>
        (attesterService db).answer configuredAttester (.connect secondClaim)).isSome = true ∧
      attesterNode.EachBlock (fun db b => (attesterNode.voter db b).Accepts b.req) rewardDb
        [Server.admission.block 1] := by
    decide +kernel
  obtain ⟨hbefore, hafter, hattested, haccepted⟩ := hrun
  obtain ⟨res, hattested⟩ := Option.isSome_iff_exists.mp hattested
  obtain ⟨db, hdb, hres⟩ := Option.bind_eq_some_iff.mp hattested
  exact ⟨⟨hbefore, hafter⟩, db, res, hdb, hres, attestations_traced haccepted hdb rfl rfl hres⟩

end OpenAudio.Core
