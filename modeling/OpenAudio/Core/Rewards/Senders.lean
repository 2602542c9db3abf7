import OpenAudio.Lib.Encoding
import OpenAudio.Core.Rewards

/-!
# Attestations of reward senders

A node attests to the rewards manager program on Solana that an address is added to, or deleted
from, its senders. Adding is attested for the authorities of the pool of the reward manager, and
for the AUDIO reward manager, which has no pool, for the validators and the anti-abuse oracles.
Deleting is attested for every other address. The decision compares texts; what is signed are the
bytes a text decodes to.
-/

namespace OpenAudio.Core

/-! ### The endpoints -/

/-- The codes of `connect.NewError`. -/
inductive ConnectCode where
  | invalidArgument
  | internal
  | unavailable
deriving DecidableEq, Repr

structure ConnectError where
  code : ConnectCode
  message : String
deriving DecidableEq, Repr

/-- `CoreService`, with what it has of the node's other services. -/
structure CoreService where
  core : Option Server
  /-- `eth.GetAntiAbuseOracleAddresses` -/
  antiAbuseOracles : Except String (List String)
  /-- the address of `config.EthereumKey` -/
  ownerWallet : String

/-- `GetRewardSenderAttestationRequest` and `GetDeleteRewardSenderAttestationRequest` -/
structure SenderRequest where
  address : String
  rewardsManagerPubkey : String

/-- `GetRewardSenderAttestationResponse` and `GetDeleteRewardSenderAttestationResponse` -/
structure SenderAttestation where
  owner : String
  attestation : String
deriving DecidableEq, Repr

def addSenderMessagePrefix : String := "add"

def deleteSenderMessagePrefix : String := "del"

def senderMessage (ext : Externals) (messagePrefix senderAddress rewardsManagerPubkey : String) :
    Except String Bytes := do
  let programBytes ← (ext.base58Decode rewardsManagerPubkey).mapError
    ("invalid program pubkey: " ++ ·)
  match decodeHex (trimPrefix senderAddress "0x") with
  | none => .error ("invalid sender address: " ++ ext.hexError (trimPrefix senderAddress "0x"))
  | some addrBytes => .ok (textBytes messagePrefix ++ programBytes ++ addrBytes)

/-- `EthSignKeccak` with the node's key. -/
def ethSignKeccak (ext : Externals) (data : Bytes) : Except String String :=
  ((ext.sign (ext.keccak256 data)).mapError ("failed to sign data with keccak256: " ++ ·)).map
    encodeHex

/-- `getSenderAttestation`, with the address of the signer given. -/
def getSenderAttestation (ext : Externals) (ownerWallet messagePrefix senderAddress
    rewardsManagerPubkey : String) : Except String SenderAttestation := do
  let message ← senderMessage ext messagePrefix senderAddress rewardsManagerPubkey
  let sig ← ethSignKeccak ext message
  return ⟨ownerWallet, sig⟩

/-- The two regimes of `senderGateForRM`: the authorities of a pool, or the eligible senders. -/
inductive SenderGate where
  | pool (authorities : List String)
  | audio (eligible : List String)
deriving DecidableEq, Repr

/-- The texts of the senders the gate lets in. -/
def SenderGate.senders : SenderGate → List String
  | pool authorities => authorities
  | audio eligible => eligible

/-- A text of the gate is the one of a request: a pool is searched for the lower case of the
request, the eligible senders are compared by `EqualFold`. -/
def SenderGate.Spells (rt : GoRuntime) (stored address : String) : SenderGate → Prop
  | pool _ => stored = rt.toLower address
  | audio _ => rt.equalFold stored address = true

instance (rt : GoRuntime) (stored address : String) (gate : SenderGate) :
    Decidable (gate.Spells rt stored address) := by
  cases gate <;> unfold SenderGate.Spells <;> infer_instance

def SenderGate.lists (rt : GoRuntime) (gate : SenderGate) (address : String) : Bool :=
  gate.senders.any fun stored => decide (gate.Spells rt stored address)

namespace CoreService

variable (c : CoreService)

/-- `ready`: the endpoints have no server before the node has registered it. -/
def ready {α : Type} (endpoint : Server → Except ConnectError α) : Except ConnectError α :=
  match c.core with
  | none => .error ⟨.unavailable, "core service not ready"⟩
  | some core => endpoint core

def gatherEligibleSenderAddresses (core : Server) : Except ConnectError (List String) :=
  (c.antiAbuseOracles.mapError fun e =>
    ⟨.internal, "error finding anti-abuse oracles: " ++ e⟩).map
      (core.committed.getAllEthAddressesOfRegisteredNodes ++ ·)

/-- `senderGateForRM`, with the eligible senders gathered where it leads to them. -/
def senderGateForRM (core : Server) (rmPubkey : String) : Except ConnectError SenderGate :=
  match core.read (Db.getRewardPool rmPubkey) with
  | .error e =>
    .error ⟨.internal, s!"failed to load pool for RM {rmPubkey}: " ++ e.message⟩
  | .ok (some authorities) => .ok (.pool (authorities.map (·.val)))
  | .ok none =>
    let audioRM := trimSpace core.config.audioRewardsManagerPubkey
    if audioRM ≠ "" ∧ rmPubkey = audioRM then
      (c.gatherEligibleSenderAddresses core).map .audio
    else .error ⟨.invalidArgument, "rewards_manager_pubkey has no pool and is not AUDIO"⟩

/-- An endpoint that attests with a prefix for the addresses the gate lists, or for those it does
not; `poolRefusal` and `audioRefusal` are the texts of its refusals. -/
def attestSender (messagePrefix : String) (listed : Bool) (poolRefusal : String → String)
    (audioRefusal : String) (req : SenderRequest) (core : Server) :
    Except ConnectError SenderAttestation := do
  let address := trimSpace req.address
  refuseIf (address = "") ⟨.invalidArgument, "address is required"⟩
  let rewardsManagerPubkey := trimSpace req.rewardsManagerPubkey
  (validateRewardsManagerPubkeyShape core.ext rewardsManagerPubkey).mapError
    fun e => ⟨.invalidArgument, e.message⟩
  let gate ← c.senderGateForRM core rewardsManagerPubkey
  refuseIf (gate.lists core.rt address ≠ listed) ⟨.invalidArgument, match gate with
    | .pool _ => poolRefusal rewardsManagerPubkey
    | .audio _ => audioRefusal⟩
  (getSenderAttestation core.ext c.ownerWallet messagePrefix address rewardsManagerPubkey).mapError
    fun _ => ⟨.invalidArgument, "could not create attestation"⟩

def getRewardSenderAttestation (req : SenderRequest) : Except ConnectError SenderAttestation :=
  c.ready (c.attestSender addSenderMessagePrefix true
    (fun rm => s!"address not in pool.authorities for RM {rm}")
    "address not a registered validator or anti-abuse oracle" req)

def getDeleteRewardSenderAttestation (req : SenderRequest) :
    Except ConnectError SenderAttestation :=
  c.ready (c.attestSender deleteSenderMessagePrefix false
    (fun rm => s!"address is still a current authority of the pool for RM {rm}; " ++
      "rotate it out first via SetRewardPoolAuthorities")
    "address is a registered validator or anti-abuse oracle" req)

end CoreService

/-! ### The address a text names -/

/-- The text without the marker of a hexadecimal number. -/
def withoutMarker : List Char → List Char
  | c :: d :: rest => if c = '0' ∧ (d = 'x' ∨ d = 'X') then rest else c :: d :: rest
  | cs => cs

/-- The 20 bytes of the address a text names: digits of either case, with or without a marker. -/
def namedAddress (text : String) : Option Bytes :=
  (hexBytes (withoutMarker text.toList)).filter (·.length = 20)

theorem namedAddress_eq_some {text : String} {addr : Bytes} :
    namedAddress text = some addr ↔
      hexBytes (withoutMarker text.toList) = some addr ∧ addr.length = 20 := by
  unfold namedAddress
  rw [Option.filter_eq_some_iff]
  simp

theorem toUpper_eq_iff_marker (c : Char) :
    (c.toUpper = '0' ↔ c = '0') ∧
      ((c.toUpper = 'x' ∨ c.toUpper = 'X') ↔ (c = 'x' ∨ c = 'X')) := by
  by_cases hc : c.toNat < 128
  · exact ascii_forall (P := fun c => (c.toUpper = '0' ↔ c = '0') ∧
      ((c.toUpper = 'x' ∨ c.toUpper = 'X') ↔ (c = 'x' ∨ c = 'X'))) (by decide) c hc
  · rw [toUpper_of_not_ascii hc]
    exact ⟨Iff.rfl, Iff.rfl⟩

theorem withoutMarker_map_toUpper : ∀ cs : List Char,
    withoutMarker (cs.map Char.toUpper) = (withoutMarker cs).map Char.toUpper
  | [] => rfl
  | [c] => rfl
  | c :: d :: rest => by
    simp only [List.map_cons, withoutMarker, (toUpper_eq_iff_marker c).1,
      (toUpper_eq_iff_marker d).2]
    split
    · rfl
    · rfl

theorem namedAddress_congr {text text' : String}
    (h : text.toList.map Char.toUpper = text'.toList.map Char.toUpper) :
    namedAddress text = namedAddress text' := by
  unfold namedAddress
  rw [← hexBytes_map_toUpper, ← withoutMarker_map_toUpper, h, withoutMarker_map_toUpper,
    hexBytes_map_toUpper]

theorem namedAddress_of_decodeHex {text : String} {addr : Bytes}
    (h : decodeHex (trimPrefix text "0x") = some addr) (hlen : addr.length = 20) :
    namedAddress text = some addr := by
  rw [decodeHex_eq_some_iff] at h
  refine namedAddress_eq_some.mpr ⟨?_, hlen⟩
  have hmarker : ("0x" : String).toList = ['0', 'x'] := by decide
  unfold trimPrefix at h
  rw [hmarker] at h
  split at h
  · rename_i hpre
    obtain ⟨rest, hrest⟩ := List.isPrefixOf_iff_prefix.mp hpre
    rw [← hrest] at h ⊢
    simpa [withoutMarker] using h
  · rename_i hpre
    match hcs : text.toList with
    | [] => rwa [hcs] at h
    | [c] => rwa [hcs] at h
    | c :: d :: rest =>
      rw [hcs] at h hpre
      rw [withoutMarker, if_neg]
      · exact h
      rintro ⟨rfl, rfl | rfl⟩
      · simp at hpre
      · -- the attester leaves the marker "0X", which does not decode
        obtain ⟨x, hx⟩ := hexDigit_of_mem h 'X' (by simp)
        have hnone : hexDigit 'X' = none := by decide
        rw [hnone] at hx
        cases hx

/-! ### The texts a gate takes for one -/

theorem map_toUpper_toLower (rt : GoRuntime) {text : String}
    (h : ∀ c ∈ text.toList, c.toNat < 128) :
    (rt.toLower text).toList.map Char.toUpper = text.toList.map Char.toUpper := by
  unfold CaseTables.toLower
  rw [String.toList_ofList, List.map_map]
  apply List.map_congr_left
  intro c hc
  have key : ∀ d : Char, d.toNat < 128 → d.toLower.toUpper = d.toUpper :=
    ascii_forall (by decide)
  simp only [Function.comp_apply, rt.lower_ascii c (h c hc), key c (h c hc)]

/-- A character of an address text: a digit or the letter of the marker. -/
def IsAddressChar (c : Char) : Prop := (hexDigit c).isSome = true ∨ c = 'x' ∨ c = 'X'

theorem IsAddressChar.ascii {c : Char} (h : IsAddressChar c) : c.toNat < 128 := by
  rcases h with h | rfl | rfl
  · obtain ⟨x, hx⟩ := Option.isSome_iff_exists.mp h
    exact toNat_lt_of_hexDigit hx
  · decide
  · decide

theorem isAddressChar_of_named {text : String} {addr : Bytes} (h : namedAddress text = some addr) :
    ∀ c ∈ text.toList, IsAddressChar c := by
  obtain ⟨hbytes, -⟩ := namedAddress_eq_some.mp h
  have hrest : ∀ c ∈ withoutMarker text.toList, IsAddressChar c := by
    intro c hc
    obtain ⟨x, hx⟩ := hexDigit_of_mem hbytes c hc
    exact .inl (by rw [hx]; rfl)
  match hcs : text.toList with
  | [] => simp
  | [c] => rwa [hcs] at hrest
  | c :: d :: rest =>
    rw [hcs] at hrest
    rw [withoutMarker] at hrest
    split at hrest
    · rename_i hmarker
      obtain ⟨rfl, hd⟩ := hmarker
      simp only [List.forall_mem_cons]
      exact ⟨.inl (by decide), .inr hd, hrest⟩
    · exact hrest

theorem toUpper_of_fold (rt : GoRuntime) {c d : Char} (hd : IsAddressChar d)
    (h : rt.fold c = rt.fold d) : c.toUpper = d.toUpper := by
  have key : ∀ d : Char, d.toNat < 128 → IsAddressChar d →
      d.toUpper.toNat < 128 ∧ d.toUpper ≠ 'K' ∧ d.toUpper ≠ 'S' := by
    refine ascii_forall ?_
    unfold IsAddressChar
    decide
  obtain ⟨hascii, hk, hs⟩ := key d hd.ascii hd
  rw [rt.fold_ascii d hd.ascii] at h
  rcases rt.ascii_of_fold c (by rw [h]; exact hascii) with hc | rfl | rfl
  · rwa [rt.fold_ascii c hc] at h
  · rw [rt.fold_kelvin] at h
    exact absurd h.symm hk
  · rw [rt.fold_longS] at h
    exact absurd h.symm hs

theorem SenderGate.Spells.namedAddress {rt : GoRuntime} {gate : SenderGate}
    {stored address : String} {addr : Bytes} (h : gate.Spells rt stored address)
    (hnamed : namedAddress address = some addr) : namedAddress stored = some addr := by
  have hchars := isAddressChar_of_named hnamed
  rw [← hnamed]
  apply namedAddress_congr
  cases gate with
  | pool authorities =>
    obtain rfl : stored = rt.toLower address := h
    exact map_toUpper_toLower rt fun c hc => (hchars c hc).ascii
  | audio eligible =>
    have hfold : stored.toList.map rt.fold = address.toList.map rt.fold :=
      (rt.equalFold_iff _ _).mp h
    generalize stored.toList = cs at hfold ⊢
    generalize address.toList = ds at hfold hchars ⊢
    induction ds generalizing cs with
    | nil => rw [List.map_nil, List.map_eq_nil_iff] at hfold; rw [hfold]
    | cons d ds ih =>
      cases cs with
      | nil => cases hfold
      | cons c cs =>
        rw [List.forall_mem_cons] at hchars
        obtain ⟨hhead, htail⟩ := List.cons.inj hfold
        rw [List.map_cons, List.map_cons, toUpper_of_fold rt hchars.1 hhead, ih cs htail hchars.2]

theorem toLower_congr (rt : GoRuntime) {text text' : String}
    (hascii : ∀ c ∈ text.toList, c.toNat < 128) (hascii' : ∀ c ∈ text'.toList, c.toNat < 128)
    (h : text.toList.map Char.toUpper = text'.toList.map Char.toUpper) :
    rt.toLower text = rt.toLower text' := by
  have key : ∀ t : String, (∀ c ∈ t.toList, c.toNat < 128) →
      t.toList.map rt.lower = (t.toList.map Char.toUpper).map Char.toLower := by
    intro t ht
    rw [List.map_map]
    apply List.map_congr_left
    intro c hc
    have hcase : ∀ d : Char, d.toNat < 128 → d.toLower = d.toUpper.toLower :=
      ascii_forall (by decide)
    rw [rt.lower_ascii c (ht c hc)]
    exact hcase c (ht c hc)
  unfold CaseTables.toLower
  rw [key text hascii, key text' hascii', h]

theorem senderMessage_eq_ok {ext : Externals} {pre address rm : String} {m : Bytes} :
    senderMessage ext pre address rm = .ok m ↔ ∃ program addr, ext.base58Decode rm = .ok program ∧
      decodeHex (trimPrefix address "0x") = some addr ∧ m = textBytes pre ++ program ++ addr := by
  unfold senderMessage
  rw [except_bind_eq_ok]
  simp only [except_mapError_eq_ok]
  constructor
  · rintro ⟨program, hprogram, h⟩
    split at h
    · cases h
    · rename_i addr haddr
      cases h
      exact ⟨program, addr, hprogram, haddr, rfl⟩
  · rintro ⟨program, addr, hprogram, haddr, rfl⟩
    exact ⟨program, hprogram, by rw [haddr]⟩

theorem getSenderAttestation_eq_ok {ext : Externals} {owner pre address rm : String}
    {resp : SenderAttestation} :
    getSenderAttestation ext owner pre address rm = .ok resp ↔ ∃ m,
      senderMessage ext pre address rm = .ok m ∧ ethSignKeccak ext m = .ok resp.attestation ∧
      resp.owner = owner := by
  unfold getSenderAttestation
  simp only [except_bind_eq_ok]
  constructor
  · rintro ⟨m, hm, sig, hsig, h⟩
    cases h
    exact ⟨m, hm, hsig, rfl⟩
  · rintro ⟨m, hm, hsig, rfl⟩
    exact ⟨m, hm, resp.attestation, hsig, rfl⟩

namespace CoreService

/-! ### Never both attestations -/

variable (c : CoreService)

theorem ready_eq_ok {c : CoreService} {α : Type} {endpoint : Server → Except ConnectError α} {a : α} :
    c.ready endpoint = .ok a ↔ ∃ core, c.core = some core ∧ endpoint core = .ok a := by
  unfold ready
  cases hcore : c.core with
  | none => simp
  | some core => simp

theorem attestSender_eq_ok {c : CoreService} {core : Server} {pre : String} {listed : Bool}
    {poolRefusal : String → String} {audioRefusal : String} {req : SenderRequest}
    {resp : SenderAttestation} :
    c.attestSender pre listed poolRefusal audioRefusal req core = .ok resp ↔
      trimSpace req.address ≠ "" ∧
      validateRewardsManagerPubkeyShape core.ext (trimSpace req.rewardsManagerPubkey) = .ok () ∧
      ∃ gate, c.senderGateForRM core (trimSpace req.rewardsManagerPubkey) = .ok gate ∧
        gate.lists core.rt (trimSpace req.address) = listed ∧
        getSenderAttestation core.ext c.ownerWallet pre (trimSpace req.address)
          (trimSpace req.rewardsManagerPubkey) = .ok resp := by
  unfold attestSender
  simp only [except_bind_eq_ok, except_mapError_eq_ok, refuseIf_eq_ok, not_not]
  constructor
  · rintro ⟨_, haddress, _, hshape, gate, hgate, _, hlists, h⟩
    exact ⟨haddress, hshape, gate, hgate, hlists, h⟩
  · rintro ⟨haddress, hshape, gate, hgate, hlists, h⟩
    exact ⟨(), haddress, (), hshape, gate, hgate, (), hlists, h⟩

/-- An endpoint answers a request with a signature over the bytes that say, behind the prefix of
the endpoint, the program and the address. -/
def SignsOver (endpoint : SenderRequest → Except ConnectError SenderAttestation)
    (messagePrefix : String) (req : SenderRequest) (addr : Bytes) : Prop :=
  ∃ core resp program, c.core = some core ∧ endpoint req = .ok resp ∧
    core.ext.base58Decode (trimSpace req.rewardsManagerPubkey) = .ok program ∧
    senderMessage core.ext messagePrefix (trimSpace req.address)
      (trimSpace req.rewardsManagerPubkey) = .ok (textBytes messagePrefix ++ program ++ addr) ∧
    ethSignKeccak core.ext (textBytes messagePrefix ++ program ++ addr) = .ok resp.attestation

def AttestsAdd (req : SenderRequest) (addr : Bytes) : Prop :=
  c.SignsOver c.getRewardSenderAttestation addSenderMessagePrefix req addr

def AttestsDelete (req : SenderRequest) (addr : Bytes) : Prop :=
  c.SignsOver c.getDeleteRewardSenderAttestation deleteSenderMessagePrefix req addr

/-- No delete is attested for the address of a current sender. -/
def KeepsSenders (req : SenderRequest) : Prop :=
  ∀ core gate addr, c.core = some core →
    c.senderGateForRM core (trimSpace req.rewardsManagerPubkey) = .ok gate →
    c.AttestsDelete req addr → ∀ stored ∈ gate.senders, namedAddress stored ≠ some addr

/-- No address is both attested for an add, under any spelling, and for the delete requested. -/
def OneSided (req : SenderRequest) : Prop :=
  ∀ req' addr, trimSpace req'.rewardsManagerPubkey = trimSpace req.rewardsManagerPubkey →
    addr.length = 20 → c.AttestsAdd req' addr → ¬ c.AttestsDelete req addr

/-- If the request names the address of a current sender, then one of the texts stored for the
senders is the spelling of the request. -/
def SpelledAsStored (req : SenderRequest) : Prop :=
  ∀ core gate addr, c.core = some core →
    validateRewardsManagerPubkeyShape core.ext (trimSpace req.rewardsManagerPubkey) = .ok () →
    c.senderGateForRM core (trimSpace req.rewardsManagerPubkey) = .ok gate →
    decodeHex (trimPrefix (trimSpace req.address) "0x") = some addr →
    (∃ stored ∈ gate.senders, namedAddress stored = some addr) →
    ∃ stored ∈ gate.senders, gate.Spells core.rt stored (trimSpace req.address)

variable {c} {req : SenderRequest} {addr : Bytes}

theorem lists_iff {rt : GoRuntime} {gate : SenderGate} {address : String} :
    gate.lists rt address = true ↔ ∃ stored ∈ gate.senders, gate.Spells rt stored address := by
  unfold SenderGate.lists
  simp

theorem signsOver_attestSender {pre : String} {listed : Bool} {poolRefusal : String → String}
    {audioRefusal : String}
    (h : c.SignsOver (fun req => c.ready (c.attestSender pre listed poolRefusal audioRefusal req))
      pre req addr) :
    ∃ core gate, c.core = some core ∧
      validateRewardsManagerPubkeyShape core.ext (trimSpace req.rewardsManagerPubkey) = .ok () ∧
      c.senderGateForRM core (trimSpace req.rewardsManagerPubkey) = .ok gate ∧
      gate.lists core.rt (trimSpace req.address) = listed ∧
      decodeHex (trimPrefix (trimSpace req.address) "0x") = some addr := by
  obtain ⟨core, resp, program, hcore, hresp, hprogram, hmessage, -⟩ := h
  obtain ⟨core', hcore', hresp⟩ := ready_eq_ok.mp hresp
  rw [hcore] at hcore'
  cases hcore'
  obtain ⟨-, hshape, gate, hgate, hlists, -⟩ := attestSender_eq_ok.mp hresp
  obtain ⟨program', addr', hprogram', haddr', heq⟩ := senderMessage_eq_ok.mp hmessage
  rw [hprogram] at hprogram'
  cases hprogram'
  obtain rfl := List.append_cancel_left heq
  exact ⟨core, gate, hcore, hshape, hgate, hlists, haddr'⟩

theorem signsOver_of_ok {pre : String} {listed : Bool} {poolRefusal : String → String}
    {audioRefusal : String} {resp : SenderAttestation}
    (h : c.ready (c.attestSender pre listed poolRefusal audioRefusal req) = .ok resp)
    (haddr : decodeHex (trimPrefix (trimSpace req.address) "0x") = some addr) :
    c.SignsOver (fun req => c.ready (c.attestSender pre listed poolRefusal audioRefusal req))
      pre req addr := by
  obtain ⟨core, hcore, hresp⟩ := ready_eq_ok.mp h
  obtain ⟨-, -, gate, -, -, hattestation⟩ := attestSender_eq_ok.mp hresp
  obtain ⟨m, hmessage, hsig, -⟩ := getSenderAttestation_eq_ok.mp hattestation
  obtain ⟨program, addr', hprogram, haddr', rfl⟩ := senderMessage_eq_ok.mp hmessage
  rw [haddr] at haddr'
  cases haddr'
  exact ⟨core, resp, program, hcore, h, hprogram, hmessage, hsig⟩

theorem attestsDelete_of_unlisted {core : Server} {gate : SenderGate} (hcore : c.core = some core)
    (hsign : ∀ m, senderMessage core.ext deleteSenderMessagePrefix (trimSpace req.address)
      (trimSpace req.rewardsManagerPubkey) = .ok m → ∃ sig, ethSignKeccak core.ext m = .ok sig)
    (hshape : validateRewardsManagerPubkeyShape core.ext (trimSpace req.rewardsManagerPubkey) =
      .ok ())
    (hgate : c.senderGateForRM core (trimSpace req.rewardsManagerPubkey) = .ok gate)
    (hlists : gate.lists core.rt (trimSpace req.address) = false)
    (haddr : decodeHex (trimPrefix (trimSpace req.address) "0x") = some addr)
    (hne : addr ≠ []) : c.AttestsDelete req addr := by
  have haddress : trimSpace req.address ≠ "" := by
    intro he
    rw [he] at haddr
    have hempty : decodeHex (trimPrefix "" "0x") = some [] := by decide
    rw [hempty] at haddr
    exact hne (Option.some.inj haddr).symm
  obtain ⟨program, hprogram⟩ : ∃ program,
      core.ext.base58Decode (trimSpace req.rewardsManagerPubkey) = .ok program := by
    unfold validateRewardsManagerPubkeyShape at hshape
    simp only [refuseIf_bind_eq_ok] at hshape
    obtain ⟨-, -, hshape⟩ := hshape
    split at hshape
    · cases hshape
    · rename_i program hprogram
      exact ⟨program, hprogram⟩
  have hmessage : senderMessage core.ext deleteSenderMessagePrefix (trimSpace req.address)
      (trimSpace req.rewardsManagerPubkey) =
        .ok (textBytes deleteSenderMessagePrefix ++ program ++ addr) :=
    senderMessage_eq_ok.mpr ⟨program, addr, hprogram, haddr, rfl⟩
  obtain ⟨sig, hsig⟩ := hsign _ hmessage
  have hattestation : getSenderAttestation core.ext c.ownerWallet deleteSenderMessagePrefix
      (trimSpace req.address) (trimSpace req.rewardsManagerPubkey) = .ok ⟨c.ownerWallet, sig⟩ :=
    getSenderAttestation_eq_ok.mpr ⟨_, hmessage, hsig, rfl⟩
  have hresp : c.getDeleteRewardSenderAttestation req = .ok ⟨c.ownerWallet, sig⟩ :=
    ready_eq_ok.mpr ⟨core, hcore, attestSender_eq_ok.mpr
      ⟨haddress, hshape, gate, hgate, hlists, hattestation⟩⟩
  exact signsOver_of_ok hresp haddr

/-- The delete endpoint keeps the current senders, and attests no address that the add endpoint
attests, exactly for the requests that spell an address as it is stored. -/
theorem keepsSenders_and_oneSided_iff
    (hsign : ∀ core m, c.core = some core →
      senderMessage core.ext deleteSenderMessagePrefix (trimSpace req.address)
        (trimSpace req.rewardsManagerPubkey) = .ok m → ∃ sig, ethSignKeccak core.ext m = .ok sig) :
    c.KeepsSenders req ∧ c.OneSided req ↔ c.SpelledAsStored req := by
  constructor
  · rintro ⟨hkeeps, -⟩ core gate addr hcore hshape hgate haddr ⟨stored, hstored, hnamed⟩
    by_contra hspelled
    have hlists : gate.lists core.rt (trimSpace req.address) = false := by
      rw [← Bool.not_eq_true, lists_iff]
      exact hspelled
    have hne : addr ≠ [] := by
      rintro rfl
      exact absurd (namedAddress_eq_some.mp hnamed).2 (by simp)
    have hdelete := attestsDelete_of_unlisted hcore (fun m => hsign core m hcore) hshape hgate
      hlists haddr hne
    exact hkeeps core gate addr hcore hgate hdelete stored hstored hnamed
  · intro hspelled
    have hkeeps : c.KeepsSenders req := by
      intro core gate addr hcore hgate hdelete stored hstored hnamed
      obtain ⟨core', gate', hcore', hshape, hgate', hunlisted, haddr⟩ :=
        signsOver_attestSender hdelete
      rw [hcore] at hcore'
      cases hcore'
      rw [hgate] at hgate'
      cases hgate'
      have hlisted := lists_iff.mpr (hspelled core gate addr hcore hshape hgate haddr
        ⟨stored, hstored, hnamed⟩)
      rw [hunlisted] at hlisted
      cases hlisted
    refine ⟨hkeeps, ?_⟩
    intro req' addr hrm hlen hadd hdelete
    obtain ⟨core, gate, hcore, -, hgate, hlisted, haddr⟩ := signsOver_attestSender hadd
    obtain ⟨stored, hstored, hspells⟩ := lists_iff.mp hlisted
    rw [hrm] at hgate
    exact hkeeps core gate addr hcore hgate hdelete stored hstored
      (hspells.namedAddress (namedAddress_of_decodeHex haddr hlen))

end CoreService

/-! ### A pool with one authority -/

def firstPool : PgText := ⟨"11111111111111111111111111111111", by decide⟩

def senderCalls : Externals.Recorded where
  base58Decode := [(firstPool, bigEndian 32 0)]
  keccak256 :=
    [(bigEndian 55 0x61646400000000000000000000000000000000000000000000000000000000000000007e5f4552091a69125d5dfcb7b8c2659029395bdf,
        Externals.digest 0xef1beb91aa70ca803b84217af9c04ede76c483e37d86c7f18b09112f5aac7396),
      (bigEndian 55 0x64656c00000000000000000000000000000000000000000000000000000000000000007e5f4552091a69125d5dfcb7b8c2659029395bdf,
        Externals.digest 0x790bf1bbde4e621e81499d3a27b1d5af56445fee1607fb82011f3412f08b5bdb)]
  sign :=
    [(bigEndian 32 0xef1beb91aa70ca803b84217af9c04ede76c483e37d86c7f18b09112f5aac7396,
        ⟨bigEndian 40 0x4eadf70909b61fdd97e07bd029f4fd748c8e1e07178dcba890018158d2d378e31734f569050e9e49 ++
          bigEndian 25 0x65e275f69b3ba9a65d48794aba15ea8f2ec2e4b091d2409801, by decide⟩),
      (bigEndian 32 0x790bf1bbde4e621e81499d3a27b1d5af56445fee1607fb82011f3412f08b5bdb,
        ⟨bigEndian 40 0xb21534f6ea7f04f8e7510429f8824190bd9e3459e9329ebc696b57ae17c2f6a0795bfcccd4351455 ++
          bigEndian 25 0x7096c3be931e4a2823feb585edfa78183d723268e291222900, by decide⟩)]

def poolDb : Db :=
  { Db.empty with rewards := { Db.empty.rewards with
      pools := AList.insert firstPool [Server.firstWallet] ∅ } }

def poolNode : Server := .devnet senderCalls poolDb

def poolService : CoreService where
  core := some poolNode
  antiAbuseOracles := .ok []
  ownerWallet := "0x6813Eb9362372EEF6200f3b1dbC3f819671cBA69"

def storedSpelling : SenderRequest :=
  ⟨"0x7E5F4552091A69125d5DfCb7b8C2659029395Bdf", "11111111111111111111111111111111"⟩

def bareSpelling : SenderRequest :=
  ⟨"7E5F4552091A69125d5DfCb7b8C2659029395Bdf", "11111111111111111111111111111111"⟩

def authorityAddress : Bytes := bigEndian 20 0x7e5f4552091a69125d5dfcb7b8c2659029395bdf

theorem senderGate_poolService :
    poolService.senderGateForRM poolNode "11111111111111111111111111111111" =
      .ok (.pool ["0x7e5f4552091a69125d5dfcb7b8c2659029395bdf"]) := by
  decide +kernel

namespace CoreService

theorem exists_ok_of_isSome {α : Type} {r : Except ConnectError α}
    (h : r.toOption.isSome = true) : ∃ a, r = .ok a := by
  cases r with
  | ok a => exact ⟨a, rfl⟩
  | error e => cases h

/-- Spelled as it is stored, the authority is kept. -/
theorem keepsSenders_storedSpelling :
    poolService.SpelledAsStored storedSpelling ∧
      poolService.KeepsSenders storedSpelling ∧ poolService.OneSided storedSpelling := by
  have hrm : trimSpace storedSpelling.rewardsManagerPubkey =
      "11111111111111111111111111111111" := by decide +kernel
  have hspelled : SenderGate.Spells poolNode.rt "0x7e5f4552091a69125d5dfcb7b8c2659029395bdf"
      (trimSpace storedSpelling.address)
      (.pool ["0x7e5f4552091a69125d5dfcb7b8c2659029395bdf"]) := by decide +kernel
  have hsigned : ((senderMessage poolNode.ext deleteSenderMessagePrefix
      (trimSpace storedSpelling.address) (trimSpace storedSpelling.rewardsManagerPubkey)).bind
        (ethSignKeccak poolNode.ext)).toOption.isSome = true := by decide +kernel
  have hstored : poolService.SpelledAsStored storedSpelling := by
    intro core gate addr hcore _ hgate _ _
    obtain rfl : poolNode = core := Option.some.inj hcore
    rw [hrm, senderGate_poolService] at hgate
    cases hgate
    exact ⟨_, List.mem_singleton_self _, hspelled⟩
  refine ⟨hstored, (keepsSenders_and_oneSided_iff ?_).mpr hstored⟩
  intro core m hcore hm
  obtain rfl : poolNode = core := Option.some.inj hcore
  rw [hm] at hsigned
  cases hsig : ethSignKeccak poolNode.ext m with
  | ok sig => exact ⟨sig, rfl⟩
  | error e =>
    simp only [Except.bind, hsig] at hsigned
    cases hsigned

/-- The same authority of a pool is attested for an add under the text that is stored and for a
delete under the text without the marker. -/
theorem authority_attested_for_both :
    poolService.senderGateForRM poolNode "11111111111111111111111111111111" =
        .ok (.pool ["0x7e5f4552091a69125d5dfcb7b8c2659029395bdf"]) ∧
      namedAddress "0x7e5f4552091a69125d5dfcb7b8c2659029395bdf" = some authorityAddress ∧
      poolService.AttestsAdd storedSpelling authorityAddress ∧
      poolService.AttestsDelete bareSpelling authorityAddress := by
  obtain ⟨added, hadded⟩ := exists_ok_of_isSome
    (show (poolService.getRewardSenderAttestation storedSpelling).toOption.isSome = true by
      decide +kernel)
  obtain ⟨deleted, hdeleted⟩ := exists_ok_of_isSome
    (show (poolService.getDeleteRewardSenderAttestation bareSpelling).toOption.isSome = true by
      decide +kernel)
  exact ⟨senderGate_poolService, by decide +kernel, signsOver_of_ok hadded (by decide +kernel),
    signsOver_of_ok hdeleted (by decide +kernel)⟩

end CoreService

end OpenAudio.Core
