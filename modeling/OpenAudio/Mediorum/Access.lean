import Mathlib.Data.Fintype.EquivFin
import OpenAudio.Core.Server

/-!
# Who may stream a track

A request for a recording is signed. A track that has access authorities is streamed for them only,
any other one for every registered node. Which of the two a recording is, the node looks up by the
CID of the recording, in the tables of the chain.
-/

namespace OpenAudio.Mediorum

open OpenAudio.Core

/-- The part of `RecoveredSignature` that is checked. -/
structure RecoveredSignature where
  signerWallet : String
  uploadID : String
  cid : String
  /-- in milliseconds -/
  timestamp : Int

/-- A request, with what recovering its signature gives and the time it is checked at. -/
structure AccessRequest where
  cid : String
  uploadID : String
  signature : Except String RecoveredSignature
  now : Int

/-- `trackAccessInfo` -/
structure TrackAccessInfo where
  trackID : String
  managementKeyCount : Nat
deriving DecidableEq

/-- The track is found and has access authorities. -/
def TrackAccessInfo.Gated (info : TrackAccessInfo) : Prop :=
  info.trackID ≠ "" ∧ 0 < info.managementKeyCount

instance (info : TrackAccessInfo) : Decidable info.Gated := inferInstanceAs (Decidable (_ ∧ _))

/-- The queries that fail. -/
structure AccessFaults where
  recordings : Option String := none
  keyCount : Option String := none
  authority : Option String := none

/-- What a request is refused with. -/
structure Denial where
  status : Nat
  error : String
  detail : String
  validSigners : Option String := none
deriving DecidableEq

/-- The wallets a node has registered, and the parts of the runtime it compares them with. -/
structure AccessNode where
  signers : List String
  peers : List String
  caseTables : CaseTables
  /-- `Duration.String` -/
  durationText : Int → String

/-- The rows of `sound_recordings` with a CID. -/
def recordingsOf (tables : TrackTables) (cid : String) : List SoundRecordingRow :=
  tables.soundRecordings.filter fun r => r.cid.val = cid

/-- The addresses of `management_keys` for a track. -/
def keysOf (tables : TrackTables) (trackID : String) : List PgText :=
  (tables.managementKeys.filter fun k => k.trackId.val = trackID).map ManagementKeyRow.address

/-- `Scan` of the rows into one string: each row overwrites the one before. -/
def scanTrackID (rows : List SoundRecordingRow) : String :=
  rows.foldl (fun _ r => r.trackId.val) ""

/-- `lookupTrackAccessInfo`, with the rows of the first query in the order they are returned. -/
def lookupTrackAccessInfo (tables : TrackTables) (rows : List SoundRecordingRow) (f : AccessFaults)
    (cid : String) : Except String TrackAccessInfo :=
  match f.recordings with
  | some e => .error ("sound_recordings lookup for cid " ++ cid ++ ": " ++ e)
  | none =>
    let trackID := scanTrackID rows
    if trackID = "" then .ok ⟨"", 0⟩
    else match f.keyCount with
      | some e => .error ("management_keys count for track " ++ trackID ++ ": " ++ e)
      | none => .ok ⟨trackID, (keysOf tables trackID).length⟩

def maxSignatureAge : Int := 48 * 3600 * 1000000000

namespace AccessNode

variable (node : AccessNode)

def isRegistered (wallet : String) : Bool :=
  node.signers.any (node.caseTables.equalFold · wallet) ||
    node.peers.any (node.caseTables.equalFold · wallet)

/-- The signer is an access authority of the track, or a registered node if it has none. -/
def checkSigner (tables : TrackTables) (info : TrackAccessInfo) (f : AccessFaults)
    (wallet : String) : Except Denial Unit :=
  if info.Gated then
    match f.authority with
    | some _ => .error ⟨503, "unable to verify track access", "access authority lookup failed", none⟩
    | none =>
      refuseIf (((keysOf tables info.trackID).filter fun a =>
          a.val == node.caseTables.toLower wallet).length = 0)
        ⟨401, "signer not authorized for this track (access_authorities)",
          "signed by: " ++ wallet ++ "; signer must be in track access_authorities", none⟩
  else
    refuseIf (node.isRegistered wallet = false)
      ⟨401, "signer not in list of registered nodes", "signed by: " ++ wallet,
        some (",".intercalate (node.signers ++ node.peers))⟩

/-- The signature is not too old, and for this recording and this upload. -/
def checkSignatureData (r : AccessRequest) (sig : RecoveredSignature) : Except Denial Unit := do
  let age := r.now - sig.timestamp.tdiv 1000 * 1000000000
  refuseIf (maxSignatureAge < age) ⟨401, "signature too old", node.durationText age, none⟩
  refuseIf (sig.cid ≠ r.cid) ⟨401, "signature contains incorrect CID",
    "url: " ++ r.cid ++ ", signature " ++ sig.cid, none⟩
  refuseIf (sig.uploadID ≠ r.uploadID) ⟨401, "signature contains incorrect upload ID",
    "url: " ++ r.uploadID ++ ", signature " ++ sig.uploadID, none⟩

/-- The checks once it is known which track the recording is of. -/
def authorize (tables : TrackTables) (info : TrackAccessInfo) (f : AccessFaults)
    (r : AccessRequest) (sig : RecoveredSignature) : Except Denial Unit := do
  node.checkSigner tables info f sig.signerWallet
  node.checkSignatureData r sig

/-- `requireRegisteredSignature`: nothing, if the next handler is called. -/
def requireRegisteredSignature (tables : TrackTables) (rows : List SoundRecordingRow)
    (cached : Option TrackAccessInfo) (f : AccessFaults) (r : AccessRequest) :
    Except Denial Unit :=
  match r.signature, cached with
  | .error e, _ => .error ⟨401, "invalid signature", e, none⟩
  | .ok sig, some info => node.authorize tables info f r sig
  | .ok sig, none =>
    match lookupTrackAccessInfo tables rows f r.cid with
    | .error _ => .error ⟨503, "unable to verify track access", "track access lookup failed", none⟩
    | .ok info => node.authorize tables info f r sig

end AccessNode

/-! ### Gated recordings -/

/-- The signer is an access authority of a track with the CID. -/
def Authority (u : CaseTables) (tables : TrackTables) (cid wallet : String) : Prop :=
  ∃ r ∈ recordingsOf tables cid, ∃ a ∈ keysOf tables r.trackId.val, a.val = u.toLower wallet

instance (u : CaseTables) (tables : TrackTables) (cid wallet : String) :
    Decidable (Authority u tables cid wallet) :=
  inferInstanceAs (Decidable (∃ r ∈ recordingsOf tables cid, ∃ a ∈ keysOf tables r.trackId.val,
    a.val = u.toLower wallet))

/-- The track of the row that is scanned last has an access authority. -/
def ScansGated (tables : TrackTables) (rows : List SoundRecordingRow) : Prop :=
  scanTrackID rows ≠ "" ∧ keysOf tables (scanTrackID rows) ≠ []

instance (tables : TrackTables) (rows : List SoundRecordingRow) :
    Decidable (ScansGated tables rows) := inferInstanceAs (Decidable (_ ∧ _))

/-- What decides that only access authorities are let through. A cached entry is one of a track that
had access authorities when it was made, and those the track has now are access authorities of
tracks with the CID; without an entry the track of the row that is scanned last has some. -/
def Gates (u : CaseTables) (tables : TrackTables) (rows : List SoundRecordingRow) (cid : String) :
    Option TrackAccessInfo → Prop
  | none => ScansGated tables rows
  | some info => info.Gated ∧ ∀ a ∈ keysOf tables info.trackID,
      (∃ wallet, u.toLower wallet = a.val) →
        ∃ r ∈ recordingsOf tables cid, a ∈ keysOf tables r.trackId.val

variable {tables : TrackTables} {rows : List SoundRecordingRow} {f : AccessFaults}

theorem scanTrackID_mem (h : scanTrackID rows ≠ "") : ∃ r ∈ rows, r.trackId.val = scanTrackID rows := by
  induction rows using List.reverseRecOn with
  | nil => exact absurd rfl h
  | append_singleton rows r ih =>
    refine ⟨r, by simp, ?_⟩
    rw [scanTrackID, List.foldl_concat]

theorem lookupTrackAccessInfo_eq_ok {cid : String} {info : TrackAccessInfo}
    (h : lookupTrackAccessInfo tables rows f cid = .ok info) :
    info.trackID = scanTrackID rows ∧ (info.Gated ↔ ScansGated tables rows) := by
  unfold lookupTrackAccessInfo at h
  split at h
  · cases h
  · dsimp only at h
    split at h
    · rename_i hempty
      cases h
      exact ⟨hempty.symm, iff_of_false (fun h => h.1 rfl) fun h => h.1 hempty⟩
    · split at h
      · cases h
      · cases h
        exact ⟨rfl, and_congr_right' List.length_pos_iff⟩

namespace AccessNode

variable {node : AccessNode} {r : AccessRequest} {cached : Option TrackAccessInfo}

theorem requireRegisteredSignature_eq_ok
    (h : node.requireRegisteredSignature tables rows cached f r = .ok ()) :
    ∃ sig info, r.signature = .ok sig ∧
      (cached = some info ∨
        cached = none ∧ lookupTrackAccessInfo tables rows f r.cid = .ok info) ∧
      node.checkSigner tables info f sig.signerWallet = .ok () := by
  unfold requireRegisteredSignature at h
  split at h
  · cases h
  · rename_i sig info hsig
    obtain ⟨_, hsigner, -⟩ := except_bind_eq_ok.mp h
    exact ⟨sig, info, hsig, .inl rfl, hsigner⟩
  · rename_i sig hsig
    split at h
    · cases h
    · rename_i info hlookup
      obtain ⟨_, hsigner, -⟩ := except_bind_eq_ok.mp h
      exact ⟨sig, info, hsig, .inr ⟨rfl, hlookup⟩, hsigner⟩

theorem checkSigner_gated {info : TrackAccessInfo} {wallet : String} (hgated : info.Gated) :
    node.checkSigner tables info f wallet = .ok () ↔ f.authority = none ∧
      ∃ a ∈ keysOf tables info.trackID, a.val = node.caseTables.toLower wallet := by
  rw [checkSigner, if_pos hgated]
  cases f.authority with
  | some e => simp
  | none => simp [refuseIf_eq_ok, List.filter_eq_nil_iff]

theorem checkSigner_of_registered {info : TrackAccessInfo} {wallet : String}
    (hinfo : ¬ info.Gated) (h : node.isRegistered wallet = true) :
    node.checkSigner tables info f wallet = .ok () := by
  rw [checkSigner, if_neg hinfo, refuseIf, if_neg (by simp [h])]

end AccessNode

theorem exists_stranger (u : CaseTables) (tables : TrackTables) :
    ∃ wallet, ∀ k ∈ tables.managementKeys, k.address.val ≠ u.toLower wallet := by
  obtain ⟨n, hn⟩ := Infinite.exists_notMem_finset
    (tables.managementKeys.map fun k => k.address.val.length).toFinset
  refine ⟨String.ofList (List.replicate n 'a'), fun k hk heq => hn ?_⟩
  rw [List.mem_toFinset, List.mem_map]
  refine ⟨k, hk, ?_⟩
  rw [heq]
  simp [CaseTables.toLower]

/-- A request of a registered node, signed now, for the recording. -/
def freshRequest (cid wallet : String) : AccessRequest where
  cid := cid
  uploadID := ""
  signature := .ok { signerWallet := wallet, uploadID := "", cid := cid, timestamp := 0 }
  now := 0

theorem exists_lookup (tables : TrackTables) (rows : List SoundRecordingRow) (cid : String) :
    ∃ info, lookupTrackAccessInfo tables rows {} cid = .ok info := by
  unfold lookupTrackAccessInfo
  by_cases hempty : scanTrackID rows = ""
  · exact ⟨_, if_pos hempty⟩
  · exact ⟨_, if_neg hempty⟩

/-- With a fresh signature for the recording, the check of the signer decides. -/
theorem AccessNode.requireRegisteredSignature_fresh {node : AccessNode} {cid wallet : String}
    {cached : Option TrackAccessInfo} {info : TrackAccessInfo}
    (hinfo : cached = some info ∨
      cached = none ∧ lookupTrackAccessInfo tables rows {} cid = .ok info)
    (h : node.checkSigner tables info {} wallet = .ok ()) :
    node.requireRegisteredSignature tables rows cached {} (freshRequest cid wallet) = .ok () := by
  have hdata : node.checkSignatureData (freshRequest cid wallet)
      { signerWallet := wallet, uploadID := "", cid := cid, timestamp := 0 } = .ok () := by
    simp [checkSignatureData, freshRequest, refuseIf, maxSignatureAge, bind, Except.bind]
  have hauthorize : node.authorize tables info {} (freshRequest cid wallet)
      { signerWallet := wallet, uploadID := "", cid := cid, timestamp := 0 } = .ok () :=
    except_bind_eq_ok.mpr ⟨(), h, hdata⟩
  rcases hinfo with rfl | ⟨rfl, hlookup⟩
  · exact hauthorize
  · unfold requireRegisteredSignature
    dsimp only [freshRequest] at hauthorize ⊢
    rw [hlookup]
    exact hauthorize

/-- The recordings with a CID are streamed for the access authorities of their tracks only, whatever
the node has registered and whatever is requested. -/
def StreamsForAuthorities (u : CaseTables) (tables : TrackTables) (rows : List SoundRecordingRow)
    (cid : String) (cached : Option TrackAccessInfo) : Prop :=
  ∀ (node : AccessNode) (f : AccessFaults) (r : AccessRequest), node.caseTables = u → r.cid = cid →
    node.requireRegisteredSignature tables rows cached f r = .ok () →
    ∃ sig, r.signature = .ok sig ∧ Authority u tables cid sig.signerWallet

section Streams

variable {u : CaseTables} {cid : String} {cached : Option TrackAccessInfo} {info : TrackAccessInfo}

/-- A registered stranger is let through by an entry that is not gated. -/
theorem StreamsForAuthorities.gated (h : StreamsForAuthorities u tables rows cid cached)
    (hinfo : cached = some info ∨
      cached = none ∧ lookupTrackAccessInfo tables rows {} cid = .ok info) : info.Gated := by
  by_contra hopen
  obtain ⟨wallet, hstranger⟩ := exists_stranger u tables
  have hregistered : AccessNode.isRegistered ⟨[wallet], [], u, fun _ => ""⟩ wallet = true := by
    simp [AccessNode.isRegistered, CaseTables.equalFold_self]
  obtain ⟨sig, hsig, row, hrow, a, ha, haddress⟩ := h ⟨[wallet], [], u, fun _ => ""⟩ {}
    (freshRequest cid wallet) rfl rfl (AccessNode.requireRegisteredSignature_fresh hinfo
      (AccessNode.checkSigner_of_registered hopen hregistered))
  cases hsig
  obtain ⟨k, hk, rfl⟩ := List.mem_map.mp ha
  exact hstranger k (List.mem_of_mem_filter hk) haddress

/-- Whoever signs as an access authority of the entry's track is let through. -/
theorem StreamsForAuthorities.keys (h : StreamsForAuthorities u tables rows cid (some info))
    {a : PgText} (ha : a ∈ keysOf tables info.trackID) {wallet : String}
    (hwallet : u.toLower wallet = a.val) :
    ∃ r ∈ recordingsOf tables cid, a ∈ keysOf tables r.trackId.val := by
  have hsigner : AccessNode.checkSigner ⟨[], [], u, fun _ => ""⟩ tables info {} wallet = .ok () :=
    (AccessNode.checkSigner_gated (h.gated (.inl rfl))).mpr ⟨rfl, a, ha, hwallet.symm⟩
  obtain ⟨sig, hsig, row, hrow, a', ha', haddress⟩ := h _ {} (freshRequest cid wallet) rfl rfl
    (AccessNode.requireRegisteredSignature_fresh (.inl rfl) hsigner)
  cases hsig
  obtain rfl : a' = a := PgText.ext (haddress.trans hwallet)
  exact ⟨row, hrow, ha'⟩

/-- Recordings are streamed for the access authorities only if and only if the cached entry of the
CID, or without one the row that is scanned, is of a track that has access authorities, and those of
the entry's track are some of a track with the CID. -/
theorem streams_for_authorities_iff (u : CaseTables) {cid : String}
    (hrows : rows.Perm (recordingsOf tables cid)) (cached : Option TrackAccessInfo) :
    StreamsForAuthorities u tables rows cid cached ↔ Gates u tables rows cid cached := by
  constructor
  · intro h
    cases cached with
    | none =>
      obtain ⟨info, hlookup⟩ := exists_lookup tables rows cid
      exact (lookupTrackAccessInfo_eq_ok hlookup).2.mp (h.gated (.inr ⟨rfl, hlookup⟩))
    | some info => exact ⟨h.gated (.inl rfl), fun a ha ⟨wallet, hwallet⟩ => h.keys ha hwallet⟩
  · intro hgates node f r hu hcid hok
    obtain ⟨sig, info, hsig, hinfo, hsigner⟩ := AccessNode.requireRegisteredSignature_eq_ok hok
    refine ⟨sig, hsig, ?_⟩
    rcases hinfo with rfl | ⟨rfl, hlookup⟩
    · obtain ⟨hgated, hkeys⟩ := hgates
      obtain ⟨-, a, ha, haddress⟩ := (AccessNode.checkSigner_gated hgated).mp hsigner
      rw [hu] at haddress
      obtain ⟨row, hrow, ha'⟩ := hkeys a ha ⟨_, haddress.symm⟩
      exact ⟨row, hrow, a, ha', haddress⟩
    · obtain ⟨htrack, hgated⟩ := lookupTrackAccessInfo_eq_ok hlookup
      obtain ⟨-, a, ha, haddress⟩ := (AccessNode.checkSigner_gated (hgated.mpr hgates)).mp hsigner
      obtain ⟨row, hrow, hscanned⟩ := scanTrackID_mem hgates.1
      exact ⟨row, hrows.mem_iff.mp hrow, a, by rw [hscanned, ← htrack]; exact ha, hu ▸ haddress⟩

end Streams

def firstTrack : PgText := ⟨"10", by decide⟩

/-- The CID of the bytes 1, 2, 3 and 4. -/
def sharedCid : String := "baeaaaiqsecpwjj2h4g4x6ey7vo3lirzjnsnw6aqb46p3hrjvnzwhp2e3nkagu"

theorem nulFree_sharedCid : NulFree sharedCid := by decide

def sharedTables : TrackTables where
  soundRecordings :=
    [⟨⟨"sr_10", by decide⟩, firstTrack, ⟨sharedCid, nulFree_sharedCid⟩⟩,
      ⟨⟨"sr_20", by decide⟩, ⟨"20", by decide⟩, ⟨sharedCid, nulFree_sharedCid⟩⟩]
  managementKeys := [⟨firstTrack, Server.firstWallet⟩]

def registeredWallet : String := "0x2b5ad5c4795c026514f8317c7a215e218dccd6cf"

def streamingNode : AccessNode where
  signers := [registeredWallet]
  peers := []
  caseTables := .ascii
  durationText _ := ""

/-- If the first track is scanned last, its access authority is the one to sign; and as long as the
entry is cached, also when the rows come in another order. -/
theorem authority_of_last_gated :
    let request := freshRequest sharedCid "0x7E5F4552091A69125d5DfCb7b8C2659029395Bdf"
    (∃ sig, request.signature = .ok sig ∧ Authority .ascii sharedTables sharedCid sig.signerWallet) ∧
    streamingNode.requireRegisteredSignature sharedTables (recordingsOf sharedTables sharedCid).reverse
      none {} request = .ok () ∧
    streamingNode.requireRegisteredSignature sharedTables (recordingsOf sharedTables sharedCid)
      (some ⟨"10", 1⟩) {} request = .ok () := by
  intro request
  have hgates : Gates .ascii sharedTables (recordingsOf sharedTables sharedCid).reverse sharedCid
      none := (by decide +kernel : ScansGated _ _)
  have hok : streamingNode.requireRegisteredSignature sharedTables
      (recordingsOf sharedTables sharedCid).reverse none {} request = .ok () := by decide +kernel
  exact ⟨(streams_for_authorities_iff .ascii (List.reverse_perm _) none).mpr hgates _ _ _ rfl rfl hok,
    hok, by decide +kernel⟩

/-- The second track is scanned last, and the signature of the registered node is enough; so it is if
the entry of the first track is older than its access authority. -/
theorem shared_recording_unlocked :
    (∃ r ∈ recordingsOf sharedTables sharedCid, keysOf sharedTables r.trackId.val ≠ []) ∧
    streamingNode.requireRegisteredSignature sharedTables (recordingsOf sharedTables sharedCid) none {}
      (freshRequest sharedCid registeredWallet) = .ok () ∧
    streamingNode.requireRegisteredSignature sharedTables
      (recordingsOf sharedTables sharedCid).reverse (some ⟨"10", 0⟩) {}
      (freshRequest sharedCid registeredWallet) = .ok () ∧
    ¬ Authority .ascii sharedTables sharedCid registeredWallet := by
  decide +kernel

end OpenAudio.Mediorum
