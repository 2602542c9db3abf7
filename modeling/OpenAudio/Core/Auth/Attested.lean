import OpenAudio.Core.Auth.Claims
import OpenAudio.Core.Auth.Frame

/-!
# What an attestation entitles to

A storage node attests the CIDs of an upload to the user it was made for. Once the attestation is in
a committed block, that user may name the CIDs on a track, in every block from then on.
-/

namespace OpenAudio.Core

open Prog AuthStore

/-! ### Live transactions -/

theorem strict_authWrite (w : AuthTables → Except PgError AuthTables) : Txn.Strict (authWrite w) :=
  (Txn.strict_exec _).mapError _

namespace Server

variable (s : Server)

variable {s} {db db' : Db} {b b' : Block}

theorem live_progress {req : FinalizeBlockRequest} {m n : Nat} (hm : m ≤ n)
    (hn : n ≤ req.txs.length) (hlive : (s.progress req n).txn.aborted = false) :
    (s.progress req m).txn.aborted = false := by
  induction n, hm using Nat.le_induction with
  | base => exact hlive
  | succ n _ ih =>
    have htx : req.txs[n]? = some (req.txs.get ⟨n, hn⟩) := by simp
    rw [s.txn_progress_succ req htx] at hlive
    exact ih (by omega) (Txn.Later.live ((s.footprint_executeTx req n _).later _) hlive)

theorem live_of_commitBlock {req : FinalizeBlockRequest} (h : s.commitBlock req = some db) :
    (s.progress req req.txs.length).txn.aborted = false := by
  have hend : (s.finalizeBlock req).txn.aborted = false :=
    (Txn.commit_isSome_iff _).mp (Option.isSome_iff_exists.mpr ⟨db, h⟩)
  rw [s.txn_finalizeBlock req] at hend
  exact Txn.Later.live ((s.footprint_closeBlock req).later _) hend

end Server

/-- The user has a claim on each of the CIDs. -/
def AuthTables.Entitles (S : AuthTables) (user : Int) (cids : List String) : Prop :=
  ∀ cid ∈ cids, cid ≠ "" → ∃ c : PgText, c.val = cid ∧ (S.cids.lookup (c, user)).isSome = true

section

variable {S S' : AuthTables} {user : Int} {cids : List String}

theorem AuthTables.Entitles.kept (h : S.Entitles user cids) (hkept : ClaimsKept S S') :
    S'.Entitles user cids := by
  intro cid hcid hne
  obtain ⟨c, hc, hsome⟩ := h cid hcid hne
  obtain ⟨txHash, hrow⟩ := Option.isSome_iff_exists.mp hsome
  exact ⟨c, hc, Option.isSome_iff_exists.mpr ⟨txHash, hkept _ _ hrow⟩⟩

theorem entitles_insertCid {cid txHash : String} (h : S.insertCid cid user txHash = .ok S') :
    S'.Entitles user [cid] := by
  intro c hc hne
  obtain ⟨p, hp, h⟩ := except_bind_eq_ok.mp h
  obtain ⟨q, -, h⟩ := except_bind_eq_ok.mp h
  cases h
  refine ⟨p, (PgText.val_of_ofString hp).trans (List.mem_singleton.mp hc).symm, ?_⟩
  rw [Table.lookup_insertNew, if_pos rfl]
  rfl

theorem AuthTables.Entitles.isCidClaimedByUser (h : S.Entitles user cids) {cid : String}
    (hcid : cid ∈ cids) (hne : cid ≠ "") : S.isCidClaimedByUser cid user = .ok true := by
  obtain ⟨c, rfl, hsome⟩ := h cid hcid hne
  rw [S.isCidClaimedByUser_of_nulFree c.nulFree, hsome]

end

theorem forEach_of_rounds {α σ ε : Type} {as : List α} {f : α → Prog σ ε Unit} {t : σ}
    (h : ∀ a ∈ as, f a t = (.ok (), t)) : forEach as f t = (.ok (), t) := by
  induction as with
  | nil => rfl
  | cons a as ih =>
    rw [forEach, bind_of_ok (h a List.mem_cons_self)]
    exact ih fun b hb => h b (List.mem_cons_of_mem a hb)

/-- The content check passes where every CID that is named has a claim in the base. -/
theorem validateTrackContentAuth_of_entitles {o : Overlay} {tx : AuthTx} {cids : List String}
    (h : o.base.Entitles tx.userId cids)
    (hnamed : ∀ key ∈ trackCidMetadataKeys, tx.metaString key ≠ "" → tx.metaString key ∈ cids)
    (rt : GoRuntime) (rules : Rules) : validateTrackContentAuth rt tx rules o = (.ok (), o) := by
  unfold validateTrackContentAuth
  split
  · rfl
  · refine forEach_of_rounds fun key hkey => ?_
    dsimp only
    split
    · rfl
    · rename_i hne
      have hclaimed : o.isCidClaimedByUser (tx.metaString key) tx.userId = .ok true := by
        rw [Overlay.isCidClaimedByUser, h.isCidClaimedByUser (hnamed key hkey hne) hne, ite_self]
      have hread : isCidClaimedByUser (tx.metaString key) tx.userId o =
          ((.ok true, o) : Except AuthError Bool × Overlay) :=
        congrArg (fun r : Except PgError Bool => (r.mapError AuthError.store, o)) hclaimed
      rw [bind_of_ok hread]
      rfl

namespace Server

variable {s : Server}

/-- A live transaction has recorded every CID of the attestation. -/
theorem entitles_projectContentAttestationCids {ca : ContentAttestation} {txHash : String}
    (huser : ca.userId ≠ 0) {t : Txn Db}
    (hlive : (projectContentAttestationCids ca txHash t).2.aborted = false) :
    (projectContentAttestationCids ca txHash t).2.view.auth.Entitles ca.userId ca.cids := by
  have hloop : projectContentAttestationCids ca txHash t = (forEach ca.cids fun cid =>
      if cid = "" then pure () else AuthStore.insertCid cid ca.userId txHash :
        Prog (Txn Db) AuthError Unit) t := by
    unfold projectContentAttestationCids
    rw [rejectIf, if_neg huser]
    rfl
  rw [hloop] at hlive ⊢
  have hstrict : Txn.Strict (forEach ca.cids fun cid =>
      if cid = "" then pure () else AuthStore.insertCid cid ca.userId txHash :
        Prog (Txn Db) AuthError Unit) :=
    .forEach fun cid => .ite (Txn.strict_pure ()) (strict_authWrite _)
  obtain ⟨⟨⟩, hok⟩ := hstrict.eq_ok hlive
  have hall := forEach_eq_ok (P := fun cid (t : Txn Db) => t.view.auth.Entitles ca.userId [cid])
    ?_ ?_ hok
  · intro cid hcid
    exact hall cid hcid cid (List.mem_singleton_self cid)
  · intro cid t t' hround
    split at hround
    · rename_i hempty
      intro c hc hne
      exact absurd ((List.mem_singleton.mp hc).trans hempty) hne
    · obtain ⟨S, hS, rfl⟩ := authWrite_eq_ok hround
      exact entitles_insertCid hS
  · intro cid other t t' hround h
    split at hround
    · cases hround
      exact h
    · obtain ⟨S, hS, rfl⟩ := authWrite_eq_ok hround
      exact h.kept (insertCid_claimsKept hS)

theorem ok_of_verdict {r : Except GoError Unit} (h : verdict r = .ok true) : r = .ok () := by
  unfold verdict at h
  split at h
  · rfl
  · split at h <;> cases h

theorem userId_of_isValidContentAttestation {ca : ContentAttestation}
    (h : s.isValidContentAttestation ca = .ok ()) : ca.userId ≠ 0 :=
  (refuseIf_bind_eq_ok.mp h).1

theorem entitles_executeTx {tx : Bytes} {ca : ContentAttestation}
    (hbody : s.bodyOf tx = some (.contentAttestation ca)) {req : FinalizeBlockRequest}
    (hon : (s.rules req.height).contentAuthEnforced = true)
    (hvalid : s.isValidContentAttestation ca = .ok ()) (index : Nat) {t : Txn Db}
    (hlive : (s.executeTx req index tx t).2.aborted = false) :
    (s.executeTx req index tx t).2.view.auth.Entitles ca.userId ca.cids := by
  obtain ⟨stx, hdecode, hbody⟩ := Option.bind_eq_some_iff.mp hbody
  have hother : deregisteredAddress stx.transaction = "" := by
    rw [hbody]
    rfl
  have hfin : s.finalizeTransaction req stx (s.ext.toTxHashFromBytes tx) =
      s.finalizeContentAttestation ca (s.ext.toTxHashFromBytes tx) req.height := by
    unfold finalizeTransaction
    rw [hbody]
  have hproject : (s.finalizeContentAttestation ca (s.ext.toTxHashFromBytes tx) req.height t).2 =
      (projectContentAttestationCids ca (s.ext.toTxHashFromBytes tx) t).2 := by
    unfold finalizeContentAttestation
    rw [if_neg (by rw [hon]; exact Bool.true_eq_false.mp), hvalid]
    rfl
  obtain ⟨hpart, haborted⟩ := s.executeTx_finalizes hdecode hother req index t
  have hauth := hpart .auth (by simp)
  rw [hfin] at hauth haborted
  rw [hproject] at hauth haborted
  have hentitled := entitles_projectContentAttestationCids
    (userId_of_isValidContentAttestation hvalid) (haborted hlive)
  have hsame : (s.executeTx req index tx t).2.view.auth = _ := hauth
  rw [hsame]
  exact hentitled

/-- A block that is accepted and committed while attestations count records those in it. -/
theorem entitles_commitBlock {db db' : Db} {b : Block} {tx : Bytes} {ca : ContentAttestation}
    (htx : tx ∈ b.req.txs) (hbody : s.bodyOf tx = some (.contentAttestation ca))
    (hon : (s.rules b.req.height).contentAuthEnforced = true)
    (haccepts : (s.voter db b).Accepts b.req)
    (hcommit : (s.executor db b).commitBlock b.req = some db') :
    db'.auth.Entitles ca.userId ca.cids := by
  obtain ⟨stx, hdecode, hstx⟩ := Option.bind_eq_some_iff.mp hbody
  -- voting and executing, the node reads the same committed database
  have hvalid : (s.executor db b).isValidContentAttestation ca = .ok () := by
    have hpass := haccepts.passes_body (s.voter db b) htx hdecode hstx (by simp)
    have hverdict : verdict ((s.voter db b).isValidContentAttestation ca) = .ok true :=
      (if_pos hon).symm.trans hpass
    exact ok_of_verdict hverdict
  obtain ⟨n, hn⟩ := List.mem_iff_getElem?.mp htx
  have hle : n + 1 ≤ b.req.txs.length := (List.getElem?_eq_some_iff.mp hn).1
  have hlive := live_progress hle le_rfl (live_of_commitBlock hcommit)
  have hstep := (s.executor db b).txn_progress_succ b.req hn
  rw [hstep] at hlive
  have hentitled := entitles_executeTx (s := s.executor db b) hbody hon hvalid n hlive
  rw [← hstep] at hentitled
  have hkept : OnPart .auth ClaimsKept _ _ := (s.executor db b).onPart_progress
    ((s.executor db b).keepsClaims_executeTx b.req) hle le_rfl
  have hend : db'.auth = _ := (s.executor db b).part_commitBlock hcommit (p := .auth) (by simp)
  rw [hend]
  exact hentitled.kept hkept

theorem claimsKept_commitBlock {db db' : Db} {b : Block}
    (hcommit : (s.executor db b).commitBlock b.req = some db') : ClaimsKept db.auth db'.auth := by
  have hend : db'.auth = _ := (s.executor db b).part_commitBlock hcommit (p := .auth) (by simp)
  rw [hend]
  exact (s.executor db b).part_progress (p := .auth) (by simp)
    ((s.executor db b).keepsClaims_executeTx b.req) le_rfl

theorem entitles_commitAll {db db' : Db} {bs : List Block} {user : Int} {cids : List String}
    (h : db.auth.Entitles user cids) (hend : s.commitAll db bs = some db') :
    db'.auth.Entitles user cids := by
  induction bs generalizing db with
  | nil =>
    cases hend
    exact h
  | cons b bs ih =>
    obtain ⟨db₁, hcommit, hend⟩ := Option.bind_eq_some_iff.mp hend
    exact ih (h.kept (claimsKept_commitBlock hcommit)) hend

/-- Once an attestation is committed, its user may name the attested CIDs on a track: the content
check passes in every later block, whatever came before the track in it. -/
theorem attested_cids_accepted {db db' : Db} {b : Block} {bs : List Block} {tx : Bytes}
    {ca : ContentAttestation} (htx : tx ∈ b.req.txs)
    (hbody : s.bodyOf tx = some (.contentAttestation ca))
    (hon : (s.rules b.req.height).contentAuthEnforced = true)
    (haccepts : (s.voter db b).Accepts b.req) (hend : s.commitAll db (b :: bs) = some db')
    {o : Overlay} (ho : o.base = db'.auth) {em : AuthTx} (huser : em.userId = ca.userId)
    (hnamed : ∀ key ∈ trackCidMetadataKeys, em.metaString key ≠ "" → em.metaString key ∈ ca.cids)
    (rules : Rules) : validateTrackContentAuth s.rt em rules o = (.ok (), o) := by
  obtain ⟨db₁, hcommit, hend⟩ := Option.bind_eq_some_iff.mp hend
  have hentitled := entitles_commitAll (entitles_commitBlock htx hbody hon haccepts hcommit) hend
  rw [← huser, ← ho] at hentitled
  exact validateTrackContentAuth_of_entitles hentitled hnamed s.rt rules

/-! ### An upload of the first user -/

def uploadAttestation : ContentAttestation where
  userId := 1
  cids := ["QmOriginal", "QmTranscode"]
  validatorAddress := "0x7E5F4552091A69125d5DfCb7b8C2659029395Bdf"
  validatorSignature := "dce4c7e56ebae3cdded89f0703ce0b30f27755086c96d32d2feafabd82ba39b73c" ++
    "e5dc639a73e5335fda8580bda69f102cc24fa95c3dba76fa1d1291bc30d2d601"

def uploadAttestationTx : Bytes :=
  bigEndian 40 0xb23fcc010801120a516d4f726967696e616c120b516d5472616e73636f64651a2a30783745354634 ++
    bigEndian 40 0x35353230393141363931323564354466436237623843323635393032393339354264662282016463 ++
    bigEndian 40 0x65346337653536656261653363646465643839663037303363653062333066323737353530383663 ++
    bigEndian 40 0x39366433326432666561666162643832626133396237336365356463363339613733653533333566 ++
    bigEndian 40 0x64613835383062646136396631303263633234666139356333646261373666613164313239316263 ++
    bigEndian 8 0x3330643264363031

def uploadAttestationCalls : Externals.Recorded where
  sha256 := [
    (bigEndian 27 0x0801120a516d4f726967696e616c120b516d5472616e73636f6465,
      Externals.digest 0xcd2a91282c7d47a6e5edf504b8d32eb64d5d7f63f2e722c9dac6745568f88a36),
    (uploadAttestationTx,
      Externals.digest 0x78ac6f52947440f66d4c0031cae6ecb3088074da95de3e042ffd59ed2a6aab3e)]
  sigToPub := [
    ((bigEndian 32 0xcd2a91282c7d47a6e5edf504b8d32eb64d5d7f63f2e722c9dac6745568f88a36,
      bigEndian 40 0xdce4c7e56ebae3cdded89f0703ce0b30f27755086c96d32d2feafabd82ba39b73ce5dc639a73e533 ++
      bigEndian 25 0x5fda8580bda69f102cc24fa95c3dba76fa1d1291bc30d2d601),
      firstKey.pubKey)]
  marshal := [(.contentAttestationPayload 1 ["QmOriginal", "QmTranscode"],
    bigEndian 27 0x0801120a516d4f726967696e616c120b516d5472616e73636f6465)]
  unmarshalSigned :=
    [(uploadAttestationTx, { transaction := some (.contentAttestation uploadAttestation) })]

def uploadNode : Server :=
  .devnet (uploadAttestationCalls ++ firstKey.calls) { firstUserDb with validators := [firstNode] }

def uploadBlock : Block where
  req :=
    { txs := [uploadAttestationTx]
      misbehavior := []
      hash := bigEndian 32 2
      height := 2
      time := { seconds := 1700000000 }
      proposerAddress := bigEndian 20 2 }
  voting := ⟨1, false⟩
  executing := ⟨1, false⟩

def publishedTrack : AuthTx :=
  authTxFromManageEntity
    { userId := 1
      entityType := "Track"
      entityId := 2000000
      action := "Create"
      metadata := "\x7b\"track_cid\":\"QmTranscode\",\"orig_file_cid\":\"QmOriginal\"\x7d"
      signer := firstWallet.val }

/-- After the block with the attestation, the track of the upload passes the strict check, which it
fails before. -/
theorem attested_cids_accepted_upload :
    (validateTrackContentAuth uploadNode.rt publishedTrack
        { contentAuthEnforced := true, contentAuthStrict := true }
        (uploadNode.newProposalAuthOverlay)).1.isOk = false ∧
      ∃ db', uploadNode.commitAll uploadNode.committed [uploadBlock] = some db' ∧
        validateTrackContentAuth uploadNode.rt publishedTrack
          { contentAuthEnforced := true, contentAuthStrict := true }
          (uploadNode.voter db' uploadBlock).newProposalAuthOverlay =
          (.ok (), (uploadNode.voter db' uploadBlock).newProposalAuthOverlay) := by
  have hblock : uploadAttestationTx ∈ uploadBlock.req.txs ∧
      uploadNode.bodyOf uploadAttestationTx = some (.contentAttestation uploadAttestation) ∧
      (uploadNode.voter uploadNode.committed uploadBlock).Accepts uploadBlock.req ∧
      (uploadNode.commitAll uploadNode.committed [uploadBlock]).isSome = true ∧
      (∀ key ∈ trackCidMetadataKeys, publishedTrack.metaString key ≠ "" →
        publishedTrack.metaString key ∈ uploadAttestation.cids) ∧
      (validateTrackContentAuth uploadNode.rt publishedTrack
        { contentAuthEnforced := true, contentAuthStrict := true }
        (uploadNode.newProposalAuthOverlay)).1.isOk = false := by decide +kernel
  obtain ⟨htx, hbody, haccepts, hcommit, hnamed, hbefore⟩ := hblock
  obtain ⟨db', hend⟩ := Option.isSome_iff_exists.mp hcommit
  exact ⟨hbefore, db', hend,
    attested_cids_accepted htx hbody (by decide) haccepts hend rfl rfl hnamed _⟩

end Server

end OpenAudio.Core
