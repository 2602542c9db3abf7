import OpenAudio.Core.Server

/-!
# What a statement leaves alone

The database falls into parts, and every statement writes one of them. A program on the block's
transaction leaves a part untouched when every statement it issues writes another one; the rules
below carry that through the program.
-/

namespace OpenAudio.Core

open Prog

/-- The parts of the database. -/
inductive Part where
  | chain | validators | validatorHistory | sla | storageProofs | rewards | uploads | tracks | auth
  | ddex
deriving DecidableEq, Repr

abbrev Part.Rows : Part → Type
  | .chain => ChainTables
  | .validators => List ValidatorRow
  | .validatorHistory => List ValidatorHistoryRow
  | .sla => SlaTables
  | .storageProofs => Table (PgText × Int) StorageProofRow
  | .rewards => RewardTables
  | .uploads => List UploadRow
  | .tracks => TrackTables
  | .auth => AuthTables
  | .ddex => DdexTables

namespace Db

def part (db : Db) : (p : Part) → p.Rows
  | .chain => db.chain
  | .validators => db.validators
  | .validatorHistory => db.validatorHistory
  | .sla => db.sla
  | .storageProofs => db.storageProofs
  | .rewards => db.rewards
  | .uploads => db.uploads
  | .tracks => db.tracks
  | .auth => db.auth
  | .ddex => db.ddex

def setPart (db : Db) : (p : Part) → p.Rows → Db
  | .chain, rows => { db with chain := rows }
  | .validators, rows => { db with validators := rows }
  | .validatorHistory, rows => { db with validatorHistory := rows }
  | .sla, rows => { db with sla := rows }
  | .storageProofs, rows => { db with storageProofs := rows }
  | .rewards, rows => { db with rewards := rows }
  | .uploads, rows => { db with uploads := rows }
  | .tracks, rows => { db with tracks := rows }
  | .auth, rows => { db with auth := rows }
  | .ddex, rows => { db with ddex := rows }

theorem part_setPart_of_ne (db : Db) {p q : Part} (h : p ≠ q) (rows : q.Rows) :
    (db.setPart q rows).part p = db.part p := by
  cases q <;> cases p <;> first | rfl | exact absurd rfl h

end Db

/-! ### Statements -/

/-- If the result is a database, it is `db` with the rows of `p` replaced. -/
def ReplacesPart {α : Type} (p : Part) (db : Db) (r : Except PgError (α × Db)) : Prop :=
  ∀ a db', r = .ok (a, db') → ∃ rows, db' = db.setPart p rows

section ReplacesPart

variable {α β : Type} {p : Part} {db : Db}

theorem replacesPart_error (e : PgError) :
    ReplacesPart p db (.error e : Except PgError (α × Db)) := by
  intro a db' h
  cases h

theorem replacesPart_ok (a : α) (rows : p.Rows) : ReplacesPart p db (.ok (a, db.setPart p rows)) := by
  intro a' db' h
  cases h
  exact ⟨rows, rfl⟩

theorem ReplacesPart.bind {x : Except PgError β} {f : β → Except PgError (α × Db)}
    (h : ∀ b, ReplacesPart p db (f b)) : ReplacesPart p db (x >>= f) := by
  intro a db' hx
  obtain ⟨b, -, hb⟩ := except_bind_eq_ok.mp hx
  exact h b a db' hb

theorem ReplacesPart.ite {c : Prop} [Decidable c] {r r' : Except PgError (α × Db)}
    (h : ReplacesPart p db r) (h' : ReplacesPart p db r') :
    ReplacesPart p db (if c then r else r') := by
  split
  · exact h
  · exact h'

end ReplacesPart

/-- The statement writes the part `p` and no other. -/
def WritesOnly {α : Type} (p : Part) (q : Stmt Db α) : Prop := ∀ db, ReplacesPart p db (q db)

namespace Db

section Chain

variable (height index createdAt : Int)

theorem writesOnly_storeBlock (chainId hash proposer : String) :
    WritesOnly .chain (storeBlock height chainId hash proposer createdAt) := fun _ =>
  .bind fun _ => .bind fun _ => .bind fun _ =>
    .ite (replacesPart_error _) (replacesPart_ok (p := .chain) _ _)

theorem writesOnly_storeTransaction (txHash : String) (transaction : Bytes) :
    WritesOnly .chain (storeTransaction height index txHash transaction createdAt) := fun _ =>
  .bind fun _ => .ite (replacesPart_error _) (replacesPart_ok (p := .chain) _ _)

theorem writesOnly_insertTxStat (txType txHash : String) :
    WritesOnly .chain (insertTxStat txType txHash height createdAt) := fun _ =>
  .bind fun _ => .bind fun _ => replacesPart_ok (p := .chain) _ _

theorem writesOnly_upsertAppState (appHash : Bytes) :
    WritesOnly .chain (upsertAppState height appHash) := fun _ =>
  .ite (replacesPart_error _) (replacesPart_ok (p := .chain) _ _)

end Chain

section Validators

variable (cometAddress : String)

theorem writesOnly_insertRegisteredNode
    (pubKey endpoint ethAddress cometPubKey ethBlock nodeType spId : String) :
    WritesOnly .validators (insertRegisteredNode pubKey endpoint ethAddress cometAddress cometPubKey
      ethBlock nodeType spId) := fun _ =>
  .bind fun _ => .bind fun _ => .bind fun _ => .bind fun _ => .bind fun _ => .bind fun _ =>
    .bind fun _ => .bind fun _ => replacesPart_ok (p := .validators) _ _

theorem writesOnly_deleteRegisteredNode :
    WritesOnly .validators (deleteRegisteredNode cometAddress) := fun _ =>
  .bind fun _ => replacesPart_ok (p := .validators) _ _

theorem writesOnly_jailRegisteredNode :
    WritesOnly .validators (jailRegisteredNode cometAddress) := fun _ =>
  .bind fun _ => replacesPart_ok (p := .validators) _ _

theorem writesOnly_unjailRegisteredNode :
    WritesOnly .validators (unjailRegisteredNode cometAddress) := fun _ =>
  .bind fun _ => replacesPart_ok (p := .validators) _ _

theorem writesOnly_appendValidatorHistory (endpoint ethAddress serviceType : String)
    (eventType : ValidatorEvent) (spId eventTime eventBlock : Int) :
    WritesOnly .validatorHistory (appendValidatorHistory endpoint ethAddress cometAddress spId
      serviceType eventType eventTime eventBlock) := fun _ =>
  .bind fun _ => .bind fun _ => .bind fun _ => .bind fun _ =>
    replacesPart_ok (p := .validatorHistory) _ _

end Validators

section Sla

theorem writesOnly_commitSlaRollup (time : Int) (txHash : String) (blockStart blockEnd : Int) :
    WritesOnly .sla (commitSlaRollup time txHash blockStart blockEnd) := fun _ =>
  .bind fun _ => replacesPart_ok (p := .sla) _ _

theorem writesOnly_clearUncommittedSlaNodeReports :
    WritesOnly .sla clearUncommittedSlaNodeReports := fun _ => replacesPart_ok (p := .sla) _ _

theorem writesOnly_commitSlaNodeReport (rollupId : Int) (address : String) (blocksProposed : Int) :
    WritesOnly .sla (commitSlaNodeReport rollupId address blocksProposed) := by
  intro db
  refine .bind fun a => ?_
  cases db.sla.rollups.lookup rollupId with
  | none => exact replacesPart_error _
  | some r => exact .ite (replacesPart_error _) (replacesPart_ok (p := .sla) _ _)

theorem writesOnly_upsertSlaRollupReport (address : String) :
    WritesOnly .sla (upsertSlaRollupReport address) := fun _ =>
  .bind fun _ => replacesPart_ok (p := .sla) _ _

end Sla

section StorageProofs

variable (height : Int) (address : String)

theorem writesOnly_insertStorageProof (cid proofSignature : String) (provers : List String) :
    WritesOnly .storageProofs (insertStorageProof height address cid proofSignature provers) :=
  fun _ => .bind fun _ => .bind fun _ => .bind fun _ => .bind fun _ =>
    .ite (replacesPart_error _) (replacesPart_ok (p := .storageProofs) _ _)

theorem writesOnly_updateStorageProof (proof : String) (status : ProofStatus) :
    WritesOnly .storageProofs (updateStorageProof proof status height address) := fun _ =>
  .bind fun _ => .bind fun _ => replacesPart_ok (p := .storageProofs) _ _

theorem writesOnly_insertFailedStorageProof :
    WritesOnly .storageProofs (insertFailedStorageProof height address) := fun _ =>
  .bind fun _ => .ite (replacesPart_error _) (replacesPart_ok (p := .storageProofs) _ _)

end StorageProofs

section Rewards

theorem writesOnly_insertCoreReward (address txHash : String) (index : Int)
    (sender rewardId name : String) (amount : Int) (rm : Option String) (raw : Bytes)
    (height : Int) :
    WritesOnly .rewards (insertCoreReward address txHash index sender rewardId name amount rm raw
      height) := fun _ =>
  .bind fun _ => .bind fun _ => .bind fun _ => .bind fun _ => .bind fun _ => .bind fun _ =>
    .ite (replacesPart_error _) (replacesPart_ok (p := .rewards) _ _)

theorem writesOnly_deleteCoreReward (address : String) :
    WritesOnly .rewards (deleteCoreReward address) := fun _ =>
  .bind fun _ => replacesPart_ok (p := .rewards) _ _

variable (rm : String) (authorities : List String)

theorem writesOnly_upsertLegacyReplayRewardPool (sqlLower : PgText → PgText) :
    WritesOnly .rewards (upsertLegacyReplayRewardPool sqlLower rm authorities) := fun _ =>
  .bind fun _ => .bind fun _ => replacesPart_ok (p := .rewards) _ _

theorem writesOnly_insertRewardPool : WritesOnly .rewards (insertRewardPool rm authorities) :=
  fun _ => .bind fun _ => .bind fun _ =>
    .ite (replacesPart_error _) (replacesPart_ok (p := .rewards) _ _)

theorem writesOnly_updateRewardPoolAuthorities :
    WritesOnly .rewards (updateRewardPoolAuthorities rm authorities) := fun _ =>
  .bind fun _ => .bind fun _ => replacesPart_ok (p := .rewards) _ _

end Rewards

section Tracks

theorem writesOnly_insertFileUpload (uploader cid transcodedCid upid uploadSignature validator
    validatorSignature txHash : String) (height : Int) :
    WritesOnly .uploads (insertFileUpload uploader cid transcodedCid upid uploadSignature validator
      validatorSignature txHash height) := fun _ =>
  .bind fun _ => .bind fun _ => .bind fun _ => .bind fun _ => .bind fun _ => .bind fun _ =>
    .bind fun _ => .bind fun _ => replacesPart_ok (p := .uploads) _ _

variable (trackId : String)

theorem writesOnly_deleteManagementKeysByTrackID :
    WritesOnly .tracks (deleteManagementKeysByTrackID trackId) := fun _ =>
  .bind fun _ => replacesPart_ok (p := .tracks) _ _

theorem writesOnly_deleteSoundRecordingsByTrackID :
    WritesOnly .tracks (deleteSoundRecordingsByTrackID trackId) := fun _ =>
  .bind fun _ => replacesPart_ok (p := .tracks) _ _

theorem writesOnly_insertSoundRecording (id cid : String) :
    WritesOnly .tracks (insertSoundRecording id trackId cid) := fun _ =>
  .bind fun _ => .bind fun _ => .bind fun _ => replacesPart_ok (p := .tracks) _ _

theorem writesOnly_insertManagementKey (address : String) :
    WritesOnly .tracks (insertManagementKey trackId address) := fun _ =>
  .bind fun _ => .bind fun _ => replacesPart_ok (p := .tracks) _ _

end Tracks

section Ddex

theorem writesOnly_insertDdexMessage (table : DdexTable) (address txHash : String) (index : Int)
    (sender : String) (control : Option MessageControlType) (raw ack : Bytes) (height : Int) :
    WritesOnly .ddex (insertDdexMessage table address txHash index sender control raw ack height) :=
  fun _ => .bind fun _ => .bind fun _ => .bind fun _ => replacesPart_ok (p := .ddex) _ _

theorem writesOnly_insertErnEntity (entity : ErnEntity) (address ernAddress : String) (index : Int)
    (txHash : String) (height : Int) :
    WritesOnly .ddex (insertErnEntity entity address ernAddress index txHash height) := fun _ =>
  .bind fun _ => .bind fun _ => .bind fun _ => .bind fun _ =>
    .ite (replacesPart_error _) (replacesPart_ok (p := .ddex) _ _)

end Ddex

end Db

/-! ### Programs -/

/-- The parts `ps` are all the program writes: it keeps every preorder that queries and the
statements on those parts keep. -/
def Footprint {ε α : Type} (ps : List Part) (m : Prog (Txn Db) ε α) : Prop :=
  ∀ (R : Txn Db → Txn Db → Prop) [IsPreorder _ R],
    (∀ {β : Type} (query : Query Db β), Keeps R (Txn.exec query.stmt)) →
    (∀ p ∈ ps, ∀ {β : Type} (stmt : Stmt Db β), WritesOnly p stmt → Keeps R (Txn.exec stmt)) →
    Keeps R m

namespace Footprint

variable {ε ε' α β : Type} {ps : List Part}

protected theorem pure (a : α) : Footprint ps (pure a : Prog (Txn Db) ε α) :=
  fun _ _ _ _ => keeps_pure a

protected theorem fail (e : ε) : Footprint ps (fail e : Prog (Txn Db) ε α) :=
  fun _ _ _ _ => keeps_fail e

protected theorem rejectIf (c : Prop) [Decidable c] (e : ε) :
    Footprint ps (rejectIf c e : Prog (Txn Db) ε Unit) := fun _ _ _ _ => keeps_rejectIf c e

protected theorem ofExcept (r : Except ε α) : Footprint ps (ofExcept r : Prog (Txn Db) ε α) :=
  fun _ _ _ _ => keeps_ofExcept r

theorem bind {m : Prog (Txn Db) ε α} {f : α → Prog (Txn Db) ε β} (hm : Footprint ps m)
    (hf : ∀ a, Footprint ps (f a)) : Footprint ps (m >>= f) :=
  fun R _ hq hw => (hm R hq hw).bind fun a => hf a R hq hw

theorem ite {c : Prop} [Decidable c] {m n : Prog (Txn Db) ε α} (hm : Footprint ps m)
    (hn : Footprint ps n) : Footprint ps (if c then m else n) :=
  fun R _ hq hw => (hm R hq hw).ite (hn R hq hw)

theorem attempt {m : Prog (Txn Db) ε α} (hm : Footprint ps m) :
    Footprint ps (attempt m : Prog (Txn Db) ε' (Except ε α)) := hm

theorem mapError {m : Prog (Txn Db) ε α} (f : ε → ε') (hm : Footprint ps m) :
    Footprint ps (mapError f m) := hm

theorem forEach {as : List α} {f : α → Prog (Txn Db) ε Unit} (hf : ∀ a, Footprint ps (f a)) :
    Footprint ps (forEach as f) :=
  fun R _ hq hw => Keeps.forEach fun a => hf a R hq hw

theorem mono {qs : List Part} {m : Prog (Txn Db) ε α} (hm : Footprint ps m) (h : ps ⊆ qs) :
    Footprint qs m := fun R _ hq hw => hm R hq fun p hp => hw p (h hp)

theorem exec {p : Part} {stmt : Stmt Db α} (h : WritesOnly p stmt) (hp : p ∈ ps) :
    Footprint ps (BlockProg.exec stmt) := fun _ _ _ hw => hw p hp stmt h

theorem query (query : Query Db α) : Footprint ps (BlockProg.query query) :=
  fun _ _ hq _ => hq query

theorem context {m : BlockProg α} (msg : String) (hm : Footprint ps m) :
    Footprint ps (BlockProg.context msg m) := hm

theorem logged {m : BlockProg Unit} (hm : Footprint ps m) :
    Footprint ps (BlockProg.logged m) := hm

theorem savepoint {m : Prog (Txn Db) ε α} (f g : PgError → ε) (hm : Footprint ps m) :
    Footprint ps (Txn.savepoint f g m) := by
  intro R _ hq hw t
  have hmt := hm R hq hw t
  unfold Txn.savepoint
  by_cases ha : t.aborted = true
  · rw [if_pos ha]
    exact refl t
  · rw [if_neg ha]
    match hr : m t with
    | (.ok a, t') =>
      rw [hr] at hmt
      simp only
      split
      · exact hmt
      · exact hmt
    | (.error e, t') => exact refl t

end Footprint

/-! ### What follows from a footprint -/

/-- The program leaves the part `p` of the view as it is. -/
def Untouched {ε α : Type} (p : Part) (m : Prog (Txn Db) ε α) : Prop :=
  Keeps (Same fun t => t.view.part p) m

theorem untouched_exec {α : Type} {p q : Part} {stmt : Stmt Db α} (h : WritesOnly q stmt)
    (hp : p ≠ q) : Untouched p (Txn.exec stmt) := by
  intro t
  unfold Txn.exec
  by_cases ha : t.aborted = true
  · rw [if_pos ha]
    rfl
  · rw [if_neg ha]
    cases hr : stmt t.view with
    | error e => rfl
    | ok r =>
      obtain ⟨a, db'⟩ := r
      obtain ⟨rows, rfl⟩ := h t.view a db' hr
      exact t.view.part_setPart_of_ne hp rows

theorem Footprint.untouched {ε α : Type} {ps : List Part} {p : Part} {m : Prog (Txn Db) ε α}
    (hm : Footprint ps m) (hp : p ∉ ps) : Untouched p m := by
  apply hm
  · intro β query t
    exact congrArg (Db.part · p) (Txn.exec_query_view query t)
  · intro q hq β stmt hstmt
    have hne : p ≠ q := fun he => hp (he ▸ hq)
    exact untouched_exec hstmt hne

/-- `Q` holds between the rows of a part of the views. -/
def OnPart (p : Part) (Q : p.Rows → p.Rows → Prop) (t t' : Txn Db) : Prop :=
  Q (t.view.part p) (t'.view.part p)

instance (p : Part) (Q : p.Rows → p.Rows → Prop) [IsPreorder p.Rows Q] :
    IsPreorder (Txn Db) (OnPart p Q) where
  refl t := refl (t.view.part p)
  trans _ _ _ h₁ h₂ := IsTrans.trans (r := Q) _ _ _ h₁ h₂

theorem Untouched.onPart {ε α : Type} {p : Part} {m : Prog (Txn Db) ε α} (h : Untouched p m)
    {Q : p.Rows → p.Rows → Prop} [IsPreorder p.Rows Q] : Keeps (OnPart p Q) m := by
  intro t
  unfold OnPart
  rw [show (m t).2.view.part p = t.view.part p from h t]
  exact refl _

theorem keeps_onPart_exec {α : Type} {p : Part} {Q : p.Rows → p.Rows → Prop} [IsPreorder p.Rows Q]
    {stmt : Stmt Db α} (h : ∀ db a db', stmt db = .ok (a, db') → Q (db.part p) (db'.part p)) :
    Keeps (OnPart p Q) (BlockProg.exec stmt) := by
  intro t
  rcases BlockProg.oneStatement_exec stmt t with ⟨e, t', hrun, hview⟩ | ⟨a, db, -, hstmt, hrun⟩
  · rw [hrun, OnPart, hview]
    exact refl _
  · rw [hrun]
    exact h t.view a db hstmt

theorem Footprint.later {ε α : Type} {ps : List Part} {m : Prog (Txn Db) ε α}
    (hm : Footprint ps m) : Keeps Txn.Later m :=
  hm Txn.Later (fun _ => Txn.exec_later _) fun _ _ _ stmt _ => Txn.exec_later stmt

end OpenAudio.Core
