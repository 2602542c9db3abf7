import OpenAudio.Etl.Tracks

/-!
# Who deletes and pins comments

A comment hangs on a track, an event or a fan club, and their ids share one range of numbers. It is
deleted by its author or by the owner of what it hangs on, and pinned to a track by the owner of
the track. The handlers find the owner through `tracks`, whatever the comment hangs on.
-/

namespace OpenAudio.Etl

open OpenAudio.Core Prog

/-! ### Queries -/

namespace EntityTables

variable (s : EntityTables)

def commentExists (commentID : Int) : Except EtlError Bool := do
  let id ← Int4.ofInt commentID
  return (s.comments.lookup id).isSome

/-- A deleted comment has no owner. -/
def getCommentOwner (commentID : Int) : Except EtlError Int := do
  let id ← Int4.ofInt commentID
  match s.comments.lookup id with
  | some c => if c.isDelete = some true then .error .noRows else return c.userId.val
  | none => .error .noRows

def getCommentEntityID (commentID : Int) : Except EtlError Int := do
  let id ← Int4.ofInt commentID
  match s.comments.lookup id with
  | some c => return c.entityId.val
  | none => .error .noRows

def getPinnedCommentID (trackID : Int) : Except EtlError (Option Int) := do
  let id ← Int4.ofInt trackID
  match s.currentTrack id with
  | some r => return r.pinnedCommentId.map (·.val)
  | none => .error .noRows

end EntityTables

/-! ### The handlers -/

section Handlers

variable (env : EntityEnv) (p : EntityParams)

def validateCommentExists (s : EntityTables) : Except EtlError Unit := do
  let id := p.entityId
  let found ← s.commentExists id
  invalidIf (found = false) s!"comment {id} does not exist"

def validateCommentDelete (s : EntityTables) : Except EtlError Unit := do
  let id := p.entityId
  validateSigner env.rt s.base p.toParams
  validateCommentExists p s
  let commentOwner ← s.getCommentOwner id
  if p.userId = commentOwner then return ()
  else
    let entityID ← s.getCommentEntityID id
    let trackOwner ← s.getTrackOwner entityID
    invalidIf (p.userId ≠ trackOwner) s!"only comment owner or track owner can delete comment {id}"

def commentDeleteHandler : EntityProg Unit := do
  reads (validateCommentDelete env p)
  stmt fun s => do
    let id ← Int4.ofInt p.entityId
    return { s with comments := s.comments.update id fun c => { c with isDelete := some true } }

def validatePinState (isPin : Bool) (pinned : Option Int) : Except EtlError Unit := do
  let id := p.entityId
  invalidIf (isPin = true ∧ pinned = some id) s!"comment {id} is already pinned"
  invalidIf (isPin = false ∧ pinned ≠ some id) s!"comment {id} is not pinned"

def validatePinTx (isPin : Bool) (s : EntityTables) : Except EtlError Unit := do
  validateSigner env.rt s.base p.toParams
  validateCommentExists p s
  match p.metadataInt64 env.rt "entity_id" with
  | none => .error (.validation "entity_id is required for pin/unpin")
  | some trackID =>
    match s.getTrackOwner trackID with
    | .error _ => .error (.validation s!"track {trackID} does not exist")
    | .ok trackOwner =>
      invalidIf (p.userId ≠ trackOwner) "only track owner can pin/unpin comments"
      let pinned ← s.getPinnedCommentID trackID
      validatePinState p isPin pinned

/-- `UPDATE tracks SET pinned_comment_id = …` for the track the metadata names. -/
def setPinnedComment (pinned : Option Int) : EntityProg Unit := stmt fun s => do
  let trackID ← Int4.ofInt ((p.metadataInt64 env.rt "entity_id").getD 0)
  let comment ← bindOptInt pinned
  return s.updateTracks trackID fun r => { r with pinnedCommentId := comment }

def commentPinHandler : EntityProg Unit := do
  reads (validatePinTx env p true)
  setPinnedComment env p (some p.entityId)

def commentUnpinHandler : EntityProg Unit := do
  reads (validatePinTx env p false)
  setPinnedComment env p none

/-- The handler of a live Comment Delete, Pin or Unpin. -/
def commentHandler : Option (EntityProg Unit) :=
  if p.entityType = "Comment" ∧ p.action = "Delete" then some (commentDeleteHandler env p)
  else if p.entityType = "Comment" ∧ p.action = "Pin" then some (commentPinHandler env p)
  else if p.entityType = "Comment" ∧ p.action = "Unpin" then some (commentUnpinHandler env p)
  else none

end Handlers

/-! ### Whose comment it is -/

/-- The owner of what a comment hangs on. A fan club has the id of its artist. -/
def EntityTables.entityOwner (s : EntityTables) (entityType : String) (id : Int4) : Option Int4 :=
  if entityType = "Track" then (s.currentTrack id).map (·.ownerId)
  else if entityType = "Event" then (s.events.find? fun e => e.eventId == id).map (·.userId)
  else if entityType = "FanClub" then some id
  else none

/-- The user wrote the comment or owns the very entity it hangs on. -/
def DeletesOwn (s : EntityTables) (p : EntityParams) : Prop :=
  ∃ (id user : Int4) (c : CommentRow), id.val = p.entityId ∧ user.val = p.userId ∧
    s.comments.lookup id = some c ∧
    (c.userId = user ∨ s.entityOwner c.entityType c.entityId = some user)

/-- The user owns the track the metadata names, and the comment hangs on that track. -/
def PinsOwn (env : EntityEnv) (s : EntityTables) (p : EntityParams) : Prop :=
  ∃ (id user track : Int4) (c : CommentRow), id.val = p.entityId ∧ user.val = p.userId ∧
    p.metadataInt64 env.rt "entity_id" = some track.val ∧
    s.entityOwner "Track" track = some user ∧
    s.comments.lookup id = some c ∧ c.entityType = "Track" ∧ c.entityId = track

def ActsOnOwn (env : EntityEnv) (s : EntityTables) (p : EntityParams) : Prop :=
  if p.action = "Delete" then DeletesOwn s p else PinsOwn env s p

/-- For a comment that someone else wrote, the entity it hangs on and the track of that id have the
same owner. -/
def OwnerIsTrackOwner (s : EntityTables) (p : EntityParams) : Prop :=
  ∀ (id : Int4) (c : CommentRow), id.val = p.entityId → s.comments.lookup id = some c →
    c.userId.val = p.userId ∨
      s.entityOwner c.entityType c.entityId = s.entityOwner "Track" c.entityId

/-- The metadata name the entity that the comment hangs on, and this is a track. -/
def NamesItsTrack (env : EntityEnv) (s : EntityTables) (p : EntityParams) : Prop :=
  ∀ (id : Int4) (c : CommentRow), id.val = p.entityId → s.comments.lookup id = some c →
    c.entityType = "Track" ∧ p.metadataInt64 env.rt "entity_id" = some c.entityId.val

def HangsRight (env : EntityEnv) (s : EntityTables) (p : EntityParams) : Prop :=
  if p.action = "Delete" then OwnerIsTrackOwner s p else NamesItsTrack env s p

section Spec

variable {env : EntityEnv} {p : EntityParams} {s s' : EntityTables}

theorem validateCommentExists_eq_ok (h : validateCommentExists p s = .ok ()) :
    ∃ (id : Int4) (c : CommentRow), id.val = p.entityId ∧ s.comments.lookup id = some c := by
  obtain ⟨found, hfound, h⟩ := except_bind_eq_ok.mp h
  obtain ⟨id, hid, hfound⟩ := except_bind_eq_ok.mp hfound
  have hyes : found = true := by simpa using invalidIf_eq_ok.mp h
  have hsome : (s.comments.lookup id).isSome = true := (Except.ok.inj hfound).trans hyes
  obtain ⟨c, hc⟩ := Option.isSome_iff_exists.mp hsome
  exact ⟨id, c, Int4.ofInt_eq_ok hid, hc⟩

theorem getTrackOwner_eq_ok {trackID : Int} {owner : Int}
    (h : s.getTrackOwner trackID = .ok owner) :
    ∃ track user : Int4, track.val = trackID ∧ user.val = owner ∧
      s.entityOwner "Track" track = some user := by
  obtain ⟨track, htrack, h⟩ := except_bind_eq_ok.mp h
  split at h
  · rename_i r hr
    cases h
    refine ⟨track, r.ownerId, Int4.ofInt_eq_ok htrack, rfl, ?_⟩
    simp [EntityTables.entityOwner, hr]
  · cases h

/-- A delete passes if the user wrote the comment or owns the track with its entity's id. -/
theorem validateCommentDelete_eq_ok (h : validateCommentDelete env p s = .ok ()) :
    ∃ (id user : Int4) (c : CommentRow), id.val = p.entityId ∧ user.val = p.userId ∧
      s.comments.lookup id = some c ∧
      (c.userId = user ∨ s.entityOwner "Track" c.entityId = some user) := by
  unfold validateCommentDelete at h
  obtain ⟨-, -, h⟩ := except_bind_eq_ok.mp h
  obtain ⟨_, hexists, h⟩ := except_bind_eq_ok.mp h
  obtain ⟨id, c, hid, hc⟩ := validateCommentExists_eq_ok hexists
  obtain ⟨owner, howner, h⟩ := except_bind_eq_ok.mp h
  unfold EntityTables.getCommentOwner at howner
  rw [← hid, Int4.ofInt_val] at howner
  simp only [bind, Except.bind, hc] at howner
  split at howner
  · cases howner
  · cases howner
    split at h
    · rename_i huser
      exact ⟨id, c.userId, c, hid, huser.symm, hc, .inl rfl⟩
    · obtain ⟨entityID, hentity, h⟩ := except_bind_eq_ok.mp h
      obtain ⟨trackOwner, htrack, h⟩ := except_bind_eq_ok.mp h
      have huser : p.userId = trackOwner := by simpa using invalidIf_eq_ok.mp h
      unfold EntityTables.getCommentEntityID at hentity
      rw [← hid, Int4.ofInt_val] at hentity
      simp only [bind, Except.bind, hc] at hentity
      cases hentity
      obtain ⟨track, user, htrackId, huserId, howned⟩ := getTrackOwner_eq_ok htrack
      obtain rfl : track = c.entityId := Int4.ext htrackId
      exact ⟨id, user, c, hid, huserId.trans huser.symm, hc, .inr howned⟩

/-- A pin or an unpin passes only for the owner of the track the metadata names. -/
theorem validatePinTx_eq_ok {isPin : Bool} (h : validatePinTx env p isPin s = .ok ()) :
    ∃ (id user track : Int4) (c : CommentRow), id.val = p.entityId ∧ user.val = p.userId ∧
      p.metadataInt64 env.rt "entity_id" = some track.val ∧
      s.entityOwner "Track" track = some user ∧ s.comments.lookup id = some c := by
  unfold validatePinTx at h
  obtain ⟨-, -, h⟩ := except_bind_eq_ok.mp h
  obtain ⟨_, hexists, h⟩ := except_bind_eq_ok.mp h
  obtain ⟨id, c, hid, hc⟩ := validateCommentExists_eq_ok hexists
  split at h
  · cases h
  · rename_i trackID hmeta
    split at h
    · cases h
    · rename_i trackOwner howner
      obtain ⟨huser, -⟩ := invalidIf_bind_eq_ok.mp h
      obtain ⟨track, user, htrack, huserId, howned⟩ := getTrackOwner_eq_ok howner
      have huser : p.userId = trackOwner := by simpa using huser
      exact ⟨id, user, track, c, hid, huserId.trans huser.symm, htrack ▸ hmeta, howned, hc⟩

theorem deletesOwn_iff (h : validateCommentDelete env p s = .ok ()) :
    DeletesOwn s p ↔ OwnerIsTrackOwner s p := by
  obtain ⟨id, user, c, hid, huser, hc, howns⟩ := validateCommentDelete_eq_ok h
  constructor
  · rintro ⟨id', user', c', hid', huser', hc', howns'⟩ id'' c'' hid'' hc''
    obtain rfl : id' = id := Int4.ext (hid'.trans hid.symm)
    obtain rfl : id'' = id' := Int4.ext (hid''.trans hid.symm)
    obtain rfl : c' = c := Option.some.inj (hc'.symm.trans hc)
    obtain rfl : c'' = c' := Option.some.inj (hc''.symm.trans hc)
    obtain rfl : user' = user := Int4.ext (huser'.trans huser.symm)
    rcases howns with rfl | htrack
    · exact .inl huser
    · rcases howns' with rfl | hentity
      · exact .inl huser
      · exact .inr (hentity.trans htrack.symm)
  · intro hsame
    refine ⟨id, user, c, hid, huser, hc, ?_⟩
    rcases howns with rfl | htrack
    · exact .inl rfl
    · rcases hsame id c hid hc with hwrote | hsame
      · exact .inl (Int4.ext (hwrote.trans huser.symm))
      · exact .inr (hsame.trans htrack)

theorem pinsOwn_iff {isPin : Bool} (h : validatePinTx env p isPin s = .ok ()) :
    PinsOwn env s p ↔ NamesItsTrack env s p := by
  obtain ⟨id, user, track, c, hid, huser, hmeta, howned, hc⟩ := validatePinTx_eq_ok h
  constructor
  · rintro ⟨id', user', track', c', hid', -, hmeta', -, hc', htype, hentity⟩ id'' c'' hid'' hc''
    obtain rfl : id'' = id' := Int4.ext (hid''.trans hid'.symm)
    obtain rfl : c'' = c' := Option.some.inj (hc''.symm.trans hc')
    exact ⟨htype, hentity ▸ hmeta'⟩
  · intro hnames
    obtain ⟨htype, hnamed⟩ := hnames id c hid hc
    have hentity : c.entityId = track := Int4.ext (Option.some.inj (hnamed.symm.trans hmeta))
    exact ⟨id, user, track, c, hid, huser, hmeta, howned, hc, htype, hentity⟩

/-- What an accepted transaction was checked for. -/
theorem commentHandler_cases (h : ∃ handle, commentHandler env p = some handle ∧
    handle s = (.ok (), s')) :
    (p.action = "Delete" ∧ validateCommentDelete env p s = .ok ()) ∨
      (p.action ≠ "Delete" ∧ ∃ isPin, validatePinTx env p isPin s = .ok ()) := by
  obtain ⟨handle, hhandle, hrun⟩ := h
  unfold commentHandler at hhandle
  split at hhandle
  · rename_i hkind
    cases hhandle
    obtain ⟨_, hvalid, -⟩ := reads_bind_eq_ok hrun
    exact .inl ⟨hkind.2, hvalid⟩
  · split at hhandle
    · rename_i hkind
      cases hhandle
      obtain ⟨_, hvalid, -⟩ := reads_bind_eq_ok hrun
      exact .inr ⟨by rw [hkind.2]; decide, true, hvalid⟩
    · split at hhandle
      · rename_i hkind
        cases hhandle
        obtain ⟨_, hvalid, -⟩ := reads_bind_eq_ok hrun
        exact .inr ⟨by rw [hkind.2]; decide, false, hvalid⟩
      · cases hhandle

end Spec

/-! ### Main results -/

/-- An accepted Delete comes from the author or from the owner of the comment's entity exactly if
that owner is the owner of the track with the same id, and an accepted Pin or Unpin, which only the
owner of the named track gets through, is about a comment on that track exactly if the metadata
name it. -/
theorem comment_actsOnOwn_iff {env : EntityEnv} {tx : EntityTx} {s s' : EntityTables}
    (h : Accepts (commentHandler env) tx s s') :
    ActsOnOwn env s tx.params ↔ HangsRight env s tx.params := by
  unfold ActsOnOwn HangsRight
  rcases commentHandler_cases h with ⟨hdelete, hvalid⟩ | ⟨hpin, isPin, hvalid⟩
  · rw [if_pos hdelete, if_pos hdelete]
    exact deletesOwn_iff hvalid
  · rw [if_neg hpin, if_neg hpin]
    exact pinsOwn_iff hvalid

/-! ### Comments of others -/

/-- A comment of user 3 on something with the id of the track of user 1. -/
def commentTables (entityType : String) (entityId : Int4) : EntityTables :=
  { oneUser with
    tracks := [ownTrack]
    events := [{ eventId := int4 2000000 trackId_lt_int4, eventType := "remix_contest"
                 userId := int4 2 (by decide), entityId := none, endDate := none
                 isDeleted := false }]
    comments := AList.insert (int4 4000000 (by decide))
      ⟨int4 3 (by decide), entityId, entityType, some false⟩ ∅ }

def deleteComment : EntityTx := (ownTrackTx "Delete" "\x7b\x7d").retarget "Comment" 4000000 0

def deleteCommentParams : EntityParams := (ownTrackParams "Delete" []).retarget "Comment" 4000000 0

theorem params_deleteComment : deleteComment.params = deleteCommentParams := by
  rw [deleteComment, params_retarget, deleteCommentParams, params_ownTrackTx]
  rw [Json.parse, Json.numbersInRange, Json.tokens, toList_eq_of_ofList rfl]
  rfl

theorem accepts_deleteComment {s : EntityTables}
    (h : (commentDeleteHandler .plain deleteCommentParams s).1.isOk = true) :
    Accepts (commentHandler .plain) deleteComment s
      (commentDeleteHandler .plain deleteComment.params s).2 := by
  rw [params_deleteComment]
  apply accepts_of_isOk _ h
  rw [params_deleteComment]
  rfl

/-- The owner of a track deletes a comment on it. -/
theorem deletes_comment_on_own_track :
    Accepts (commentHandler .plain) deleteComment
      (commentTables "Track" (int4 2000000 (by decide)))
      (commentDeleteHandler .plain deleteComment.params
        (commentTables "Track" (int4 2000000 (by decide)))).2 ∧
    ActsOnOwn .plain (commentTables "Track" (int4 2000000 (by decide))) deleteComment.params := by
  have haccepts := accepts_deleteComment
    (s := commentTables "Track" (int4 2000000 (by decide))) (by decide +kernel)
  refine ⟨haccepts, (comment_actsOnOwn_iff haccepts).mpr ?_⟩
  rw [HangsRight, if_pos (show deleteComment.params.action = "Delete" from rfl)]
  intro id c hid hc
  obtain rfl : id = int4 4000000 (by decide) := Int4.ext hid
  cases Option.some.inj hc
  exact .inr rfl

def pinComment : EntityTx :=
  (ownTrackTx "Pin" "\x7b\"entity_id\":2000000\x7d").retarget "Comment" 4000000 0

def pinCommentParams : EntityParams :=
  (ownTrackParams "Pin" [("entity_id", .num ⟨false, 2000000, 0⟩)]).retarget "Comment" 4000000 0

theorem params_pinComment : pinComment.params = pinCommentParams := by
  rw [pinComment, params_retarget, pinCommentParams, params_ownTrackTx]
  rw [Json.parse, Json.numbersInRange, Json.tokens, toList_eq_of_ofList rfl]
  rfl

/-- The owner of a track deletes a comment on an event of someone else that has the id of the track,
and pins a comment that is on another track. -/
theorem acts_on_others_comments :
    (Accepts (commentHandler .plain) deleteComment
      (commentTables "Event" (int4 2000000 (by decide)))
      (commentDeleteHandler .plain deleteComment.params
        (commentTables "Event" (int4 2000000 (by decide)))).2 ∧
      ¬ ActsOnOwn .plain (commentTables "Event" (int4 2000000 (by decide)))
        deleteComment.params) ∧
    (Accepts (commentHandler .plain) pinComment
      (commentTables "Track" (int4 2000001 (by decide)))
      (commentPinHandler .plain pinComment.params
        (commentTables "Track" (int4 2000001 (by decide)))).2 ∧
      ¬ ActsOnOwn .plain (commentTables "Track" (int4 2000001 (by decide)))
        pinComment.params) := by
  refine ⟨⟨accepts_deleteComment (by decide +kernel), ?_⟩, ?_, ?_⟩
  · rw [ActsOnOwn, if_pos (show deleteComment.params.action = "Delete" from rfl)]
    rintro ⟨id, user, c, hid, huser, hc, howns⟩
    obtain rfl : id = int4 4000000 (by decide) := Int4.ext hid
    obtain rfl : user = int4 1 (by decide) := Int4.ext huser
    cases Option.some.inj hc
    revert howns
    decide
  · rw [params_pinComment]
    apply accepts_of_isOk
    · rw [params_pinComment]
      rfl
    · decide +kernel
  · rw [ActsOnOwn, if_neg (by decide), params_pinComment]
    rintro ⟨id, user, track, c, hid, -, hmeta, -, hc, -, hentity⟩
    obtain rfl : id = int4 4000000 (by decide) := Int4.ext hid
    cases Option.some.inj hc
    subst hentity
    revert hmeta
    decide +kernel

end OpenAudio.Etl
