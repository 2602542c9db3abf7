import OpenAudio.Etl.Blocks
import OpenAudio.Lib.GoValues

/-!
# The entity tables

What the handlers of ManageEntity transactions read and write. A row holds the values the handlers
give it; a statement binds them and refuses what the driver or the server refuses, and then the
whole transaction fails. The columns that say in which block and transaction a row was written are
left out.
-/

namespace OpenAudio.Etl

open OpenAudio.Core Prog

/-! ### Rows -/

/-- The optional text columns of `tracks`. -/
inductive TrackText where
  | genre | mood | tags | description | coverArt | coverArtSizes | trackCid | previewCid
  | origFileCid | origFilename | ddexApp | parentalWarningType | audioUploadId | license | isrc
  | iswc | coverOriginalSongTitle | coverOriginalArtist | musicalKey
deriving DecidableEq, Repr

namespace TrackText

def key : TrackText → String
  | genre => "genre"
  | mood => "mood"
  | tags => "tags"
  | description => "description"
  | coverArt => "cover_art"
  | coverArtSizes => "cover_art_sizes"
  | trackCid => "track_cid"
  | previewCid => "preview_cid"
  | origFileCid => "orig_file_cid"
  | origFilename => "orig_filename"
  | ddexApp => "ddex_app"
  | parentalWarningType => "parental_warning_type"
  | audioUploadId => "audio_upload_id"
  | license => "license"
  | isrc => "isrc"
  | iswc => "iswc"
  | coverOriginalSongTitle => "cover_original_song_title"
  | coverOriginalArtist => "cover_original_artist"
  | musicalKey => "musical_key"

end TrackText

/-- The boolean columns of `tracks` that metadata sets. -/
inductive TrackFlag where
  | isUnlisted | isDownloadable | isDownloadGated | isStreamGated | isScheduledRelease
  | isPlaylistUpload | isAvailable | isCustomBpm | isCustomMusicalKey | commentsDisabled | noAiUse
  | isOriginalAvailable
deriving DecidableEq, Repr

def TrackFlag.key : TrackFlag → String
  | isUnlisted => "is_unlisted"
  | isDownloadable => "is_downloadable"
  | isDownloadGated => "is_download_gated"
  | isStreamGated => "is_stream_gated"
  | isScheduledRelease => "is_scheduled_release"
  | isPlaylistUpload => "is_playlist_upload"
  | isAvailable => "is_available"
  | isCustomBpm => "is_custom_bpm"
  | isCustomMusicalKey => "is_custom_musical_key"
  | commentsDisabled => "comments_disabled"
  | noAiUse => "no_ai_use"
  | isOriginalAvailable => "is_original_available"

/-- The `jsonb` columns of `tracks`. -/
inductive TrackJson where
  | fieldVisibility | remixOf | stemOf | downloadConditions | streamConditions | ddexReleaseIds
  | artists | resourceContributors | indirectResourceContributors | rightsController
  | copyrightLine | producerCopyrightLine
deriving DecidableEq, Repr

namespace TrackJson

def key : TrackJson → String
  | fieldVisibility => "field_visibility"
  | remixOf => "remix_of"
  | stemOf => "stem_of"
  | downloadConditions => "download_conditions"
  | streamConditions => "stream_conditions"
  | ddexReleaseIds => "ddex_release_ids"
  | artists => "artists"
  | resourceContributors => "resource_contributors"
  | indirectResourceContributors => "indirect_resource_contributors"
  | rightsController => "rights_controller"
  | copyrightLine => "copyright_line"
  | producerCopyrightLine => "producer_copyright_line"

end TrackJson

/-- `tracks` -/
structure TrackRow where
  trackId : Int4
  ownerId : Int4
  isCurrent : Bool
  isDelete : Bool
  title : String
  texts : TrackText → Option String
  flags : TrackFlag → Bool
  jsons : TrackJson → Option Json.Value
  duration : Int
  aiAttributionUserId : Option Int
  bpm : Option Json.Decimal
  previewStartSeconds : Option Json.Decimal
  releaseDate : Option Int
  allowedApiKeys : Option (List String)
  accessAuthorities : Option (List String)
  pinnedCommentId : Option Int4 := none
  playlistsContainingTrack : List Int4 := []
  /-- the playlists the track has left, with the time of leaving in seconds -/
  playlistsPreviouslyContainingTrack : Table Int4 Int := ∅

/-- `track_routes`, unique in owner and slug. -/
structure TrackRouteRow where
  slug : String
  titleSlug : String
  collisionId : Int4
  ownerId : Int4
  trackId : Int4
  isCurrent : Bool
deriving DecidableEq

/-- `stems` and `remixes`: a track and the track it is made from. -/
structure TrackLink where
  parentTrackId : Int4
  childTrackId : Int4
deriving DecidableEq

inductive CollaboratorStatus where
  | pending | accepted | rejected
deriving DecidableEq, Repr

/-- `track_collaborators`, under track and collaborator. -/
structure CollaboratorRow where
  invitedBy : Int4
  status : CollaboratorStatus
deriving DecidableEq

/-- What a price is charged for. -/
inductive PurchaseAccess where
  | stream | download
deriving DecidableEq, Repr

/-- `track_price_history`, unique in track and time. -/
structure TrackPriceRow where
  trackId : Int4
  blockTimestamp : Int
  splits : Json.Value
  totalPriceCents : Int
  access : PurchaseAccess

/-- `events` -/
structure EventRow where
  eventId : Int4
  eventType : String
  userId : Int4
  entityId : Option Int4
  endDate : Option Int
  isDeleted : Bool
  entityType : String := ""
deriving DecidableEq

/-- `subscriptions`; for an event the user id holds the event's. -/
structure SubscriptionRow where
  subscriberId : Int4
  userId : Int4
  entityType : String
  entityId : Option Int4
  isCurrent : Bool
  isDelete : Bool
  txHash : String
deriving DecidableEq

/-- `savetype` and `reposttype` -/
inductive ItemType where
  | track | playlist | album
deriving DecidableEq, Repr

/-- `saves` and `reposts`. A current row is unique in user, item and type, and any row in these and
the transaction. -/
structure SocialRow where
  userId : Int4
  itemId : Int4
  itemType : ItemType
  isCurrent : Bool
  isDelete : Bool
  /-- `is_save_of_repost` and `is_repost_of_repost` -/
  isOfRepost : Bool
  createdAt : Int
  txHash : PgText
deriving DecidableEq

/-- `comments`, under the comment. -/
structure CommentRow where
  userId : Int4
  entityId : Int4
  entityType : String
  isDelete : Option Bool
deriving DecidableEq

/-- The optional text columns of `playlists`. -/
inductive PlaylistText where
  | playlistName | description | playlistImageMultihash | playlistImageSizesMultihash | upc
  | ddexApp | parentalWarningType
deriving DecidableEq, Repr

/-- The boolean columns of `playlists` that metadata sets. -/
inductive PlaylistFlag where
  | isAlbum | isPrivate | isImageAutogenerated | isStreamGated | isScheduledRelease
deriving DecidableEq, Repr

/-- The `jsonb` columns of `playlists`, the contents apart. -/
inductive PlaylistJson where
  | streamConditions | ddexReleaseIds | artists | copyrightLine | producerCopyrightLine
deriving DecidableEq, Repr

/-- An entry under `track_ids` of `playlist_contents`. -/
structure PlaylistEntry where
  track : Int
  time : Option Int
  metadataTime : Option Int
deriving DecidableEq, Repr

/-- `playlists` -/
structure PlaylistRow where
  playlistId : Int4
  playlistOwnerId : Int4
  isCurrent : Bool
  isDelete : Bool
  texts : PlaylistText → Option String
  flags : PlaylistFlag → Bool
  playlistContents : List PlaylistEntry
  jsons : PlaylistJson → Option Json.Value
  releaseDate : Option Int
  lastAddedTo : Option Int

/-- `playlist_routes`, unique in owner and slug. -/
structure PlaylistRouteRow where
  slug : String
  titleSlug : String
  collisionId : Int4
  ownerId : Int4
  playlistId : Int4
  isCurrent : Bool
deriving DecidableEq

/-- `playlist_tracks`, under playlist and track. -/
structure PlaylistTrackRow where
  isRemoved : Bool
  createdAt : Int
  updatedAt : Int
deriving DecidableEq

/-- `album_price_history`, unique in playlist and time. -/
structure AlbumPriceRow where
  playlistId : Int4
  blockTimestamp : Int
  splits : Json.Value
  totalPriceCents : Int

/-- The tables the handlers write; a list is in the order a scan meets its rows. -/
structure EntityTables where
  base : EtlDb
  tracks : List TrackRow
  trackRoutes : List TrackRouteRow
  stems : List TrackLink
  remixes : List TrackLink
  trackCollaborators : Table (Int4 × Int4) CollaboratorRow
  trackPriceHistory : List TrackPriceRow
  events : List EventRow
  subscriptions : List SubscriptionRow
  saves : List SocialRow := []
  reposts : List SocialRow := []
  comments : Table Int4 CommentRow := ∅
  playlists : List PlaylistRow := []
  playlistRoutes : List PlaylistRouteRow := []
  playlistTracks : Table (Int4 × Int4) PlaylistTrackRow := ∅
  albumPriceHistory : List AlbumPriceRow := []

/-- What the handlers depend on besides the tables. -/
structure EntityEnv where
  rt : GoRuntime
  /-- `unicode.IsDigit` -/
  isDigit : Char → Bool
  normalizeGenre : String → String
  parseReleaseDate : String → Option Int
  /-- the text `json.Marshal` writes -/
  marshal : Json.Value → String
  /-- the text the server gives for a `jsonb` value -/
  jsonbText : Json.Value → String

/-! ### Statements -/

abbrev EntityProg := Prog EntityTables EtlError

/-- A statement: it writes, or fails and leaves the tables alone. -/
def stmt (f : EntityTables → Except EtlError EntityTables) : EntityProg Unit := fun s =>
  match f s with
  | .ok s' => (.ok (), s')
  | .error e => (.error e, s)

theorem stmt_eq_ok {f : EntityTables → Except EtlError EntityTables} {s s' : EntityTables}
    {u : Unit} (h : stmt f s = (.ok u, s')) : f s = .ok s' := by
  unfold stmt at h
  split at h
  · cases h
    assumption
  · cases h

/-- Bind a `jsonb` parameter. -/
def bindJson (v : Option Json.Value) : Except EtlError Unit :=
  refuseIf (v.any (fun v => !v.nulFree) = true) (.query .unsupportedEscape)

def bindOptText (s : Option String) : Except EtlError Unit :=
  refuseIf (s.any (fun s => !decide (NulFree s)) = true) (.query .invalidText)

/-- Bind an optional number to an `integer` parameter. -/
def bindOptInt (n : Option Int) : Except EtlError (Option Int4) := n.mapM Int4.ofInt

/-! ### Metadata -/

namespace Params

variable (p : Params)

def metadataJSON (key : String) : Option Json.Value := Json.lastMember p.metadata key

def metadataBool (key : String) : Option Bool :=
  match p.metadataJSON key with
  | some (.bool b) => some b
  | _ => none

def metadataBoolOr (key : String) (default : Bool) : Bool := (p.metadataBool key).getD default

/-- `MetadataFloat64`, before rounding. -/
def metadataFloat64 (key : String) : Option Json.Decimal :=
  match p.metadataJSON key with
  | some (.num d) => some d
  | _ => none

end Params

/-- The `Params` of a transaction in its block. -/
structure EntityParams extends Params where
  /-- `Metadata` is nil -/
  metadataNil : Bool
  /-- `parseEnvelopeRoot` of the raw metadata -/
  envelopeRoot : Option (List (String × Json.Value))
  blockTime : Int
  txHash : PgText

/-- `NewParams` -/
def EntityTx.params (tx : EntityTx) : EntityParams where
  toParams := newParams tx.tx
  metadataNil := metadataIsNil tx.tx
  envelopeRoot := Json.unmarshalMap tx.tx.metadata
  blockTime := tx.blockTime
  txHash := tx.txHash

/-- The handler of a transaction takes the tables from `s` to `s'` without an error. -/
def Accepts (handler : EntityParams → Option (EntityProg Unit)) (tx : EntityTx)
    (s s' : EntityTables) : Prop :=
  ∃ handle, handler tx.params = some handle ∧ handle s = (.ok (), s')

theorem accepts_of_isOk {handler : EntityParams → Option (EntityProg Unit)} {tx : EntityTx}
    {s : EntityTables} {handle : EntityProg Unit} (hhandle : handler tx.params = some handle)
    (h : (handle s).1.isOk = true) : Accepts handler tx s (handle s).2 := by
  refine ⟨handle, hhandle, ?_⟩
  cases hrun : handle s with
  | mk r s' =>
    rw [hrun] at h
    cases r with
    | ok u => rfl
    | error e => cases h

/-- `marshalJSONOrNil`: the value a `jsonb` column gets. -/
def marshalJSONOrNil : Json.Value → Option Json.Value
  | .null => none
  | v => some v.decoded

def metadataJSONRaw (p : Params) (key : String) : Option Json.Value :=
  (p.metadataJSON key).bind marshalJSONOrNil

def nullString (s : String) : Option String := if s = "" then none else some s

end OpenAudio.Etl
