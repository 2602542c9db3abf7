import OpenAudio.Etl.Entities
import OpenAudio.Etl.EntityManager
import OpenAudio.Core.Auth.Effects

/-!
# Rows of tracks

What a create puts into the row of a track, and the rows of one user and one track that the examples
of the other handlers begin with.
-/

namespace OpenAudio.Etl

open OpenAudio.Core Prog

/-! ### Checks -/

namespace EntityTables

variable (db : EntityTables)

def trackExists (trackID : Int) : Except EtlError Bool := do
  let id ← Int4.ofInt trackID
  return db.tracks.any fun r => r.trackId == id && r.isCurrent

end EntityTables

/-! ### The row -/

section Row

variable (env : EntityEnv) (p : Params)

def validMusicalKeys : List String :=
  ["A major", "A minor", "B flat major", "B flat minor", "B major", "B minor", "C major", "C minor",
    "D flat major", "D flat minor", "D major", "D minor", "E flat major", "E flat minor", "E major",
    "E minor", "F major", "F minor", "G flat major", "G flat minor", "G major", "G minor",
    "A flat major", "A flat minor", "Silence"]

/-- A text of the metadata; the genre has been brought to its canonical form. -/
def metadataText (c : TrackText) : String :=
  let s := p.metadataString c.key
  if c = .genre ∧ s ≠ "" then env.normalizeGenre s else s

def newTrackText (c : TrackText) : Option String :=
  let s := metadataText env p c
  if c = .musicalKey ∧ s ∉ validMusicalKeys then none else nullString s

def TrackFlag.default (c : TrackFlag) : Bool := decide (c = .isAvailable)

def nonzero (d : Json.Decimal) : Bool := d.float.1 != 0

/-- A length of time counts if it is positive. -/
def metadataDuration : Option Int := (p.metadataInt64 env.rt "duration").filter (0 < ·)

def newTrackRow (trackId ownerId : Int4) (blockTime : Int) : TrackRow where
  trackId := trackId
  ownerId := ownerId
  isCurrent := true
  isDelete := false
  title := p.metadataString "title"
  texts := newTrackText env p
  flags c := p.metadataBoolOr c.key c.default
  jsons c := metadataJSONRaw p c.key
  duration := (metadataDuration env p).getD 0
  aiAttributionUserId := p.metadataInt64 env.rt "ai_attribution_user_id"
  bpm := (p.metadataFloat64 "bpm").filter nonzero
  previewStartSeconds := p.metadataFloat64 "preview_start_seconds"
  releaseDate := some ((env.parseReleaseDate (p.metadataString "release_date")).getD blockTime)
  allowedApiKeys := none
  accessAuthorities := none

end Row

def TrackRow.isRowOf (r : TrackRow) (id : Int4) : Bool := r.trackId == id && r.isCurrent

def EntityTables.currentTrack (s : EntityTables) (id : Int4) : Option TrackRow :=
  s.tracks.find? fun r => r.isRowOf id

/-- `getTrackOwner` and `trackOwner` -/
def EntityTables.getTrackOwner (s : EntityTables) (trackID : Int) : Except EtlError Int := do
  let id ← Int4.ofInt trackID
  match s.currentTrack id with
  | some r => return r.ownerId.val
  | none => .error .noRows

/-- `UPDATE tracks SET … WHERE track_id = … AND is_current` -/
def EntityTables.updateTracks (s : EntityTables) (id : Int4) (f : TrackRow → TrackRow) :
    EntityTables :=
  { s with tracks := s.tracks.map fun r => if r.isRowOf id then f r else r }

/-! ### A user and their track -/

def EntityEnv.plain : EntityEnv where
  rt := .amd64
  isDigit := Char.isDigit
  normalizeGenre := fun genre => genre
  parseReleaseDate := fun _ => none
  marshal := fun _ => ""
  jsonbText := fun _ => ""

def int4 (n : Nat) (h : n < 2 ^ 31) : Int4 := ⟨n, by omega⟩

theorem one_lt_int4 : 1 < 2 ^ 31 := by decide

theorem trackId_lt_int4 : 2000000 < 2 ^ 31 := by decide

def ownerWallet : PgText := ⟨"0xab", by decide⟩

def oneUser : EntityTables where
  base := ⟨[⟨int4 1 one_lt_int4, ownerWallet, none, false, true⟩], [], []⟩
  tracks := []
  trackRoutes := []
  stems := []
  remixes := []
  trackCollaborators := ∅
  trackPriceHistory := []
  events := []
  subscriptions := []

def envelopePayload (root : List (String × Json.Value)) : List (String × Json.Value) :=
  match Json.lastMember root "data" with
  | some (.obj data) => data
  | _ => root

def ownTrackParams (action : String) (root : List (String × Json.Value)) : EntityParams where
  userId := 1
  entityId := 2000000
  entityType := "Track"
  action := action
  signer := ownerWallet.val
  metadata := envelopePayload root
  metadataNil := false
  envelopeRoot := some root
  blockTime := 0
  txHash := ⟨"", nulFree_empty⟩

def ownTrackTx (action metadata : String) : EntityTx where
  tx :=
    { userId := 1
      entityType := "Track"
      entityId := 2000000
      action := action
      metadata := metadata
      signature := ""
      signer := ownerWallet.val
      nonce := "" }
  blockNumber := 1
  blockTime := 0
  blockHash := ⟨"", nulFree_empty⟩
  txHash := ⟨"", nulFree_empty⟩

theorem params_ownTrackTx {action metadata : String} {root : List (String × Json.Value)}
    (hread : (Json.parse metadata, Json.numbersInRange metadata) = (some (.obj root), true)) :
    (ownTrackTx action metadata).params = ownTrackParams action root := by
  have hparse : Json.parse metadata = some (.obj root) := congrArg Prod.fst hread
  have hmap : Json.unmarshalMap metadata = some root := Json.unmarshalMap_of_read hread
  have hne : metadata ≠ "" := Json.ne_empty_of_parse hparse
  have hnil : metadataIsNil (ownTrackTx action metadata).tx = false := by
    rw [metadataIsNil, ownTrackTx, hmap, hparse]
  have hpayload : parseAuthMetadata metadata = envelopePayload root := by
    rw [parseAuthMetadata, if_neg hne, hmap]
    rfl
  unfold EntityTx.params ownTrackParams
  rw [hnil, newParams, ownTrackTx, hpayload, hmap]

/-- The same transaction about another entity, in a block of another time. -/
def EntityTx.retarget (tx : EntityTx) (entityType : String) (entityId blockTime : Int) : EntityTx :=
  { tx with
    tx := { tx.tx with entityType := entityType, entityId := entityId }
    blockTime := blockTime }

def EntityParams.retarget (p : EntityParams) (entityType : String) (entityId blockTime : Int) :
    EntityParams :=
  { p with entityType := entityType, entityId := entityId, blockTime := blockTime }

theorem params_retarget (tx : EntityTx) (entityType : String) (entityId blockTime : Int) :
    (tx.retarget entityType entityId blockTime).params =
      tx.params.retarget entityType entityId blockTime := rfl

def ownTrack : TrackRow :=
  newTrackRow .plain (ownTrackParams "Create" []).toParams (int4 2000000 trackId_lt_int4)
    (int4 1 one_lt_int4) 0

end OpenAudio.Etl
