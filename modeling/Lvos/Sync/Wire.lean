import Lvos.Lib.Json
import Lvos.Sync.Protocol

set_option autoImplicit false

namespace Lvos.Sync

open Json (object array quoted number boolean null bytes textBytes bytes_object_cons
  bytes_object_single)

/-! The protocol as it is sent, and the bytes it takes. -/

/-- The bytes of a number. -/
def digits (value : Int) : Nat := bytes (number value)

/-- A field that is left out when it has no value. -/
def optionalField (name : String) (value : Option (List Char)) : List (String × List Char) :=
  (value.map (fun text => (name, text))).toList

def SyncOperation.wireName : SyncOperation → String
  | .favoriteUpsert => "favorite_upsert"
  | .favoriteDelete => "favorite_delete"
  | .queryStatsUpsert => "query_stats_upsert"

def FavoriteSnapshot.json (snapshot : FavoriteSnapshot) : List Char :=
  object [("kind", quoted snapshot.kind), ("source_lang", quoted snapshot.sourceLang),
    ("target_lang", quoted snapshot.targetLang), ("source_text", quoted snapshot.sourceText),
    ("canonical_text", quoted snapshot.canonicalText),
    ("translation", quoted snapshot.translation), ("provider", quoted snapshot.provider),
    ("favorited_at", number snapshot.favoritedAt), ("updated_at", number snapshot.updatedAt)]

def QueryStatsSnapshot.json (stats : QueryStatsSnapshot) : List Char :=
  object [("query_count", number stats.queryCount),
    ("first_queried_at", number stats.firstQueriedAt),
    ("last_queried_at", number stats.lastQueriedAt), ("updated_at", number stats.updatedAt)]

def PushEvent.json (event : PushEvent) : List Char :=
  object ([("event_id", quoted event.eventId), ("operation", quoted event.operation.wireName),
    ("content_key", quoted event.contentKey), ("key_version", number event.keyVersion),
    ("base_entity_revision", number event.baseEntityRevision)] ++
    optionalField "favorite" (event.favorite.map FavoriteSnapshot.json) ++
    optionalField "query_stats" (event.queryStats.map QueryStatsSnapshot.json))

/-- `PushRequest`. -/
def pushRequestJson (events : List PushEvent) : List Char :=
  object [("events", array (events.map PushEvent.json))]

def AggregateQueryStats.json (stats : AggregateQueryStats) : List Char :=
  object [("query_count", number stats.queryCount),
    ("first_queried_at", number stats.firstQueriedAt),
    ("last_queried_at", number stats.lastQueriedAt)]

def AckStatus.wireName : AckStatus → String
  | .applied => "applied"
  | .noChange => "no_change"

def PushAck.json (ack : PushAck) : List Char :=
  object ([("event_id", quoted ack.eventId), ("status", quoted ack.status.wireName)] ++
    optionalField "entity_revision" (ack.entityRevision.map (fun revision : Nat => number revision)) ++
    [("user_revision", number ack.userRevision)] ++
    optionalField "aggregate_query_stats" (ack.aggregateQueryStats.map AggregateQueryStats.json))

def PushResponse.json (response : PushResponse) : List Char :=
  object [("acknowledgements", array (response.acknowledgements.map PushAck.json)),
    ("latest_revision", number response.latestRevision)]

def FavoriteRecord.json (record : FavoriteRecord) : List Char :=
  object ([("content_key", quoted record.contentKey), ("key_version", number record.keyVersion),
    ("favorite", record.favorite.json),
    ("deleted_at", (record.deletedAt.map number).getD null),
    ("entity_revision", number record.entityRevision),
    ("server_received_at", number record.serverReceivedAt)] ++
    optionalField "aggregate_query_stats" (record.aggregateQueryStats.map AggregateQueryStats.json))

def SyncChange.json (change : SyncChange) : List Char :=
  object [("revision", number change.revision), ("operation", quoted change.operation.wireName),
    ("favorite", change.favorite.json)]

def ChangesResponse.json (page : ChangesResponse) : List Char :=
  object [("changes", array (page.changes.map SyncChange.json)),
    ("next_revision", number page.nextRevision),
    ("latest_revision", number page.latestRevision), ("has_more", boolean page.hasMore)]

/-! What each message takes: its texts as they are escaped, the digits of its numbers, and
a constant for its names and brackets. -/

def FavoriteSnapshot.size (snapshot : FavoriteSnapshot) : Nat :=
  textBytes snapshot.kind + textBytes snapshot.sourceLang + textBytes snapshot.targetLang +
    textBytes snapshot.sourceText + textBytes snapshot.canonicalText +
    textBytes snapshot.translation + textBytes snapshot.provider + digits snapshot.favoritedAt +
    digits snapshot.updatedAt + 143

def QueryStatsSnapshot.size (stats : QueryStatsSnapshot) : Nat :=
  digits stats.queryCount + digits stats.firstQueriedAt + digits stats.lastQueriedAt +
    digits stats.updatedAt + 69

def PushEvent.size (event : PushEvent) : Nat :=
  textBytes event.eventId + textBytes event.operation.wireName + textBytes event.contentKey +
    digits event.keyVersion + digits event.baseEntityRevision + 86 +
    (event.favorite.map (fun favorite => favorite.size + 12)).getD 0 +
    (event.queryStats.map (fun stats => stats.size + 15)).getD 0

def pushRequestSize (events : List PushEvent) : Nat :=
  (events.map PushEvent.size).sum + (events.length - 1) + 13

def AggregateQueryStats.size (stats : AggregateQueryStats) : Nat :=
  digits stats.queryCount + digits stats.firstQueriedAt + digits stats.lastQueriedAt + 55

def PushAck.size (ack : PushAck) : Nat :=
  textBytes ack.eventId + textBytes ack.status.wireName + digits ack.userRevision + 44 +
    (ack.entityRevision.map (fun revision : Nat => digits revision + 19)).getD 0 +
    (ack.aggregateQueryStats.map (fun stats => stats.size + 25)).getD 0

def PushResponse.size (response : PushResponse) : Nat :=
  (response.acknowledgements.map PushAck.size).sum + (response.acknowledgements.length - 1) +
    digits response.latestRevision + 42

def FavoriteRecord.size (record : FavoriteRecord) : Nat :=
  textBytes record.contentKey + digits record.keyVersion + record.favorite.size +
    (record.deletedAt.map digits).getD 4 + digits record.entityRevision +
    digits record.serverReceivedAt + 100 +
    (record.aggregateQueryStats.map (fun stats => stats.size + 25)).getD 0

def SyncChange.size (change : SyncChange) : Nat :=
  digits change.revision + textBytes change.operation.wireName + change.favorite.size + 40

def ChangesResponse.size (page : ChangesResponse) : Nat :=
  (page.changes.map SyncChange.size).sum + (page.changes.length - 1) +
    digits page.nextRevision + digits page.latestRevision + (if page.hasMore then 4 else 5) + 62

section Sizes

theorem bytes_object_optional {fields : List (String × List Char)} (some : fields ≠ [])
    (name : String) (value : Option (List Char)) :
    bytes (object (fields ++ optionalField name value)) =
      bytes (object fields) +
        (value.map (fun text => textBytes name + bytes text + 4)).getD 0 := by
  have counted := List.length_pos_of_ne_nil some
  rw [Json.bytes_object, Json.bytes_object]
  cases value with
  | none => simp [optionalField]
  | some text =>
      simp only [optionalField, Option.map_some, Option.toList_some, List.map_append,
        List.sum_append, List.map_cons, List.sum_cons, List.map_nil, List.sum_nil,
        List.length_append, List.length_cons, List.length_nil, Option.getD_some]
      omega

theorem FavoriteSnapshot.bytes_json (snapshot : FavoriteSnapshot) :
    bytes snapshot.json = snapshot.size := by
  have names : textBytes "kind" = 4 ∧ textBytes "source_lang" = 11 ∧
      textBytes "target_lang" = 11 ∧ textBytes "source_text" = 11 ∧
      textBytes "canonical_text" = 14 ∧ textBytes "translation" = 11 ∧
      textBytes "provider" = 8 ∧ textBytes "favorited_at" = 12 ∧ textBytes "updated_at" = 10 := by
    decide
  unfold FavoriteSnapshot.json FavoriteSnapshot.size digits
  simp only [bytes_object_cons, bytes_object_single, Json.bytes_quoted, names]
  omega

theorem QueryStatsSnapshot.bytes_json (stats : QueryStatsSnapshot) :
    bytes stats.json = stats.size := by
  have names : textBytes "query_count" = 11 ∧ textBytes "first_queried_at" = 16 ∧
      textBytes "last_queried_at" = 15 ∧ textBytes "updated_at" = 10 := by
    decide
  unfold QueryStatsSnapshot.json QueryStatsSnapshot.size digits
  simp only [bytes_object_cons, bytes_object_single, names]
  omega

theorem AggregateQueryStats.bytes_json (stats : AggregateQueryStats) :
    bytes stats.json = stats.size := by
  have names : textBytes "query_count" = 11 ∧ textBytes "first_queried_at" = 16 ∧
      textBytes "last_queried_at" = 15 := by
    decide
  unfold AggregateQueryStats.json AggregateQueryStats.size digits
  simp only [bytes_object_cons, bytes_object_single, names]
  omega

theorem PushEvent.bytes_json (event : PushEvent) : bytes event.json = event.size := by
  have names : textBytes "event_id" = 8 ∧ textBytes "operation" = 9 ∧
      textBytes "content_key" = 11 ∧ textBytes "key_version" = 11 ∧
      textBytes "base_entity_revision" = 20 ∧ textBytes "favorite" = 8 ∧
      textBytes "query_stats" = 11 := by
    decide
  unfold PushEvent.json PushEvent.size digits
  rw [bytes_object_optional (by simp), bytes_object_optional (by simp)]
  simp only [bytes_object_cons, bytes_object_single, Json.bytes_quoted, names, Option.map_map,
    Function.comp_def, FavoriteSnapshot.bytes_json, QueryStatsSnapshot.bytes_json]
  cases event.favorite <;> cases event.queryStats <;>
    simp only [Option.map_none, Option.map_some, Option.getD_none, Option.getD_some] <;> omega

theorem bytes_pushRequest (events : List PushEvent) :
    bytes (pushRequestJson events) = pushRequestSize events := by
  have name : textBytes "events" = 6 := by decide
  have sizes : (events.map PushEvent.json).map bytes = events.map PushEvent.size := by
    rw [List.map_map]
    exact List.map_congr_left (fun event _ => event.bytes_json)
  unfold pushRequestJson pushRequestSize
  rw [bytes_object_single, Json.bytes_array, sizes, List.length_map, name]
  omega

theorem PushAck.bytes_json (ack : PushAck) : bytes ack.json = ack.size := by
  have names : textBytes "event_id" = 8 ∧ textBytes "status" = 6 ∧
      textBytes "entity_revision" = 15 ∧ textBytes "user_revision" = 13 ∧
      textBytes "aggregate_query_stats" = 21 := by
    decide
  unfold PushAck.json PushAck.size digits
  rw [bytes_object_optional (by simp)]
  cases ack.entityRevision <;> cases ack.aggregateQueryStats <;>
    simp only [optionalField, Option.map_none, Option.map_some, Option.toList_none,
      Option.toList_some, List.append_nil, List.cons_append, List.nil_append, bytes_object_cons,
      bytes_object_single, Json.bytes_quoted, names, AggregateQueryStats.bytes_json,
      Option.getD_none, Option.getD_some] <;> omega

theorem PushResponse.bytes_json (response : PushResponse) :
    bytes response.json = response.size := by
  have names : textBytes "acknowledgements" = 16 ∧ textBytes "latest_revision" = 15 := by
    decide
  have sizes : (response.acknowledgements.map PushAck.json).map bytes =
      response.acknowledgements.map PushAck.size := by
    rw [List.map_map]
    exact List.map_congr_left (fun ack _ => ack.bytes_json)
  unfold PushResponse.json PushResponse.size digits
  simp only [bytes_object_cons, bytes_object_single, names, Json.bytes_array, sizes,
    List.length_map]
  omega

theorem FavoriteRecord.bytes_json (record : FavoriteRecord) :
    bytes record.json = record.size := by
  have names : textBytes "content_key" = 11 ∧ textBytes "key_version" = 11 ∧
      textBytes "favorite" = 8 ∧ textBytes "deleted_at" = 10 ∧
      textBytes "entity_revision" = 15 ∧ textBytes "server_received_at" = 18 ∧
      textBytes "aggregate_query_stats" = 21 := by
    decide
  have deleted : bytes ((record.deletedAt.map number).getD null) =
      (record.deletedAt.map digits).getD 4 := by
    cases record.deletedAt with
    | none => decide
    | some timestamp => rfl
  unfold FavoriteRecord.json FavoriteRecord.size
  rw [bytes_object_optional (by simp)]
  simp only [bytes_object_cons, bytes_object_single, Json.bytes_quoted, names, Option.map_map,
    Function.comp_def, FavoriteSnapshot.bytes_json, AggregateQueryStats.bytes_json, deleted]
  unfold digits
  cases record.aggregateQueryStats <;>
    simp only [Option.map_none, Option.map_some, Option.getD_none, Option.getD_some] <;> omega

theorem SyncChange.bytes_json (change : SyncChange) : bytes change.json = change.size := by
  have names : textBytes "revision" = 8 ∧ textBytes "operation" = 9 ∧
      textBytes "favorite" = 8 := by
    decide
  unfold SyncChange.json SyncChange.size digits
  simp only [bytes_object_cons, bytes_object_single, Json.bytes_quoted, names,
    FavoriteRecord.bytes_json]
  omega

theorem ChangesResponse.bytes_json (page : ChangesResponse) : bytes page.json = page.size := by
  have names : textBytes "changes" = 7 ∧ textBytes "next_revision" = 13 ∧
      textBytes "latest_revision" = 15 ∧ textBytes "has_more" = 8 := by
    decide
  have flag : bytes (boolean page.hasMore) = if page.hasMore then 4 else 5 := by
    cases page.hasMore <;> decide
  have sizes : (page.changes.map SyncChange.json).map bytes =
      page.changes.map SyncChange.size := by
    rw [List.map_map]
    exact List.map_congr_left (fun change _ => change.bytes_json)
  unfold ChangesResponse.json ChangesResponse.size digits
  simp only [bytes_object_cons, bytes_object_single, names, flag, Json.bytes_array, sizes,
    List.length_map]
  omega

end Sizes

end Lvos.Sync
