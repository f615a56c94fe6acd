import Mathlib.Algebra.GroupWithZero.Nat
import Mathlib.Logic.Function.Basic

set_option autoImplicit false

namespace Lvos.Sync

inductive SyncOperation
  | favoriteUpsert
  | favoriteDelete
  | queryStatsUpsert
deriving DecidableEq, Repr

structure FavoriteSnapshot where
  kind : String
  sourceLang : String
  targetLang : String
  sourceText : String
  canonicalText : String
  translation : String
  provider : String
  favoritedAt : Int
  updatedAt : Int
deriving DecidableEq, Repr

structure QueryStatsSnapshot where
  queryCount : Nat
  firstQueriedAt : Int
  lastQueriedAt : Int
  updatedAt : Int
deriving DecidableEq, Repr

structure PushEvent where
  eventId : String
  operation : SyncOperation
  contentKey : String
  keyVersion : Nat
  baseEntityRevision : Nat
  favorite : Option FavoriteSnapshot
  queryStats : Option QueryStatsSnapshot
deriving DecidableEq, Repr

inductive AckStatus
  | applied
  | noChange
deriving DecidableEq, Repr

structure AggregateQueryStats where
  queryCount : Nat
  firstQueriedAt : Int
  lastQueriedAt : Int
deriving DecidableEq, Repr

structure PushAck where
  eventId : String
  status : AckStatus
  entityRevision : Option Nat
  userRevision : Nat
  aggregateQueryStats : Option AggregateQueryStats
deriving DecidableEq, Repr

structure PushResponse where
  acknowledgements : List PushAck
  latestRevision : Nat
deriving DecidableEq, Repr

structure FavoriteRecord where
  contentKey : String
  keyVersion : Nat
  favorite : FavoriteSnapshot
  deletedAt : Option Int
  entityRevision : Nat
  serverReceivedAt : Int
  aggregateQueryStats : Option AggregateQueryStats
deriving DecidableEq, Repr

structure SyncChange where
  revision : Nat
  operation : SyncOperation
  favorite : FavoriteRecord
deriving DecidableEq, Repr

structure ChangesResponse where
  changes : List SyncChange
  nextRevision : Nat
  latestRevision : Nat
  hasMore : Bool
deriving DecidableEq, Repr

/-- One past the largest value of an SQLite integer column. -/
def i64Limit : Nat := 2 ^ 63

/-- One past the largest `u64`. -/
def u64Limit : Nat := 2 ^ 64

end Lvos.Sync
