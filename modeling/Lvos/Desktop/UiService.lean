import Lvos.Storage.Aggregates
import Mathlib.Data.List.Infix

set_option autoImplicit false

namespace Lvos.Storage

open Lvos.Core
open Relational (Table)

/-- `LIKE`: `%` stands for any text, `_` for one character, and ASCII letters match in both
cases. -/
def like : List Char → List Char → Bool
  | [], text => text.isEmpty
  | pattern :: rest, text =>
      if pattern = '%' then text.tails.any (like rest)
      else
        match text with
        | [] => false
        | character :: after =>
            (pattern = '_' || character.toLower = pattern.toLower) && like rest after

/-- `LIKE '%' || term || '%'`. -/
def containsTerm (term text : String) : Bool := like ('%' :: (term.toList ++ ['%'])) text.toList

/-- The newest rows by a timestamp; rows of one time stay in the order of the table. -/
def newest {ρ : Type} (timestamp : ρ → Int) (limit : Nat) (rows : List (ContentKey × ρ)) :
    List (ContentKey × ρ) :=
  (rows.insertionSort (fun first second => timestamp second.2 ≤ timestamp first.2)).take limit

def searchHistory (db : ProfileDb) (term : String) (limit : Nat) : List HistoryEntry :=
  (newest HistoryEntry.lastQueriedAt limit (db.historyEntries.rows.filter (fun row =>
    containsTerm term row.2.content.sourceText ||
      containsTerm term row.2.translation.translation))).map Prod.snd

def searchFavorites (db : ProfileDb) (term : String) (limit : Nat) :
    StorageResult (List Favorite) :=
  (newest (fun row : FavoriteRow => row.snapshot.updatedAt) limit
    (db.favorites.rows.filter (fun row => row.2.deletedAt.isNone &&
      (containsTerm term row.2.snapshot.sourceText ||
        containsTerm term row.2.snapshot.translation)))).mapM
    (fun row => parseFavorite row.1 row.2)

/-- Every text contains the empty term. -/
theorem containsTerm_empty (text : String) : containsTerm "" text = true := by
  have any (found : List Char) : like ['%'] found = true := by
    change found.tails.any (like []) = true
    rw [List.any_eq_true]
    exact ⟨[], (List.mem_tails _ _).mpr List.nil_suffix, rfl⟩
  change text.toList.tails.any (like ['%']) = true
  rw [List.any_eq_true]
  exact ⟨text.toList, (List.mem_tails _ _).mpr (List.suffix_refl _), any text.toList⟩

theorem searchHistory_empty (db : ProfileDb) (limit : Nat) :
    searchHistory db "" limit =
      (newest HistoryEntry.lastQueriedAt limit db.historyEntries.rows).map Prod.snd := by
  unfold searchHistory
  rw [List.filter_eq_self.mpr]
  intro row _
  rw [containsTerm_empty, Bool.true_or]

end Lvos.Storage

namespace Lvos.Desktop

open Lvos.Core Lvos.Storage

structure UiRecordData where
  key : ContentKey
  source : String
  translation : String
  count : Nat
  favorite : Bool
  metadata : String
deriving DecidableEq

def historyPageLimit : Nat := 200

def effectiveCount (db : ProfileDb) (key : ContentKey) : Nat :=
  ((db.queryStats.get key).map QueryStats.effectiveTotal).getD 0

namespace UiDataService

def historyRecord (db : ProfileDb) (entry : HistoryEntry) : StorageResult UiRecordData := do
  let key := entry.content.contentKey
  let favorite ← favoriteByKey db key
  .ok ⟨key, entry.content.sourceText, entry.translation.translation, effectiveCount db key,
    favorite.any (fun item => item.deletedAt.isNone), entry.translation.provider⟩

def history (db : ProfileDb) (term : String) (limit : Nat) : StorageResult (List UiRecordData) :=
  (searchHistory db term limit).mapM (historyRecord db)

def favorites (db : ProfileDb) (term : String) (limit : Nat) :
    StorageResult (List UiRecordData) := do
  let found ← searchFavorites db term limit
  .ok (found.map (fun favorite =>
    ⟨favorite.content.contentKey, favorite.content.sourceText, favorite.translation.translation,
      effectiveCount db favorite.content.contentKey, true, favorite.translation.provider⟩))

end UiDataService

end Lvos.Desktop
