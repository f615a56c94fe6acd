import Lvos.Server.Evolution

set_option autoImplicit false

namespace Lvos.Server

open Lvos.Sync
open Relational (Table)
open Transaction (bind_ok_iff)

variable {φ : Type}

/-- A change of a page is the record its log row points at. -/
def PageEntry (db : ServerDb φ) (userId : String) (entry : Nat × ChangeRow) (change : SyncChange) :
    Prop :=
  change.revision = entry.1 ∧
    favoriteRecord db userId entry.2.contentKey = .ok (some change.favorite)

theorem pageChanges_ok {db : ServerDb φ} {userId : String} :
    ∀ (rows : List (Nat × ChangeRow)) (changes : List SyncChange),
      pageChanges db userId rows = .ok changes →
      List.Forall₂ (PageEntry db userId) rows changes := by
  intro rows
  induction rows with
  | nil =>
      intro changes success
      cases success
      exact .nil
  | cons entry rest ih =>
      intro changes success
      obtain ⟨revision, row⟩ := entry
      unfold pageChanges at success
      obtain ⟨found, looked, tail⟩ := bind_ok_iff.mp success
      cases found with
      | none => cases tail
      | some favorite =>
          obtain ⟨operation, -, later⟩ := bind_ok_iff.mp tail
          obtain ⟨others, paged, same⟩ := bind_ok_iff.mp later
          cases same
          exact .cons ⟨rfl, looked⟩ (ih others paged)

theorem favoriteRecord_contentKey {db : ServerDb φ} {userId contentKey : String}
    {record : FavoriteRecord}
    (found : favoriteRecord db userId contentKey = .ok (some record)) :
    ∃ row aggregate, db.favorites.get (userId, contentKey) = some row ∧
      record = recordOf contentKey row aggregate := by
  rcases favoriteRecord_ok found with ⟨-, impossible⟩ | ⟨row, aggregate, stored, -, same⟩
  · cases impossible
  · exact ⟨row, aggregate, stored, Option.some.inj same⟩

/-- The record is the content's row as the server holds it. -/
def Current (db : ServerDb φ) (userId : String) (record : FavoriteRecord) : Prop :=
  ∃ row aggregate, db.favorites.get (userId, record.contentKey) = some row ∧
    record = recordOf record.contentKey row aggregate

theorem current_of_found {db : ServerDb φ} {userId contentKey : String}
    {record : FavoriteRecord}
    (found : favoriteRecord db userId contentKey = .ok (some record)) :
    record.contentKey = contentKey ∧ Current db userId record := by
  obtain ⟨row, aggregate, stored, same⟩ := favoriteRecord_contentKey found
  have keyed : record.contentKey = contentKey := by rw [same]; rfl
  refine ⟨keyed, row, aggregate, ?_, ?_⟩
  · rw [keyed]
    exact stored
  · rw [keyed]
    exact same

/-- What a reader at `since` may rely on in a page. -/
structure PageFacts (db : ServerDb φ) (userId : String) (since : Nat) (page : ChangesResponse) :
    Prop where
  ahead : since ≤ page.nextRevision
  bounded : ∃ latest, db.users.get userId = some latest ∧ page.nextRevision ≤ latest
  covered : ∀ revision row, since < revision → revision ≤ page.nextRevision →
    db.changeLog.get (userId, revision) = some row →
    ∃ change ∈ page.changes, change.favorite.contentKey = row.contentKey
  current : ∀ change ∈ page.changes, Current db userId change.favorite

instance : Std.Total (fun first second : Nat × ChangeRow => first.1 ≤ second.1) :=
  ⟨fun first second => Nat.le_total first.1 second.1⟩

instance : IsTrans (Nat × ChangeRow) (fun first second => first.1 ≤ second.1) :=
  ⟨fun _ _ _ => Nat.le_trans⟩

/-- The log above `since`, in the order of the page query. -/
def logAbove (db : ServerDb φ) (userId : String) (since : Nat) : List (Nat × ChangeRow) :=
  ((db.changeLog.rows.filter (fun entry => entry.1.1 = userId ∧ since < entry.1.2)).map
    (fun entry => (entry.1.2, entry.2))).insertionSort (fun first second => first.1 ≤ second.1)

theorem mem_logAbove {db : ServerDb φ} {userId : String} {since revision : Nat} {row : ChangeRow} :
    (revision, row) ∈ logAbove db userId since ↔
      db.changeLog.get (userId, revision) = some row ∧ since < revision := by
  rw [logAbove, List.mem_insertionSort, List.mem_map]
  constructor
  · rintro ⟨⟨⟨owner, number⟩, stored⟩, kept, same⟩
    simp only [List.mem_filter, decide_eq_true_eq] at kept
    obtain ⟨rfl, rfl⟩ := Prod.mk.inj same
    obtain ⟨here, rfl, above⟩ := kept
    exact ⟨(Table.mem_rows_iff _ _ _).mp here, above⟩
  · rintro ⟨found, above⟩
    refine ⟨((userId, revision), row), ?_, rfl⟩
    simp only [List.mem_filter, decide_eq_true_eq, true_and]
    exact ⟨(Table.mem_rows_iff _ _ _).mpr found, above⟩

theorem logAbove_sorted (db : ServerDb φ) (userId : String) (since : Nat) :
    (logAbove db userId since).Pairwise (fun first second => first.1 ≤ second.1) :=
  List.pairwise_insertionSort _ _

/-- The log above `since` is numbered without a gap up to the user's revision. -/
theorem logAbove_numbered {db : ServerDb φ} (inv : LogInv db) {userId : String}
    {since latest : Nat} (known : db.users.get userId = some latest) :
    (logAbove db userId since).map Prod.fst = List.range' (since + 1) (latest - since) := by
  have mem_iff : ∀ revision, revision ∈ (logAbove db userId since).map Prod.fst ↔
      revision ∈ List.range' (since + 1) (latest - since) := by
    intro revision
    rw [List.mem_range'_1, List.mem_map]
    constructor
    · rintro ⟨⟨number, row⟩, member, rfl⟩
      obtain ⟨found, above⟩ := mem_logAbove.mp member
      obtain ⟨top, stored, -, bound⟩ := inv.bounded userId number row found
      rw [known] at stored
      cases stored
      omega
    · rintro ⟨above, below⟩
      have present := inv.complete userId latest revision known (by omega) (by omega)
      obtain ⟨row, found⟩ := Option.isSome_iff_exists.mp present
      exact ⟨(revision, row), mem_logAbove.mpr ⟨found, by omega⟩, rfl⟩
  have unique : ((logAbove db userId since).map Prod.fst).Nodup := by
    have owned : (db.changeLog.rows.filter
        (fun entry => entry.1.1 = userId ∧ since < entry.1.2)).Pairwise
        (fun first second => first.1.2 ≠ second.1.2) := by
      have keys := List.pairwise_map.mp db.changeLog.unique
      refine List.Pairwise.imp_of_mem ?_ (keys.filter _)
      intro first second left right differs same
      simp only [List.mem_filter, decide_eq_true_eq] at left right
      exact differs (Prod.ext (left.2.1.trans right.2.1.symm) same)
    have sorted := List.perm_insertionSort (fun first second : Nat × ChangeRow =>
      first.1 ≤ second.1) ((db.changeLog.rows.filter
        (fun entry => entry.1.1 = userId ∧ since < entry.1.2)).map
          (fun entry => (entry.1.2, entry.2)))
    refine (sorted.map Prod.fst).nodup_iff.mpr ?_
    rw [List.map_map]
    exact List.pairwise_map.mpr owned
  have ordered : ((logAbove db userId since).map Prod.fst).Pairwise (· ≤ ·) :=
    List.pairwise_map.mpr (logAbove_sorted db userId since)
  refine List.Perm.eq_of_pairwise' ordered ?_
    ((List.perm_ext_iff_of_nodup unique (List.nodup_range' _)).mpr mem_iff)
  exact List.pairwise_le_range' _

/-- An entry no later than the last one of the page is on the page. -/
theorem mem_page_of_le {db : ServerDb φ} {userId : String} {since limit revision : Nat}
    {row : ChangeRow} {last : Nat × ChangeRow}
    (found : db.changeLog.get (userId, revision) = some row) (above : since < revision)
    (final : last ∈ pageRows db userId since limit) (bound : revision ≤ last.1) :
    (revision, row) ∈ pageRows db userId since limit := by
  have whole : pageRows db userId since limit = (logAbove db userId since).take limit := rfl
  have listed : (revision, row) ∈ logAbove db userId since := mem_logAbove.mpr ⟨found, above⟩
  have sorted := logAbove_sorted db userId since
  rw [whole] at final ⊢
  rw [← List.take_append_drop limit (logAbove db userId since), List.mem_append] at listed
  rcases listed with early | late
  · exact early
  · rw [← List.take_append_drop limit (logAbove db userId since)] at sorted
    have order := (List.pairwise_append.mp sorted).2.2 last final (revision, row) late
    have same : last.1 = revision := Nat.le_antisymm order bound
    obtain ⟨number, stored⟩ := last
    obtain rfl : number = revision := same
    have here := (mem_logAbove.mp ((List.take_sublist _ _).subset final)).1
    rw [found] at here
    cases here
    exact final

theorem changesSince_facts {db : ServerDb φ} (inv : LogInv db) {userId : String}
    {since limit latest : Nat} {page : ChangesResponse} (known : db.users.get userId = some latest)
    (low : since ≤ latest) (success : changesSince db userId since limit = .ok page) :
    PageFacts db userId since page := by
  unfold changesSince at success
  obtain ⟨newest, revisionOk, afterRevision⟩ := bind_ok_iff.mp success
  obtain ⟨start, startOk, afterStart⟩ := bind_ok_iff.mp afterRevision
  obtain ⟨size, sizeOk, afterSize⟩ := bind_ok_iff.mp afterStart
  obtain ⟨changes, paged, same⟩ := bind_ok_iff.mp afterSize
  have startSame := (toI64_ok startOk).1
  have sizeSame := (toI64_ok sizeOk).1
  subst startSame sizeSame
  cases same
  have entries := pageChanges_ok _ _ paged
  have backwards : ∀ change ∈ changes, ∃ entry ∈ pageRows db userId start size,
      PageEntry db userId entry change := Transaction.related_of_mem_right entries
  have current : ∀ change ∈ changes, Current db userId change.favorite := by
    intro change member
    obtain ⟨entry, -, matched⟩ := backwards change member
    exact (current_of_found matched.2).2
  -- The page's cursor is the revision of its last row, or where it started.
  rcases List.eq_nil_or_concat changes with empty | ⟨before, final, whole⟩
  · subst empty
    refine ⟨Nat.le_refl start, ⟨latest, known, low⟩, ?_, current⟩
    intro revision row above below _
    exact absurd below (Nat.not_le.mpr above)
  · have ending : changes.getLast? = some final := by simp [whole]
    obtain ⟨last, member, matched⟩ := backwards final (by simp [whole])
    have cursor : (changes.getLast?.map SyncChange.revision).getD start = last.1 := by
      rw [ending, Option.map_some, Option.getD_some, matched.1]
    have logged := mem_pageRows (show (last.1, last.2) ∈ _ from member)
    refine ⟨?_, ⟨latest, known, ?_⟩, ?_, current⟩
    · show start ≤ (changes.getLast?.map SyncChange.revision).getD start
      rw [cursor]
      omega
    · show (changes.getLast?.map SyncChange.revision).getD start ≤ latest
      obtain ⟨top, stored, -, bound⟩ := inv.bounded userId last.1 last.2 logged.1
      rw [known] at stored
      cases stored
      rw [cursor]
      exact bound
    · intro revision row above below found
      have inside : revision ≤ last.1 := cursor ▸ below
      obtain ⟨change, listed, entry⟩ := Transaction.related_of_mem_left entries (revision, row)
        (mem_page_of_le found above member inside)
      exact ⟨change, listed, (current_of_found entry.2).1⟩

/-- Every record of a page is what `favorite_record` reads for its content. -/
theorem changesSince_read {db : ServerDb φ} {userId : String} {since limit : Nat}
    {page : ChangesResponse} (success : changesSince db userId since limit = .ok page) :
    ∀ change ∈ page.changes,
      favoriteRecord db userId change.favorite.contentKey = .ok (some change.favorite) := by
  unfold changesSince at success
  obtain ⟨newest, -, afterRevision⟩ := bind_ok_iff.mp success
  obtain ⟨start, -, afterStart⟩ := bind_ok_iff.mp afterRevision
  obtain ⟨size, -, afterSize⟩ := bind_ok_iff.mp afterStart
  obtain ⟨changes, paged, same⟩ := bind_ok_iff.mp afterSize
  cases same
  intro change member
  obtain ⟨entry, -, matched⟩ :=
    Transaction.related_of_mem_right (pageChanges_ok _ _ paged) change member
  have read := matched.2
  rwa [← (current_of_found read).1] at read

theorem changes_ok {syncChangesMaxLimit : Nat} {db : ServerDb φ} {userId : String}
    {since limit : Nat} {page : ChangesResponse}
    (success : changes syncChangesMaxLimit db userId since limit = .ok page) :
    changesSince db userId since limit = .ok page := by
  unfold changes at success
  split at success
  · cases success
  · split at success
    · cases success
    · rename_i found
      cases success
      exact found

end Lvos.Server
