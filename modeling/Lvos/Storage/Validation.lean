import Lvos.Storage.Portable

set_option autoImplicit false

namespace Lvos.Storage

open Lvos.Core
open Transaction (bind_ok_iff)

/-! What `validate_export` accepts, and the document it then imports. -/

theorem validateTranslation_iff {value : PortableTranslation} {snapshot : TranslationSnapshot} :
    validateTranslation value = .ok snapshot ↔
      translationAllowed value = true ∧ ∃ targetLang, LanguageCode.parse value.targetLang = .ok targetLang ∧
        snapshot = ⟨targetLang, value.translation, value.provider, value.updatedAt⟩ := by
  unfold validateTranslation
  split
  · rename_i allowed
    split
    · rename_i failed
      simp [failed]
    · rename_i targetLang parsed
      simp [allowed, parsed, eq_comm]
  · rename_i refused
    simp [refused]

theorem validateArchive_iff {value : PortableQueryStatsArchive} {knownKeys : List ContentKey}
    {key : ContentKey} :
    validateArchive value knownKeys = .ok key ↔
      ContentKey.fromStr value.contentKey = .ok key ∧ key ∈ knownKeys ∧
        0 ≤ value.firstQueriedAt ∧ value.firstQueriedAt ≤ value.lastQueriedAt := by
  unfold validateArchive
  split
  · rename_i failed
    simp [failed]
  · rename_i found parsed
    rw [parsed, Except.ok.injEq]
    split
    · rename_i refused
      constructor
      · nofun
      · rintro ⟨rfl, known, first, last⟩
        rcases refused with absent | negative | reversed
        · exact absurd known absent
        · omega
        · omega
    · rename_i accepted
      simp only [not_or, not_not, Int.not_lt] at accepted
      constructor
      · intro same
        cases same
        exact ⟨rfl, accepted⟩
      · rintro ⟨rfl, -⟩
        rfl

theorem validateArchives_iff (knownKeys : List ContentKey) :
    ∀ (values : List PortableQueryStatsArchive) (seen : List ContentKey),
      validateArchives knownKeys seen values = .ok () ↔
        ∃ keys, List.Forall₂ (fun value key => validateArchive value knownKeys = .ok key) values keys ∧
          keys.Nodup ∧ ∀ key ∈ keys, key ∉ seen := by
  intro values
  induction values with
  | nil =>
      intro seen
      unfold validateArchives
      simp
  | cons value rest ih =>
      intro seen
      unfold validateArchives
      rw [bind_ok_iff]
      constructor
      · rintro ⟨key, accepted, looped⟩
        split at looped
        · cases looped
        · rename_i new
          obtain ⟨keys, related, nodup, apart⟩ := (ih _).mp looped
          refine ⟨key :: keys, .cons accepted related, ?_, ?_⟩
          · rw [List.nodup_cons]
            exact ⟨fun member => apart key member (by simp), nodup⟩
          · intro other member
            rcases List.mem_cons.mp member with rfl | later
            · exact new
            · exact fun listed => apart other later (by simp [listed])
      · rintro ⟨keys, related, nodup, apart⟩
        cases related with
        | @cons _ key _ keys accepted related =>
            refine ⟨key, accepted, ?_⟩
            rw [if_neg (apart key (by simp))]
            rw [List.nodup_cons] at nodup
            refine (ih _).mpr ⟨keys, related, nodup.2, ?_⟩
            intro other member listed
            rcases List.mem_cons.mp listed with rfl | earlier
            · exact nodup.1 member
            · exact apart other (by simp [member]) earlier

section Validation

variable [ContentTables]

theorem validateHistory_iff {value : PortableHistory} {entry : HistoryEntry} :
    validateHistory value = .ok entry ↔
      0 ≤ value.lastQueriedAt ∧ value.translation.updatedAt ≤ value.lastQueriedAt ∧
        validateTranslation value.translation = .ok entry.translation ∧
        validateContent value.content = .ok entry.content ∧
        entry.lastQueriedAt = value.lastQueriedAt := by
  unfold validateHistory
  constructor
  · intro success
    split at success
    · cases success
    · rename_i queried
      obtain ⟨translation, translated, afterTranslation⟩ := bind_ok_iff.mp success
      split at afterTranslation
      · cases afterTranslation
      · rename_i ordered
        obtain ⟨content, prepared, same⟩ := bind_ok_iff.mp afterTranslation
        cases same
        obtain ⟨-, targetLang, -, snapshot⟩ := validateTranslation_iff.mp translated
        have written : translation.updatedAt = value.translation.updatedAt := by rw [snapshot]
        refine ⟨by omega, ?_, translated, prepared, rfl⟩
        rw [← written]
        omega
  · rintro ⟨queried, ordered, translated, prepared, last⟩
    obtain ⟨-, targetLang, -, snapshot⟩ := validateTranslation_iff.mp translated
    have written : entry.translation.updatedAt = value.translation.updatedAt := by rw [snapshot]
    rw [if_neg (by omega)]
    refine bind_ok_iff.mpr ⟨_, translated, ?_⟩
    rw [if_neg (by omega)]
    refine bind_ok_iff.mpr ⟨_, prepared, ?_⟩
    rw [← last]

/-- An accepted entry was translated before it was queried. -/
theorem validateHistory_ordered {value : PortableHistory} {entry : HistoryEntry}
    (accepted : validateHistory value = .ok entry) :
    entry.translation.updatedAt ≤ entry.lastQueriedAt := by
  obtain ⟨-, ordered, translated, -, last⟩ := validateHistory_iff.mp accepted
  obtain ⟨-, targetLang, -, snapshot⟩ := validateTranslation_iff.mp translated
  rw [snapshot, last]
  exact ordered

theorem validateFavorite_iff {value : PortableFavorite} {favorite : Favorite} :
    validateFavorite value = .ok favorite ↔
      favoriteTimesAllowed value = true ∧ value.translation.updatedAt = value.updatedAt ∧
        validateTranslation value.translation = .ok favorite.translation ∧
        validateContent value.content = .ok favorite.content ∧
        favorite = ⟨favorite.content, favorite.translation, value.favoritedAt, value.updatedAt,
          value.deletedAt, 0⟩ := by
  unfold validateFavorite
  constructor
  · intro success
    split at success
    · rename_i allowed
      obtain ⟨translation, translated, afterTranslation⟩ := bind_ok_iff.mp success
      split at afterTranslation
      · cases afterTranslation
      · rename_i dated
        obtain ⟨content, prepared, same⟩ := bind_ok_iff.mp afterTranslation
        cases same
        obtain ⟨-, targetLang, -, snapshot⟩ := validateTranslation_iff.mp translated
        have written : translation.updatedAt = value.translation.updatedAt := by rw [snapshot]
        exact ⟨allowed, written.symm.trans (not_not.mp dated), translated, prepared, rfl⟩
    · cases success
  · rintro ⟨allowed, dated, translated, prepared, same⟩
    obtain ⟨-, targetLang, -, snapshot⟩ := validateTranslation_iff.mp translated
    have written : favorite.translation.updatedAt = value.translation.updatedAt := by rw [snapshot]
    rw [if_pos allowed]
    refine bind_ok_iff.mpr ⟨_, translated, ?_⟩
    rw [if_neg (not_not.mpr (written.trans dated))]
    refine bind_ok_iff.mpr ⟨_, prepared, ?_⟩
    rw [← same]

theorem validateFavorite_dated {value : PortableFavorite} {favorite : Favorite}
    (accepted : validateFavorite value = .ok favorite) :
    favorite.translation.updatedAt = favorite.updatedAt := by
  obtain ⟨-, dated, translated, -, same⟩ := validateFavorite_iff.mp accepted
  obtain ⟨-, targetLang, -, snapshot⟩ := validateTranslation_iff.mp translated
  rw [same, snapshot]
  exact dated

theorem validateHistories_iff :
    ∀ (values : List PortableHistory) (seen result : List HistoryEntry),
      validateHistories seen values = .ok result ↔
        ∃ entries, List.Forall₂ (fun value entry => validateHistory value = .ok entry) values entries ∧
          result = seen ++ entries ∧
          (entries.map (fun entry => entry.content.contentKey)).Nodup ∧
          ∀ entry ∈ entries,
            entry.content.contentKey ∉ seen.map (fun other => other.content.contentKey) := by
  intro values
  induction values with
  | nil =>
      intro seen result
      unfold validateHistories
      simp [eq_comm]
  | cons value rest ih =>
      intro seen result
      unfold validateHistories
      rw [bind_ok_iff]
      constructor
      · rintro ⟨entry, accepted, looped⟩
        split at looped
        · cases looped
        · rename_i new
          obtain ⟨entries, related, same, nodup, apart⟩ := (ih _ _).mp looped
          refine ⟨entry :: entries, .cons accepted related, ?_, ?_, ?_⟩
          · rw [same, List.append_assoc, List.singleton_append]
          · rw [List.map_cons, List.nodup_cons, List.mem_map]
            refine ⟨?_, nodup⟩
            rintro ⟨other, member, keyed⟩
            apply apart other member
            simp [keyed]
          · intro other member
            rcases List.mem_cons.mp member with rfl | later
            · exact new
            · intro listed
              apply apart other later
              rw [List.map_append, List.mem_append]
              exact Or.inl listed
      · rintro ⟨entries, related, same, nodup, apart⟩
        cases related with
        | @cons _ entry _ entries accepted related =>
            refine ⟨entry, accepted, ?_⟩
            rw [if_neg (apart entry (by simp))]
            rw [List.map_cons, List.nodup_cons] at nodup
            refine (ih _ _).mpr ⟨entries, related, ?_, nodup.2, ?_⟩
            · rw [same, List.append_assoc, List.singleton_append]
            · intro other member listed
              rw [List.map_append, List.mem_append] at listed
              rcases listed with earlier | last
              · exact apart other (by simp [member]) earlier
              · rw [List.map_singleton, List.mem_singleton] at last
                exact nodup.1 (last ▸ List.mem_map_of_mem member)

/-- The history holds the same content under a Favorite's key. -/
def SameContent (history : List HistoryEntry) (favorite : Favorite) : Prop :=
  ∀ entry ∈ history, entry.content.contentKey = favorite.content.contentKey →
    entry.content = favorite.content

omit [ContentTables] in
theorem any_mismatch_iff (history : List HistoryEntry) (favorite : Favorite) :
    history.any (fun entry => entry.content.contentKey = favorite.content.contentKey &&
      entry.content ≠ favorite.content) = false ↔ SameContent history favorite := by
  simp [SameContent]

theorem validateFavorites_iff (history : List HistoryEntry) :
    ∀ (values : List PortableFavorite) (seen result : List Favorite),
      validateFavorites history seen values = .ok result ↔
        ∃ favorites,
          List.Forall₂ (fun value favorite => validateFavorite value = .ok favorite) values favorites ∧
          result = seen ++ favorites ∧
          (favorites.map (fun favorite => favorite.content.contentKey)).Nodup ∧
          ∀ favorite ∈ favorites,
            favorite.content.contentKey ∉ seen.map (fun other => other.content.contentKey) ∧
            SameContent history favorite := by
  intro values
  induction values with
  | nil =>
      intro seen result
      unfold validateFavorites
      simp [eq_comm]
  | cons value rest ih =>
      intro seen result
      unfold validateFavorites
      rw [bind_ok_iff]
      constructor
      · rintro ⟨favorite, accepted, looped⟩
        split at looped
        · cases looped
        · rename_i new
          split at looped
          · cases looped
          · rename_i matching
            rw [Bool.not_eq_true, any_mismatch_iff] at matching
            obtain ⟨favorites, related, same, nodup, apart⟩ := (ih _ _).mp looped
            refine ⟨favorite :: favorites, .cons accepted related, ?_, ?_, ?_⟩
            · rw [same, List.append_assoc, List.singleton_append]
            · rw [List.map_cons, List.nodup_cons, List.mem_map]
              refine ⟨?_, nodup⟩
              rintro ⟨other, member, keyed⟩
              apply (apart other member).1
              simp [keyed]
            · intro other member
              rcases List.mem_cons.mp member with rfl | later
              · exact ⟨new, matching⟩
              · refine ⟨?_, (apart other later).2⟩
                intro listed
                apply (apart other later).1
                rw [List.map_append, List.mem_append]
                exact Or.inl listed
      · rintro ⟨favorites, related, same, nodup, apart⟩
        cases related with
        | @cons _ favorite _ favorites accepted related =>
            refine ⟨favorite, accepted, ?_⟩
            have first := apart favorite (by simp)
            rw [if_neg first.1, (any_mismatch_iff _ _).mpr first.2]
            rw [List.map_cons, List.nodup_cons] at nodup
            refine (ih _ _).mpr ⟨favorites, related, ?_, nodup.2, ?_⟩
            · rw [same, List.append_assoc, List.singleton_append]
            · intro other member
              refine ⟨?_, (apart other (by simp [member])).2⟩
              intro listed
              rw [List.map_append, List.mem_append] at listed
              rcases listed with earlier | last
              · exact (apart other (by simp [member])).1 earlier
              · rw [List.map_singleton, List.mem_singleton] at last
                exact nodup.1 (last ▸ List.mem_map_of_mem member)

/-- The header and the number of records are in order. -/
def HeaderAllowed (document : PortableDataExport) : Prop :=
  document.format = portableFormat ∧ document.exportVersion = exportFormatVersion ∧
    labelAllowed maxAppVersionBytes document.appVersion = true ∧ document.schemaVersion ≠ 0 ∧
    document.username.all (labelAllowed maxUsernameBytes) = true ∧
    document.history.length + document.favorites.length + document.queryStatsArchive.length ≤
      maxPortableRecords

theorem validateExport_iff {document : PortableDataExport} {validated : ValidatedExport} :
    validateExport document = .ok validated ↔
      HeaderAllowed document ∧
      List.Forall₂ (fun value entry => validateHistory value = .ok entry) document.history
        validated.history ∧
      (validated.history.map (fun entry => entry.content.contentKey)).Nodup ∧
      List.Forall₂ (fun value favorite => validateFavorite value = .ok favorite) document.favorites
        validated.favorites ∧
      (validated.favorites.map (fun favorite => favorite.content.contentKey)).Nodup ∧
      (∀ favorite ∈ validated.favorites, SameContent validated.history favorite) ∧
      (∃ keys, List.Forall₂ (fun value key => validateArchive value
          (validated.historyKeys ++
            validated.favorites.map (fun favorite => favorite.content.contentKey)) = .ok key)
          document.queryStatsArchive keys ∧ keys.Nodup) ∧
      validated.historyKeys = validated.history.map (fun entry => entry.content.contentKey) ∧
      validated.queryStatsCount = document.queryStatsArchive.length := by
  unfold validateExport
  constructor
  · intro success
    split at success
    · cases success
    · rename_i version
      split at success
      · cases success
      · rename_i metadata
        split at success
        · cases success
        · rename_i label
          obtain ⟨⟨⟩, counted, afterCount⟩ := bind_ok_iff.mp success
          obtain ⟨history, histories, afterHistory⟩ := bind_ok_iff.mp afterCount
          obtain ⟨favorites, listed, afterFavorites⟩ := bind_ok_iff.mp afterHistory
          obtain ⟨⟨⟩, archived, same⟩ := bind_ok_iff.mp afterFavorites
          cases same
          obtain ⟨entries, related, rfl, nodup, -⟩ := (validateHistories_iff _ _ _).mp histories
          obtain ⟨chosen, matched, rfl, distinct, content⟩ :=
            (validateFavorites_iff _ _ _ _).mp listed
          obtain ⟨keys, known, once, -⟩ := (validateArchives_iff _ _ _).mp archived
          refine ⟨?_, related, nodup, matched, distinct, fun favorite member =>
            (content favorite member).2, ⟨keys, known, once⟩, rfl, rfl⟩
          unfold enforceRecordLimit at counted
          split at counted
          · cases counted
          · rename_i few
            simp only [not_or, ne_eq, not_not] at version
            simp only [Bool.or_eq_true, Bool.not_eq_true', decide_eq_true_eq, not_or,
              Bool.not_eq_false] at metadata
            refine ⟨version.1, version.2, metadata.1, metadata.2, ?_, by omega⟩
            cases named : document.username with
            | none => rfl
            | some username =>
                rw [named] at label
                simpa using label
  · rintro ⟨⟨format, version, app, schema, label, few⟩, related, nodup, matched, distinct, content,
      ⟨keys, known, once⟩, historyKeys, counted⟩
    have headed : ¬ (document.format ≠ portableFormat ∨
        document.exportVersion ≠ exportFormatVersion) := by
      simp [format, version]
    have dated : ¬ (!labelAllowed maxAppVersionBytes document.appVersion ||
        decide (document.schemaVersion = 0)) = true := by
      simp [app, schema]
    have labelled : ¬ document.username.any
        (fun username => !labelAllowed maxUsernameBytes username) = true := by
      cases named : document.username with
      | none => simp
      | some username =>
          rw [named] at label
          simpa using label
    rw [if_neg headed, if_neg dated, if_neg labelled]
    refine bind_ok_iff.mpr ⟨(), if_neg (by omega), ?_⟩
    refine bind_ok_iff.mpr ⟨validated.history, ?_, ?_⟩
    · exact (validateHistories_iff _ _ _).mpr ⟨_, related, rfl, nodup, by simp⟩
    refine bind_ok_iff.mpr ⟨validated.favorites, ?_, ?_⟩
    · exact (validateFavorites_iff _ _ _ _).mpr ⟨_, matched, rfl, distinct, fun favorite member =>
        ⟨by simp, content favorite member⟩⟩
    refine bind_ok_iff.mpr ⟨(), ?_, ?_⟩
    · rw [historyKeys] at known
      exact (validateArchives_iff _ _ _).mpr ⟨keys, known, once, by simp⟩
    · rw [← counted, ← historyKeys]

end Validation

end Lvos.Storage
