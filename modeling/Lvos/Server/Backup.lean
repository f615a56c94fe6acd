import Lvos.Core.Identity
import Lvos.Lib.Retention
import Lvos.Lib.Table
import Lvos.Lib.Utf8
import Lvos.Lib.Words
import Mathlib.Algebra.Group.Int.Defs
import Mathlib.Algebra.Group.Nat.Defs
import Mathlib.Data.Char
import Mathlib.Data.List.Lex
import Mathlib.Data.Prod.Lex

set_option autoImplicit false

namespace Lvos.Server

open Lvos.Core (Uuid)
open Relational (Table)
open Words (rsplitOnce)

/-! The backups of the server: copies in one directory, of which the newest are retained. -/

/-- The failures of `RepositoryError` a backup or a restore can meet. -/
inductive BackupFailure
  | database
  | backup
  | integrity
  | restore
deriving DecidableEq, Repr

/-- `OsString`: the bytes of a name. -/
abbrev FileName := List UInt8

/-- What stands under a name; a file holds a database, if anyone knows which. -/
structure DirEntry (δ : Type) where
  isFile : Bool
  data : Option δ
deriving DecidableEq, Repr

abbrev Directory (δ : Type) := Table FileName (DirEntry δ)

/-- `Path::file_stem`. -/
def fileStem (name : FileName) : FileName :=
  match rsplitOnce 46 name with
  | some ([], _) => name
  | some (before, _) => before
  | none => name

/-- `Path::extension`. -/
def extension (name : FileName) : Option FileName :=
  match rsplitOnce 46 name with
  | some ([], _) => none
  | some (_, after) => some after
  | none => none

/-- `Path::with_extension`. -/
def withExtension (name : FileName) (extension : String) : FileName :=
  fileStem name ++ Hex.utf8 ('.' :: extension.toList)

/-- The sign of a number and its digits. -/
def splitSign : List Char → Bool × List Char
  | '+' :: rest => (false, rest)
  | '-' :: rest => (true, rest)
  | unsigned => (false, unsigned)

/-- `str::parse::<i64>`. -/
def parseI64 (text : List Char) : Option Int :=
  let digits := (splitSign text).2
  let magnitude : Int := Nat.ofDigitChars 10 digits 0
  let value := if (splitSign text).1 then -magnitude else magnitude
  if digits ≠ [] ∧ digits.all Char.isDigit ∧ -2 ^ 63 ≤ value ∧ value < 2 ^ 63 then some value
  else none

/-- `Display` of an `i64`. -/
def decimal (value : Int) : List Char :=
  if value < 0 then '-' :: Nat.toDigits 10 value.natAbs else Nat.toDigits 10 value.natAbs

/-- `str::get(..count)`: none inside a character. -/
def getTo : Nat → List Char → Option (List Char)
  | 0, _ => some []
  | _ + 1, [] => none
  | count + 1, character :: rest =>
      if character.utf8Size ≤ count + 1 then
        (getTo (count + 1 - character.utf8Size) rest).map (character :: ·)
      else none

def backupTimestamp (filename : List Char) : Option Int := do
  let stem ← ".sqlite3".toList.isSuffixOf? filename
  let bytes := (Hex.utf8 stem).length
  if bytes < 37 then none
  else
    let before ← getTo (bytes - 37) stem
    let (_, stamp) ← rsplitOnce '-' before
    parseI64 stamp

/-- The time stamp the sort reads off a name. -/
def backupStamp (name : FileName) : Int :=
  (backupTimestamp (Utf8.lossy name)).getD (-2 ^ 63)

/-- The key of the sort; the order of two names is that of their bytes. -/
def backupKey (name : FileName) : Lex (Int × List Char) :=
  toLex (backupStamp name, Utf8.lossy name)

theorem backupKey_stamp (name : FileName) : (ofLex (backupKey name)).1 = backupStamp name := rfl

def isBackup {δ : Type} (entry : FileName × DirEntry δ) : Bool :=
  entry.2.isFile && "lvos-server-v".toList.isPrefixOf (Utf8.lossy entry.1) &&
    extension entry.1 = some (Hex.utf8 "sqlite3".toList)

/-- What the operating system and SQLite answer while a backup is made. -/
structure BackupHost (δ : Type) where
  createDirAll : Bool
  opensTemporary : Bool
  /-- `copy_database` and then `verify_integrity`. -/
  copies : Except BackupFailure Unit
  renames : Bool
  readDir : List (FileName × DirEntry δ) → Option (List (FileName × DirEntry δ))
  removes : FileName → Bool
  /-- A directory that is read is read in full, in some order. -/
  readDir_perm : ∀ entries listed, readDir entries = some listed → listed.Perm entries

section Backup

variable {δ : Type}

def removeFiles (host : BackupHost δ) (directory : Directory δ) :
    List (FileName × DirEntry δ) → Except BackupFailure Unit × Directory δ
  | [] => (.ok (), directory)
  | entry :: rest =>
      if host.removes entry.1 then
        removeFiles host (directory.delete (fun name _ => name = entry.1)) rest
      else (.error .backup, directory)

def enforceRetention (host : BackupHost δ) (directory : Directory δ) (retentionCount : Nat) :
    Except BackupFailure Unit × Directory δ :=
  match host.readDir directory.rows with
  | none => (.error .backup, directory)
  | some listed =>
      removeFiles host directory
        (Retention.expired (fun entry => backupKey entry.1) retentionCount
          (listed.filter isBackup))

def softwareVersion : String := "0.1.9"

def reasonAllowed (reason : String) : Bool :=
  reason ≠ "" && reason.toList.all (fun byte => ('a' ≤ byte && byte ≤ 'z') || byte = '-')

def backupFilename (schemaVersion : Int) (reason : String) (now : Int) (id : Uuid) : List Char :=
  "lvos-server-v".toList ++ softwareVersion.toList ++ "-schema".toList ++ decimal schemaVersion ++
    '-' :: reason.toList ++ '-' :: decimal now ++ '-' :: id.text.toList ++ ".sqlite3".toList

/-- The result and the directory left behind. -/
def createBackup (host : BackupHost δ) (directory : Directory δ) (source : δ)
    (retentionCount : Nat) (schemaVersion : Int) (reason : String) (now : Int) (id : Uuid) :
    Except BackupFailure FileName × Directory δ :=
  if retentionCount = 0 ∨ reasonAllowed reason = false then (.error .backup, directory)
  else if host.createDirAll = false then (.error .backup, directory)
  else
    let path := Hex.utf8 (backupFilename schemaVersion reason now id)
    let temporary := withExtension path "sqlite3.partial"
    if host.opensTemporary = false then (.error .backup, directory)
    else
      match host.copies with
      | .error failure =>
          let partly := directory.put temporary ⟨true, none⟩
          (.error failure,
            if host.removes temporary then partly.delete (fun name _ => name = temporary)
            else partly)
      | .ok () =>
          if host.renames = false then
            (.error .backup, directory.put temporary ⟨true, some source⟩)
          else
            let renamed := (directory.delete (fun name _ => name = temporary)).put path
              ⟨true, some source⟩
            match enforceRetention host renamed retentionCount with
            | (.error failure, after) => (.error failure, after)
            | (.ok (), after) => (.ok path, after)

/-- What else a restore asks of the system. -/
structure RestoreHost (δ : Type) where
  opensSource : Bool
  sourceIntact : Bool
  createsParent : Bool
  opensDatabase : Bool
  journals : Bool
  schemaVersion : Option Int
  backup : BackupHost δ
  /-- `copy_database` over the database and `verify_integrity`: the outcome and the database. -/
  copiesBack : δ → δ → Except BackupFailure Unit × δ

def sqlitePath (databaseUrl : String) : Except BackupFailure (List Char) :=
  let value := ("sqlite://".toList.isPrefixOf? databaseUrl.toList).getD databaseUrl.toList
  if value = [] then .error .database else .ok value

/-- `restore_database` up to the copy over the database. -/
def prepareRestore (host : RestoreHost δ) (databaseUrl : String) (directory : Directory δ)
    (database : δ) (retentionCount : Nat) (now : Int) (id : Uuid) :
    Except BackupFailure FileName × Directory δ :=
  if host.opensSource = false ∨ host.sourceIntact = false then (.error .restore, directory)
  else
    match sqlitePath databaseUrl with
    | .error failure => (.error failure, directory)
    | .ok databasePath =>
        if databasePath = ":memory:".toList ∨ host.createsParent = false ∨
            host.opensDatabase = false ∨ host.journals = false then
          (.error .restore, directory)
        else
          match host.schemaVersion with
          | none => (.error .restore, directory)
          | some schemaVersion =>
              match createBackup host.backup directory database retentionCount schemaVersion
                "pre-restore" now id with
              | (.error _, after) => (.error .restore, after)
              | (.ok recovery, after) => (.ok recovery, after)

/-- The result, the directory of the backups and the database left behind. -/
def restoreDatabase (host : RestoreHost δ) (databaseUrl : String) (directory : Directory δ)
    (source database : δ) (retentionCount : Nat) (now : Int) (id : Uuid) :
    Except BackupFailure FileName × Directory δ × δ :=
  match prepareRestore host databaseUrl directory database retentionCount now id with
  | (.error failure, after) => (.error failure, after, database)
  | (.ok recovery, after) =>
      match host.copiesBack source database with
      | (.error _, written) => (.error .restore, after, written)
      | (.ok (), written) => (.ok recovery, after, written)

end Backup

section Names

def Ascii (text : List Char) : Prop :=
  ∀ character ∈ text, character.toNat < 128

theorem Ascii.append {first second : List Char} (left : Ascii first) (right : Ascii second) :
    Ascii (first ++ second) := by
  intro character member
  rcases List.mem_append.mp member with inFirst | inSecond
  · exact left character inFirst
  · exact right character inSecond

theorem Ascii.cons {character : Char} {text : List Char} (small : character.toNat < 128)
    (rest : Ascii text) : Ascii (character :: text) := by
  intro other member
  rcases List.mem_cons.mp member with rfl | later
  · exact small
  · exact rest other later

theorem ascii_of_all {text : List Char}
    (small : text.all (fun character => character.toNat < 128) = true) : Ascii text :=
  fun character member => of_decide_eq_true (List.all_eq_true.mp small character member)

theorem length_utf8_ascii {text : List Char} (ascii : Ascii text) :
    (Hex.utf8 text).length = text.length := by
  induction text with
  | nil => rfl
  | cons character text ih =>
      rw [Hex.utf8, List.flatMap_cons, List.length_append,
        Utf8.utf8_ascii (ascii character List.mem_cons_self), List.length_singleton,
        List.length_cons, Nat.add_comm]
      exact congrArg (· + 1) (ih (fun other member => ascii other (List.mem_cons_of_mem _ member)))

theorem getTo_append {before : List Char} (ascii : Ascii before) (rest : List Char) :
    getTo before.length (before ++ rest) = some before := by
  induction before with
  | nil =>
      cases rest <;> rfl
  | cons character before ih =>
      have single : character.utf8Size = 1 := by
        rw [Char.utf8Size_eq_one_iff]
        exact Nat.lt_succ_iff.mp (ascii character List.mem_cons_self)
      rw [List.length_cons, List.cons_append, getTo, single, if_pos (by omega),
        Nat.add_sub_cancel, ih (fun other member => ascii other (List.mem_cons_of_mem _ member))]
      rfl

theorem toDigits_isDigit {value : Nat} : ∀ character ∈ Nat.toDigits 10 value,
    character.isDigit = true :=
  fun _ member => Nat.isDigit_of_mem_toDigits (by decide) (by decide) member

theorem ascii_of_isDigit {character : Char} (digit : character.isDigit = true) :
    character.toNat < 128 := by
  simp only [Char.isDigit, Bool.and_eq_true, decide_eq_true_eq, UInt32.le_iff_toNat_le,
    ge_iff_le] at digit
  change 48 ≤ character.toNat ∧ character.toNat ≤ 57 at digit
  omega

theorem ascii_decimal (value : Int) : Ascii (decimal value) := by
  have digits : Ascii (Nat.toDigits 10 value.natAbs) :=
    fun character member => ascii_of_isDigit (toDigits_isDigit character member)
  unfold decimal
  split
  · exact digits.cons (by decide)
  · exact digits

theorem ascii_encode (bytes : List UInt8) : Ascii (Hex.encode bytes) := by
  have digit : ∀ value, value < 16 → (Hex.digit value).toNat < 128 := by decide
  induction bytes with
  | nil => simp [Ascii]
  | cons byte rest ih =>
      have bound := byte.toNat_lt
      rw [Hex.encode_cons]
      exact (ih.cons (digit _ (by omega))).cons (digit _ (by omega))

theorem ascii_text (id : Uuid) : Ascii id.text.toList := by
  have digits := ascii_encode id.bytes
  have taken : ∀ start count, Ascii (((Hex.encode id.bytes).drop start).take count) :=
    fun start count character member =>
      digits character (List.mem_of_mem_drop (List.mem_of_mem_take member))
  have first : Ascii ((Hex.encode id.bytes).take 8) :=
    fun character member => digits character (List.mem_of_mem_take member)
  have last : Ascii ((Hex.encode id.bytes).drop 20) :=
    fun character member => digits character (List.mem_of_mem_drop member)
  have hyphen : ('-').toNat < 128 := by decide
  rw [Uuid.text, String.toList_ofList, Lvos.Core.hyphenate]
  exact ((((first.append ((taken 8 4).cons hyphen)).append ((taken 12 4).cons hyphen)).append
    ((taken 16 4).cons hyphen)).append (last.cons hyphen))

theorem length_text (id : Uuid) : id.text.toList.length = 36 := by
  have digits := Hex.length_encode id.bytes
  rw [id.size] at digits
  rw [Uuid.text, String.toList_ofList, Lvos.Core.hyphenate]
  simp only [List.length_append, List.length_cons, List.length_take, List.length_drop, digits]
  omega

theorem splitSign_digits {text : List Char}
    (digits : ∀ character ∈ text, character.isDigit = true) : splitSign text = (false, text) := by
  unfold splitSign
  split
  case h_1 rest => exact absurd (digits '+' List.mem_cons_self) (by decide)
  case h_2 rest => exact absurd (digits '-' List.mem_cons_self) (by decide)
  case h_3 => rfl

theorem parseI64_toDigits (value : Nat) :
    parseI64 (Nat.toDigits 10 value) = if value < 2 ^ 63 then some (value : Int) else none := by
  have unsigned := splitSign_digits (@toDigits_isDigit value)
  have all : (Nat.toDigits 10 value).all Char.isDigit = true :=
    List.all_eq_true.mpr toDigits_isDigit
  simp only [parseI64, unsigned, Nat.ofDigitChars_ten_toDigits, all, Bool.false_eq_true, ↓reduceIte]
  by_cases small : value < 2 ^ 63
  · rw [if_pos small, if_pos ⟨Nat.toDigits_ne_nil, trivial, by omega, by omega⟩]
  · rw [if_neg small, if_neg]
    rintro ⟨-, -, -, below⟩
    omega

theorem ascii_reason {reason : String} (allowed : reasonAllowed reason = true) :
    Ascii reason.toList := by
  simp only [reasonAllowed, Bool.and_eq_true, List.all_eq_true] at allowed
  intro character member
  have fits := allowed.2 character member
  simp only [Bool.or_eq_true, Bool.and_eq_true, decide_eq_true_eq, Char.le_def] at fits
  rcases fits with ⟨-, upper⟩ | rfl
  · have bound := UInt32.le_iff_toNat_le.mp upper
    change character.toNat ≤ 122 at bound
    omega
  · decide

section Filename

variable {schemaVersion now : Int} {reason : String} {id : Uuid}

/-- The part of a name before its id. -/
def namePart (schemaVersion : Int) (reason : String) (now : Int) : List Char :=
  "lvos-server-v".toList ++ softwareVersion.toList ++ "-schema".toList ++ decimal schemaVersion ++
    '-' :: reason.toList ++ '-' :: decimal now

theorem backupFilename_eq :
    backupFilename schemaVersion reason now id =
      namePart schemaVersion reason now ++ '-' :: id.text.toList ++ ".sqlite3".toList :=
  rfl

theorem ascii_namePart (allowed : reasonAllowed reason = true) :
    Ascii (namePart schemaVersion reason now) := by
  have label : Ascii ("lvos-server-v".toList ++ softwareVersion.toList ++ "-schema".toList) :=
    ((ascii_of_all (by decide)).append (ascii_of_all (by decide))).append
      (ascii_of_all (by decide))
  have hyphen : ('-').toNat < 128 := by decide
  unfold namePart
  exact ((label.append (ascii_decimal schemaVersion)).append
    ((ascii_reason allowed).cons hyphen)).append ((ascii_decimal now).cons hyphen)

theorem ascii_backupFilename (allowed : reasonAllowed reason = true) :
    Ascii (backupFilename schemaVersion reason now id) := by
  have extension : Ascii ".sqlite3".toList := ascii_of_all (by decide)
  rw [backupFilename_eq]
  exact ((ascii_namePart allowed).append ((ascii_text id).cons (by decide))).append extension

/-- The sign of a clock reading before 1970 is one more hyphen of its name. -/
theorem last_hyphen (front : List Char) (value : Int) :
    ∃ before, front ++ '-' :: decimal value =
      before ++ '-' :: Nat.toDigits 10 value.natAbs := by
  unfold decimal
  by_cases past : value < 0
  · refine ⟨front ++ ['-'], ?_⟩
    rw [if_pos past, List.append_assoc]
    rfl
  · exact ⟨front, by rw [if_neg past]⟩

theorem backupTimestamp_filename (allowed : reasonAllowed reason = true) :
    backupTimestamp (backupFilename schemaVersion reason now id) =
      if now.natAbs < 2 ^ 63 then some (now.natAbs : Int) else none := by
  have hyphen : '-' ∉ Nat.toDigits 10 now.natAbs :=
    fun member => absurd (toDigits_isDigit '-' member) (by decide)
  obtain ⟨before, parts⟩ : ∃ before, namePart schemaVersion reason now =
      before ++ '-' :: Nat.toDigits 10 now.natAbs := last_hyphen _ now
  have stem : ".sqlite3".toList.isSuffixOf? (backupFilename schemaVersion reason now id) =
      some (namePart schemaVersion reason now ++ '-' :: id.text.toList) := by
    rw [List.isSuffixOf?_eq_some_iff_append_eq, backupFilename_eq]
  have size : (Hex.utf8 (namePart schemaVersion reason now ++ '-' :: id.text.toList)).length =
      (namePart schemaVersion reason now).length + 37 := by
    rw [length_utf8_ascii ((ascii_namePart allowed).append ((ascii_text id).cons (by decide))),
      List.length_append, List.length_cons, length_text]
  have stamp : rsplitOnce '-' (namePart schemaVersion reason now) =
      some (before, Nat.toDigits 10 now.natAbs) := by
    rw [parts, Words.rsplitOnce_append before hyphen]
  simp only [backupTimestamp, stem, size, Option.bind_eq_bind, Option.bind_some,
    Nat.add_sub_cancel, getTo_append (ascii_namePart allowed), stamp, parseI64_toDigits]
  rw [if_neg (by omega)]

theorem lossy_backupFilename (allowed : reasonAllowed reason = true) :
    Utf8.lossy (Hex.utf8 (backupFilename schemaVersion reason now id)) =
      backupFilename schemaVersion reason now id :=
  Utf8.lossy_ascii (ascii_backupFilename allowed)

theorem backupStamp_filename (allowed : reasonAllowed reason = true) :
    backupStamp (Hex.utf8 (backupFilename schemaVersion reason now id)) =
      if now.natAbs < 2 ^ 63 then (now.natAbs : Int) else -2 ^ 63 := by
  rw [backupStamp, lossy_backupFilename allowed, backupTimestamp_filename allowed]
  split <;> rfl

/-- The key of a new backup is that of no other name. -/
theorem backupKey_alone (allowed : reasonAllowed reason = true) {name : FileName}
    (same : backupKey name =
      backupKey (Hex.utf8 (backupFilename schemaVersion reason now id))) :
    name = Hex.utf8 (backupFilename schemaVersion reason now id) := by
  have names : Utf8.lossy name = backupFilename schemaVersion reason now id := by
    rw [← lossy_backupFilename allowed]
    exact congrArg (fun key => (ofLex key).2) same
  exact (Utf8.lossy_eq_iff (ascii_backupFilename allowed)).mp names

theorem extension_of_last {before : FileName} (present : before ≠ []) {after : FileName}
    (last : 46 ∉ after) : extension (before ++ 46 :: after) = some after := by
  rw [extension, Words.rsplitOnce_append before last]
  cases before with
  | nil => exact absurd rfl present
  | cons byte rest => rfl

theorem isBackup_new {δ : Type} (allowed : reasonAllowed reason = true) (data : Option δ) :
    isBackup (Hex.utf8 (backupFilename schemaVersion reason now id), (⟨true, data⟩ : DirEntry δ)) =
      true := by
  have labelled : "lvos-server-v".toList.isPrefixOf (backupFilename schemaVersion reason now id) =
      true := by
    apply List.isPrefixOf_iff_prefix.mpr
    unfold backupFilename
    iterate 6 apply List.prefix_append_of_prefix
    exact List.prefix_append _ _
  have database : extension (Hex.utf8 (backupFilename schemaVersion reason now id)) =
      some (Hex.utf8 "sqlite3".toList) := by
    have dotted : Hex.utf8 ".sqlite3".toList = 46 :: Hex.utf8 "sqlite3".toList := by decide
    rw [backupFilename_eq, Utf8.utf8_append, dotted]
    apply extension_of_last
    · rw [Utf8.utf8_append]
      exact List.append_ne_nil_of_right_ne_nil _
        (List.append_ne_nil_of_left_ne_nil String.utf8EncodeChar_ne_nil _)
    · decide
  rw [isBackup, lossy_backupFilename allowed, labelled, database]
  simp

/-- The file the copy goes to is no backup. -/
theorem isBackup_temporary {δ : Type} (name : FileName) (entry : DirEntry δ) :
    isBackup (withExtension name "sqlite3.partial", entry) = false := by
  have parts : withExtension name "sqlite3.partial" =
      (fileStem name ++ Hex.utf8 ".sqlite3".toList) ++ 46 :: Hex.utf8 "partial".toList := by
    rw [withExtension, List.append_assoc]
    rfl
  have other : extension (withExtension name "sqlite3.partial") =
      some (Hex.utf8 "partial".toList) := by
    rw [parts]
    apply extension_of_last
    · exact List.append_ne_nil_of_right_ne_nil _ (by decide)
    · decide
  have differs : some (Hex.utf8 "partial".toList) ≠ some (Hex.utf8 "sqlite3".toList) := by decide
  rw [isBackup, other, decide_eq_false differs, Bool.and_false]

end Filename

end Names

section Backup

variable {δ : Type}

theorem removeFiles_ok {host : BackupHost δ} {directory after : Directory δ}
    {entries : List (FileName × DirEntry δ)}
    (removed : removeFiles host directory entries = (.ok (), after))
    (entry : FileName × DirEntry δ) :
    entry ∈ after.rows ↔ entry ∈ directory.rows ∧ entry.1 ∉ entries.map Prod.fst := by
  induction entries generalizing directory with
  | nil =>
      cases removed
      simp
  | cons first rest ih =>
      by_cases removes : host.removes first.1 = true
      · simp only [removeFiles, removes, ↓reduceIte] at removed
        rw [ih removed, Table.delete, List.mem_filter, List.map_cons, List.mem_cons, not_or,
          and_assoc, Bool.not_eq_true', decide_eq_false_iff_not]
      · simp only [removeFiles, removes] at removed
        cases removed

/-- Two entries of one name are one entry. -/
theorem entry_unique {directory : Directory δ} {first second : FileName × DirEntry δ}
    (left : first ∈ directory.rows) (right : second ∈ directory.rows)
    (same : first.1 = second.1) : first = second :=
  List.inj_on_of_nodup_map directory.unique left right same

theorem enforceRetention_ok {host : BackupHost δ} {directory after : Directory δ}
    {retentionCount : Nat}
    (enforced : enforceRetention host directory retentionCount = (.ok (), after)) :
    ∃ backups, backups.Perm (directory.rows.filter isBackup) ∧
      ∀ entry, entry ∈ after.rows ↔ entry ∈ directory.rows ∧
        entry ∉ Retention.expired (fun entry => backupKey entry.1) retentionCount backups := by
  unfold enforceRetention at enforced
  split at enforced
  case h_1 unread => cases enforced
  case h_2 listed read =>
    have backups := (host.readDir_perm _ _ read).filter isBackup
    refine ⟨listed.filter isBackup, backups, ?_⟩
    intro entry
    rw [removeFiles_ok enforced]
    apply and_congr_right
    intro stored
    apply not_congr
    rw [List.mem_map]
    constructor
    · rintro ⟨other, expires, same⟩
      have inside := backups.mem_iff.mp (Retention.mem_expired_or_retained.mp (Or.inl expires))
      rw [← entry_unique (List.mem_filter.mp inside).1 stored same]
      exact expires
    · intro expires
      exact ⟨entry, expires, rfl⟩

/-- What a successful backup is to leave behind. -/
structure BackupKept (source : δ) (retentionCount : Nat) (before after : Directory δ)
    (path : FileName) : Prop where
  stored : after.get path = some ⟨true, some source⟩
  bounded : (after.rows.filter isBackup).length ≤ retentionCount
  oldest : ∀ removed, removed = path ∨ (∃ entry, (removed, entry) ∈ before.rows ∧
      isBackup (removed, entry) = true) → after.get removed = none →
    ∀ kept ∈ after.rows, isBackup kept = true → backupStamp removed ≤ backupStamp kept.1

/-- Fewer than `retentionCount` of the backups there are sort after the new file. -/
def RanksNew (retentionCount : Nat) (directory : Directory δ) (path : FileName) : Prop :=
  (directory.rows.filter
    (fun entry => isBackup entry && backupKey path < backupKey entry.1)).length < retentionCount

instance (retentionCount : Nat) (directory : Directory δ) (path : FileName) :
    Decidable (RanksNew retentionCount directory path) :=
  inferInstanceAs (Decidable (_ < _))

section Kept

variable {host : BackupHost δ} {directory after : Directory δ} {source : δ}
  {retentionCount : Nat} {schemaVersion now : Int} {reason : String} {id : Uuid} {path : FileName}

/-- The directory once the copy has its name. -/
def renamedTo (directory : Directory δ) (path : FileName) (source : δ) : Directory δ :=
  (directory.delete (fun name _ => name = withExtension path "sqlite3.partial")).put path
    ⟨true, some source⟩

theorem createBackup_ok
    (made : createBackup host directory source retentionCount schemaVersion reason now id =
      (.ok path, after)) :
    reasonAllowed reason = true ∧ path = Hex.utf8 (backupFilename schemaVersion reason now id) ∧
      enforceRetention host (renamedTo directory path source) retentionCount = (.ok (), after) := by
  unfold createBackup at made
  split at made
  case isTrue => cases made
  case isFalse allowed =>
    simp only [not_or, Bool.not_eq_false] at allowed
    split at made
    case isTrue => cases made
    case isFalse =>
      simp only at made
      split at made
      case isTrue => cases made
      case isFalse =>
        split at made
        case h_1 => cases made
        case h_2 =>
          split at made
          case isTrue => cases made
          case isFalse =>
            split at made
            case h_1 => cases made
            case h_2 reached enforced =>
              cases made
              exact ⟨allowed.2, rfl, enforced⟩

theorem mem_renamedTo {name : FileName} {entry : DirEntry δ} :
    (name, entry) ∈ (renamedTo directory path source).rows ↔
      (name = path ∧ entry = ⟨true, some source⟩) ∨
        (name ≠ path ∧ name ≠ withExtension path "sqlite3.partial" ∧
          (name, entry) ∈ directory.rows) := by
  rw [Table.mem_rows_iff, renamedTo, Table.get_put, Table.get_delete_key, Table.mem_rows_iff]
  by_cases new : name = path
  · simp [new, eq_comm]
  · by_cases temporary : name = withExtension path "sqlite3.partial"
    · rw [if_neg new, if_pos temporary]
      constructor
      · rintro ⟨⟩
      · rintro (⟨same, -⟩ | ⟨-, other, -⟩)
        · exact absurd same new
        · exact absurd temporary other
    · simp [new, temporary]

theorem rows_nodup (directory : Directory δ) : directory.rows.Nodup :=
  List.Nodup.of_map Prod.fst directory.unique

/-- The backups that sort after the new one are those there were. -/
theorem above_new :
    ((renamedTo directory path source).rows.filter
        (fun entry => isBackup entry && backupKey path < backupKey entry.1)).Perm
      (directory.rows.filter
        (fun entry => isBackup entry && backupKey path < backupKey entry.1)) := by
  rw [List.perm_ext_iff_of_nodup ((rows_nodup _).filter _) ((rows_nodup _).filter _)]
  rintro ⟨name, entry⟩
  simp only [List.mem_filter, mem_renamedTo, Bool.and_eq_true, decide_eq_true_eq]
  constructor
  · rintro ⟨⟨rfl, -⟩ | ⟨-, -, stored⟩, backup, above⟩
    · exact absurd above (lt_irrefl _)
    · exact ⟨stored, backup, above⟩
  · rintro ⟨stored, backup, above⟩
    refine ⟨Or.inr ⟨?_, ?_, stored⟩, backup, above⟩
    · rintro rfl
      exact lt_irrefl _ above
    · rintro rfl
      rw [isBackup_temporary] at backup
      cases backup

/-- What remains of the backups is what is retained of them. -/
theorem remaining_perm {entries : Directory δ} {backups : List (FileName × DirEntry δ)}
    (listed : backups.Perm (entries.rows.filter isBackup))
    (remains : ∀ entry, entry ∈ after.rows ↔ entry ∈ entries.rows ∧
      entry ∉ Retention.expired (fun entry => backupKey entry.1) retentionCount backups) :
    (after.rows.filter isBackup).Perm
      (Retention.retained (fun entry => backupKey entry.1) retentionCount backups) := by
  have distinct : backups.Nodup := listed.nodup_iff.mpr ((rows_nodup _).filter _)
  rw [List.perm_ext_iff_of_nodup ((rows_nodup _).filter _) (Retention.nodup_retained distinct)]
  intro entry
  have known : entry ∈ backups ↔ entry ∈ entries.rows ∧ isBackup entry = true := by
    rw [listed.mem_iff, List.mem_filter]
  have parts := @Retention.mem_expired_or_retained _ _ _ (fun entry => backupKey entry.1)
    retentionCount backups entry
  rw [List.mem_filter, remains]
  constructor
  · rintro ⟨⟨stored, fresh⟩, backup⟩
    exact (parts.mpr (known.mpr ⟨stored, backup⟩)).resolve_left fresh
  · intro stays
    obtain ⟨stored, backup⟩ := known.mp (parts.mp (Or.inr stays))
    exact ⟨⟨stored, fun expires => Retention.disjoint_of_nodup distinct expires stays⟩, backup⟩

theorem stored_iff (allowed : reasonAllowed reason = true)
    (named : path = Hex.utf8 (backupFilename schemaVersion reason now id))
    {backups : List (FileName × DirEntry δ)}
    (listed : backups.Perm ((renamedTo directory path source).rows.filter isBackup))
    (remains : ∀ entry, entry ∈ after.rows ↔ entry ∈ (renamedTo directory path source).rows ∧
      entry ∉ Retention.expired (fun entry => backupKey entry.1) retentionCount backups) :
    after.get path = some ⟨true, some source⟩ ↔ RanksNew retentionCount directory path := by
  have distinct : backups.Nodup := listed.nodup_iff.mpr ((rows_nodup _).filter _)
  have new : (path, ⟨true, some source⟩) ∈ (renamedTo directory path source).rows :=
    mem_renamedTo.mpr (Or.inl ⟨rfl, rfl⟩)
  have backup : isBackup (path, (⟨true, some source⟩ : DirEntry δ)) = true := by
    rw [named]
    exact isBackup_new allowed (some source)
  have member : (path, ⟨true, some source⟩) ∈ backups :=
    listed.mem_iff.mpr (List.mem_filter.mpr ⟨new, backup⟩)
  have alone : ∀ other ∈ backups, backupKey other.1 = backupKey path →
      other = (path, ⟨true, some source⟩) := by
    intro other inside same
    rw [named] at same
    have name := (backupKey_alone allowed same).trans named.symm
    exact entry_unique (List.mem_filter.mp (listed.mem_iff.mp inside)).1 new name
  have above : (backups.filter (fun entry => backupKey path < backupKey entry.1)).length =
      (directory.rows.filter
        (fun entry => isBackup entry && backupKey path < backupKey entry.1)).length := by
    have same := @above_new δ directory source path
    rw [← same.length_eq, (listed.filter _).length_eq, List.filter_filter]
    simp only [Bool.and_comm]
  have stays := @Retention.mem_retained_iff _ _ _ _ retentionCount _ distinct _ member alone
  rw [above] at stays
  rw [RanksNew, ← stays, ← Table.mem_rows_iff, remains]
  have parts := @Retention.mem_expired_or_retained _ _ _ (fun entry => backupKey entry.1)
    retentionCount backups (path, ⟨true, some source⟩)
  constructor
  · rintro ⟨-, fresh⟩
    exact (parts.mpr member).resolve_left fresh
  · intro kept
    exact ⟨new, fun expires => Retention.disjoint_of_nodup distinct expires kept⟩

theorem createBackup_kept_iff
    (made : createBackup host directory source retentionCount schemaVersion reason now id =
      (.ok path, after)) :
    BackupKept source retentionCount directory after path ↔
      RanksNew retentionCount directory path := by
  obtain ⟨allowed, named, enforced⟩ := createBackup_ok made
  obtain ⟨backups, listed, remains⟩ := enforceRetention_ok enforced
  rw [← stored_iff allowed named listed remains]
  refine ⟨fun kept => kept.stored, fun stored => ⟨stored, ?_, ?_⟩⟩
  · rw [(remaining_perm listed remains).length_eq]
    exact Retention.length_retained_le backups
  · intro removed there gone kept stays backup
    -- whatever stood under the name, retention has removed it
    obtain ⟨entry, inside, isOne⟩ : ∃ entry,
        (removed, entry) ∈ (renamedTo directory path source).rows ∧
          isBackup (removed, entry) = true := by
      by_cases new : removed = path
      · refine ⟨⟨true, some source⟩, mem_renamedTo.mpr (Or.inl ⟨new, rfl⟩), ?_⟩
        rw [new, named]
        exact isBackup_new allowed (some source)
      · obtain ⟨entry, before, isOne⟩ := there.resolve_left new
        refine ⟨entry, mem_renamedTo.mpr (Or.inr ⟨new, ?_, before⟩), isOne⟩
        rintro rfl
        rw [isBackup_temporary] at isOne
        cases isOne
    have expires : (removed, entry) ∈
        Retention.expired (fun entry => backupKey entry.1) retentionCount backups := by
      by_contra fresh
      have left := (remains (removed, entry)).mpr ⟨inside, fresh⟩
      rw [Table.mem_rows_iff, gone] at left
      cases left
    have retained := (remaining_perm listed remains).mem_iff.mp
      (List.mem_filter.mpr ⟨stays, backup⟩)
    have ordered := Retention.expired_le_retained expires retained
    rcases Prod.Lex.le_iff.mp ordered with less | ⟨same, -⟩
    · exact le_of_lt less
    · exact le_of_eq same

/-- A new backup that does not rank is removed again. -/
theorem missing_of_not_ranks
    (made : createBackup host directory source retentionCount schemaVersion reason now id =
      (.ok path, after))
    (outranked : ¬RanksNew retentionCount directory path) : after.get path = none := by
  obtain ⟨allowed, named, enforced⟩ := createBackup_ok made
  obtain ⟨backups, listed, remains⟩ := enforceRetention_ok enforced
  have gone := mt (stored_iff allowed named listed remains).mp outranked
  cases found : after.get path with
  | none => rfl
  | some entry =>
      have stored := ((remains (path, entry)).mp ((Table.mem_rows_iff ..).mpr found)).1
      rcases mem_renamedTo.mp stored with ⟨-, rfl⟩ | ⟨other, -⟩
      · exact absurd found gone
      · exact absurd rfl other

theorem prepareRestore_ok {host : RestoreHost δ} {databaseUrl : String} {database : δ}
    (prepared : prepareRestore host databaseUrl directory database retentionCount now id =
      (.ok path, after)) :
    createBackup host.backup directory database retentionCount (host.schemaVersion.getD 0)
      "pre-restore" now id = (.ok path, after) := by
  unfold prepareRestore at prepared
  split at prepared
  case isTrue => cases prepared
  case isFalse =>
    split at prepared
    case h_1 => cases prepared
    case h_2 =>
      split at prepared
      case isTrue => cases prepared
      case isFalse =>
        split at prepared
        case h_1 => cases prepared
        case h_2 schemaVersion read =>
          split at prepared
          case h_1 => cases prepared
          case h_2 recovery reached made =>
            cases prepared
            rw [read, Option.getD_some]
            exact made

/-- Nothing is written to the backups once the copy over the database begins. -/
theorem restoreDatabase_directory {host : RestoreHost δ} {databaseUrl : String} {database : δ}
    (prepared : prepareRestore host databaseUrl directory database retentionCount now id =
      (.ok path, after)) (replacement : δ) :
    (restoreDatabase host databaseUrl directory replacement database retentionCount now id).2.1 =
      after := by
  simp only [restoreDatabase, prepared]
  split <;> rfl

end Kept

section Pruned

variable {host : BackupHost δ} {directory : Directory δ} {name : FileName} {entry : DirEntry δ}

/-- At least `count` of the backups there are sort no earlier than this name. -/
def Superseded (count : Nat) (directory : Directory δ) (name : FileName) : Prop :=
  count ≤ (directory.rows.filter
    (fun entry => isBackup entry && !decide (backupKey entry.1 < backupKey name))).length

instance (count : Nat) (directory : Directory δ) (name : FileName) :
    Decidable (Superseded count directory name) :=
  inferInstanceAs (Decidable (_ ≤ _))

/-- Every backup of `before` still stands, or the database was copied to its name, or later
ones have replaced it. -/
def Prunes (source : δ) (count : Nat) (before after : Directory δ) : Prop :=
  ∀ name entry, before.get name = some entry → isBackup (name, entry) = true →
    after.get name = some entry ∨ after.get name = some ⟨true, some source⟩ ∨
      Superseded count after name

theorem isBackup_rewritten (backup : isBackup (name, entry) = true) (data : Option δ) :
    isBackup (name, (⟨true, data⟩ : DirEntry δ)) = true := by
  simp only [isBackup, Bool.and_eq_true] at backup ⊢
  exact ⟨⟨trivial, backup.1.2⟩, backup.2⟩

theorem superseded_of_backups {count : Nat} {names : List FileName} (distinct : names.Nodup)
    (many : count ≤ names.length)
    (stand : ∀ other ∈ names, ∃ entry, (other, entry) ∈ directory.rows ∧
      isBackup (other, entry) = true ∧ backupKey name ≤ backupKey other) :
    Superseded count directory name := by
  have inside : names ⊆ (directory.rows.filter (fun entry => isBackup entry &&
      !decide (backupKey entry.1 < backupKey name))).map Prod.fst := by
    intro other member
    obtain ⟨entry, stored, backup, above⟩ := stand other member
    refine List.mem_map.mpr ⟨(other, entry), List.mem_filter.mpr ⟨stored, ?_⟩, rfl⟩
    rw [backup, decide_eq_false (not_lt.mpr above)]
    rfl
  have fewer := (List.subperm_of_subset distinct inside).length_le
  rw [List.length_map] at fewer
  exact many.trans fewer

theorem Superseded.backups {count : Nat} (superseded : Superseded count directory name) :
    ∃ names : List FileName, names.Nodup ∧ count ≤ names.length ∧
      ∀ other ∈ names, ∃ entry, (other, entry) ∈ directory.rows ∧
        isBackup (other, entry) = true ∧ backupKey name ≤ backupKey other := by
  refine ⟨(directory.rows.filter (fun entry => isBackup entry &&
    !decide (backupKey entry.1 < backupKey name))).map Prod.fst, ?_, ?_, ?_⟩
  · exact directory.unique.sublist (List.filter_sublist.map Prod.fst)
  · rw [List.length_map]
    exact superseded
  · intro other member
    obtain ⟨⟨same, entry⟩, there, rfl⟩ := List.mem_map.mp member
    obtain ⟨stored, kept⟩ := List.mem_filter.mp there
    simp only [Bool.and_eq_true, Bool.not_eq_true', decide_eq_false_iff_not, not_lt] at kept
    exact ⟨entry, stored, kept⟩

theorem Prunes.refl (source : δ) (count : Nat) (directory : Directory δ) :
    Prunes source count directory directory :=
  fun _ _ stored _ => Or.inl stored

/-- What has replaced a backup is replaced by later ones only. -/
theorem Superseded.prune {source : δ} {count : Nat} {before after : Directory δ}
    (superseded : Superseded count before name) (pruned : Prunes source count before after) :
    Superseded count after name := by
  obtain ⟨names, distinct, many, stand⟩ := superseded.backups
  by_cases gone : ∃ other ∈ names, Superseded count after other
  · obtain ⟨other, member, replaced⟩ := gone
    obtain ⟨_, -, -, above⟩ := stand other member
    obtain ⟨later, apart, enough, there⟩ := replaced.backups
    refine superseded_of_backups apart enough ?_
    intro last inside
    obtain ⟨entry, stored, backup, higher⟩ := there last inside
    exact ⟨entry, stored, backup, above.trans higher⟩
  · refine superseded_of_backups distinct many ?_
    intro other member
    obtain ⟨entry, stored, backup, above⟩ := stand other member
    rcases pruned other entry ((Table.mem_rows_iff ..).mp stored) backup with
      same | copied | replaced
    · exact ⟨entry, (Table.mem_rows_iff ..).mpr same, backup, above⟩
    · exact ⟨_, (Table.mem_rows_iff ..).mpr copied, isBackup_rewritten backup _, above⟩
    · exact absurd ⟨other, member, replaced⟩ gone

theorem Prunes.trans {source : δ} {count : Nat} {first second third : Directory δ}
    (left : Prunes source count first second) (right : Prunes source count second third) :
    Prunes source count first third := by
  intro name entry stored backup
  rcases left name entry stored backup with same | copied | replaced
  · exact right name entry same backup
  · rcases right name _ copied (isBackup_rewritten backup _) with still | again | later
    · exact Or.inr (Or.inl still)
    · exact Or.inr (Or.inl again)
    · exact Or.inr (Or.inr later)
  · exact Or.inr (Or.inr (replaced.prune right))

theorem Prunes.fewer {source : δ} {few many : Nat} {before after : Directory δ} (less : few ≤ many)
    (pruned : Prunes source many before after) : Prunes source few before after :=
  fun name entry stored backup =>
    (pruned name entry stored backup).imp_right (Or.imp_right less.trans)

/-- A removal spares every other name, however far it comes. -/
theorem removeFiles_spares {entries : List (FileName × DirEntry δ)} :
    ∀ {directory : Directory δ}, name ∉ entries.map Prod.fst →
      (removeFiles host directory entries).2.get name = directory.get name := by
  induction entries with
  | nil => exact fun _ => rfl
  | cons first rest ih =>
      intro directory apart
      rw [List.map_cons, List.mem_cons, not_or] at apart
      unfold removeFiles
      split
      case isFalse => rfl
      case isTrue => rw [ih apart.2, Table.get_delete_key, if_neg apart.1]

/-- Retention removes a file only where enough later ones remain, even where it fails. -/
theorem enforceRetention_prunes (host : BackupHost δ) (retentionCount : Nat)
    (stored : directory.get name = some entry) :
    (enforceRetention host directory retentionCount).2.get name = some entry ∨
      Superseded retentionCount (enforceRetention host directory retentionCount).2 name := by
  unfold enforceRetention
  split
  case h_1 => exact Or.inl stored
  case h_2 listed read =>
    have perm := (host.readDir_perm _ _ read).filter isBackup
    have distinct : (listed.filter isBackup).Nodup :=
      perm.nodup_iff.mpr ((rows_nodup directory).filter _)
    have known : ∀ other ∈ listed.filter isBackup,
        other ∈ directory.rows ∧ isBackup other = true :=
      fun other member => List.mem_filter.mp (perm.mem_iff.mp member)
    generalize listed.filter isBackup = backups at perm distinct known
    have spared : ∀ other ∈ directory.rows,
        other ∉ Retention.expired (fun entry => backupKey entry.1) retentionCount backups →
        (removeFiles host directory (Retention.expired (fun entry => backupKey entry.1)
          retentionCount backups)).2.get other.1 = some other.2 := by
      intro other there fresh
      rw [removeFiles_spares, ← Table.mem_rows_iff]
      · exact there
      · intro removed
        obtain ⟨same, expires, equal⟩ := List.mem_map.mp removed
        have inside := known same (Retention.mem_expired_or_retained.mp (Or.inl expires))
        exact fresh (entry_unique inside.1 there equal ▸ expires)
    by_cases expires : (name, entry) ∈
        Retention.expired (fun entry => backupKey entry.1) retentionCount backups
    · have within : ∀ other ∈ Retention.retained (fun entry => backupKey entry.1)
          retentionCount backups, other ∈ directory.rows :=
        fun other stays => (known other
          (Retention.mem_expired_or_retained.mp (Or.inr stays))).1
      have names : ((Retention.retained (fun entry => backupKey entry.1) retentionCount
          backups).map Prod.fst).Nodup := by
        refine (Retention.nodup_retained distinct).map_on ?_
        intro first left second right same
        exact entry_unique (within first left) (within second right) same
      refine Or.inr (superseded_of_backups names ?_ ?_)
      · rw [List.length_map, Retention.length_retained expires]
      · intro other member
        obtain ⟨kept, stays, rfl⟩ := List.mem_map.mp member
        have inside := known kept (Retention.mem_expired_or_retained.mp (Or.inr stays))
        have found := spared kept inside.1
          (fun both => Retention.disjoint_of_nodup distinct both stays)
        have later := Retention.expired_le_retained expires stays
        exact ⟨kept.2, (Table.mem_rows_iff ..).mpr found, inside.2, later⟩
    · exact Or.inl (spared (name, entry) ((Table.mem_rows_iff ..).mpr stored) expires)

/-- However a backup ends, an earlier one is removed only where enough later ones remain. -/
theorem createBackup_prunes (host : BackupHost δ) (directory : Directory δ) (source : δ)
    (retentionCount : Nat) (schemaVersion : Int) (reason : String) (now : Int) (id : Uuid) :
    Prunes source retentionCount directory
      (createBackup host directory source retentionCount schemaVersion reason now id).2 := by
  intro name entry stored backup
  have lasting : ∀ path, name ≠ withExtension path "sqlite3.partial" := by
    rintro path rfl
    rw [isBackup_temporary] at backup
    cases backup
  unfold createBackup
  split
  case isTrue => exact Or.inl stored
  case isFalse =>
    split
    case isTrue => exact Or.inl stored
    case isFalse =>
      simp only
      split
      case isTrue => exact Or.inl stored
      case isFalse =>
        split
        case h_1 =>
          refine Or.inl ?_
          simp only
          split
          · rw [Table.get_delete_key, if_neg (lasting _), Table.get_put_of_ne _ _ (lasting _),
              stored]
          · rw [Table.get_put_of_ne _ _ (lasting _), stored]
        case h_2 =>
          split
          case isTrue => exact Or.inl ((Table.get_put_of_ne _ _ (lasting _)).trans stored)
          case isFalse =>
            generalize new : Hex.utf8 (backupFilename schemaVersion reason now id) = path
            have renamed : (renamedTo directory path source).get name =
                if name = path then some ⟨true, some source⟩ else some entry := by
              rw [renamedTo, Table.get_put, Table.get_delete_key, if_neg (lasting _), stored]
            have enforced : ∀ outcome, enforceRetention host (renamedTo directory path source)
                retentionCount = outcome → outcome.2.get name = some entry ∨
                  outcome.2.get name = some ⟨true, some source⟩ ∨
                  Superseded retentionCount outcome.2 name := by
              rintro outcome rfl
              by_cases own : name = path
              · rw [if_pos own] at renamed
                exact Or.inr (enforceRetention_prunes host retentionCount renamed)
              · rw [if_neg own] at renamed
                exact (enforceRetention_prunes host retentionCount renamed).imp_right Or.inr
            split
            case h_1 failure after same => exact enforced _ same
            case h_2 after same => exact enforced _ same

end Pruned

/-- The clock has not been set back: the new backup is retained. -/
theorem ranks_of_latest {directory : Directory δ} {retentionCount : Nat}
    (positive : 0 < retentionCount) {schemaVersion now : Int} {reason : String}
    (allowed : reasonAllowed reason = true) {id : Uuid}
    (fits : now.natAbs < 2 ^ 63)
    (latest : ∀ entry ∈ directory.rows, isBackup entry = true →
      backupStamp entry.1 < now.natAbs) :
    RanksNew retentionCount directory (Hex.utf8 (backupFilename schemaVersion reason now id)) := by
  have none_above : directory.rows.filter (fun entry => isBackup entry &&
      backupKey (Hex.utf8 (backupFilename schemaVersion reason now id)) < backupKey entry.1) =
      [] := by
    rw [List.filter_eq_nil_iff]
    intro entry stored above
    simp only [Bool.and_eq_true, decide_eq_true_eq] at above
    have earlier := latest entry stored above.1
    have stamps : backupStamp (Hex.utf8 (backupFilename schemaVersion reason now id)) ≤
        backupStamp entry.1 := by
      have order := Prod.Lex.lt_iff.mp above.2
      rw [backupKey_stamp, backupKey_stamp] at order
      exact order.elim le_of_lt (fun tied => le_of_eq tied.1)
    rw [backupStamp_filename allowed, if_pos fits] at stamps
    omega
  rw [RanksNew, none_above]
  exact positive

/-- A backup that is reported made is there exactly where it ranks among those retained. -/
theorem backup_kept_iff (directory after : Directory δ) (retentionCount : Nat) (now : Int)
    (id : Uuid) (path : FileName) :
    (∀ host source schemaVersion reason,
      createBackup host directory source retentionCount schemaVersion reason now id =
        (.ok path, after) →
      (BackupKept source retentionCount directory after path ↔
        RanksNew retentionCount directory
          (Hex.utf8 (backupFilename schemaVersion reason now id)))) ∧
    ∀ host databaseUrl source database,
      prepareRestore host databaseUrl directory database retentionCount now id =
        (.ok path, after) →
      (restoreDatabase host databaseUrl directory source database retentionCount now id).2.1 =
          after ∧
        (after.get path = some ⟨true, some database⟩ ↔
          RanksNew retentionCount directory
            (Hex.utf8 (backupFilename (host.schemaVersion.getD 0) "pre-restore" now id))) := by
  constructor
  · intro host source schemaVersion reason made
    rw [← (createBackup_ok made).2.1]
    exact createBackup_kept_iff made
  · intro host databaseUrl source database prepared
    refine ⟨restoreDatabase_directory prepared source, ?_⟩
    have made := prepareRestore_ok prepared
    obtain ⟨allowed, named, enforced⟩ := createBackup_ok made
    obtain ⟨backups, listed, remains⟩ := enforceRetention_ok enforced
    rw [← named]
    exact stored_iff allowed named listed remains

end Backup

section Ready

/-! A system on which every call succeeds. -/

def readyHost : BackupHost String where
  createDirAll := true
  opensTemporary := true
  copies := .ok ()
  renames := true
  readDir := some
  removes _ := true
  readDir_perm := by
    rintro entries listed ⟨⟩
    exact List.Perm.refl _

def readyRestore : RestoreHost String where
  opensSource := true
  sourceIntact := true
  createsParent := true
  opensDatabase := true
  journals := true
  schemaVersion := some 2
  backup := readyHost
  copiesBack source _ := (.ok (), source)

theorem removeFiles_ready (directory : Directory String)
    (entries : List (FileName × DirEntry String)) :
    ∃ after, removeFiles readyHost directory entries = (.ok (), after) := by
  induction entries generalizing directory with
  | nil => exact ⟨directory, rfl⟩
  | cons entry rest ih => exact ih (directory.delete (fun name _ => name = entry.1))

theorem createBackup_ready (directory : Directory String) (source : String) {retentionCount : Nat}
    (positive : retentionCount ≠ 0) (schemaVersion now : Int) {reason : String}
    (allowed : reasonAllowed reason = true) (id : Uuid) :
    ∃ after, createBackup readyHost directory source retentionCount schemaVersion reason now id =
      (.ok (Hex.utf8 (backupFilename schemaVersion reason now id)), after) := by
  obtain ⟨after, removed⟩ := removeFiles_ready
    (renamedTo directory (Hex.utf8 (backupFilename schemaVersion reason now id)) source)
    (Retention.expired (fun entry => backupKey entry.1) retentionCount
      ((renamedTo directory (Hex.utf8 (backupFilename schemaVersion reason now id))
        source).rows.filter isBackup))
  have enforced : enforceRetention readyHost
      (renamedTo directory (Hex.utf8 (backupFilename schemaVersion reason now id)) source)
      retentionCount = (.ok (), after) := removed
  have starts : ¬(retentionCount = 0 ∨ reasonAllowed reason = false) := by
    rw [allowed]
    simp [positive]
  refine ⟨after, ?_⟩
  have made : readyHost.createDirAll = true ∧ readyHost.opensTemporary = true ∧
      readyHost.copies = .ok () ∧ readyHost.renames = true := ⟨rfl, rfl, rfl, rfl⟩
  rw [renamedTo] at enforced
  simp only [createBackup, if_neg starts, made, Bool.true_eq_false, ↓reduceIte, enforced]

theorem prepareRestore_ready {directory after : Directory String} {database : String}
    {retentionCount : Nat} {now : Int} {id : Uuid} {path : FileName}
    (made : createBackup readyHost directory database retentionCount 2 "pre-restore" now id =
      (.ok path, after)) :
    prepareRestore readyRestore "sqlite://server.sqlite3" directory database retentionCount now
      id = (.ok path, after) := by
  have location : sqlitePath "sqlite://server.sqlite3" = .ok "server.sqlite3".toList := by decide
  have onDisk : "server.sqlite3".toList ≠ ":memory:".toList := by decide
  have ready : readyRestore.opensSource = true ∧ readyRestore.sourceIntact = true ∧
      readyRestore.createsParent = true ∧ readyRestore.opensDatabase = true ∧
      readyRestore.journals = true ∧ readyRestore.schemaVersion = some 2 ∧
      readyRestore.backup = readyHost := ⟨rfl, rfl, rfl, rfl, rfl, rfl, rfl⟩
  simp only [prepareRestore, ready, location, onDisk, made, Bool.true_eq_false, or_self, ↓reduceIte]

theorem reasons_allowed : reasonAllowed "manual" = true ∧ reasonAllowed "pre-restore" = true := by
  decide

/-- A backup of a time the clock has been set back from. -/
def steppedName : FileName :=
  Hex.utf8 (backupFilename 2 "manual" 2 ⟨List.replicate 16 1, by decide⟩)

def steppedDirectory : Directory String :=
  Table.empty.put steppedName ⟨true, some "earlier"⟩

def newId : Uuid := ⟨List.replicate 16 2, by decide⟩

theorem stepped_outranks {reason : String} (allowed : reasonAllowed reason = true) (id : Uuid) :
    ¬RanksNew 1 steppedDirectory (Hex.utf8 (backupFilename 2 reason 1 id)) := by
  have manual : reasonAllowed "manual" = true := by decide
  have later : backupKey (Hex.utf8 (backupFilename 2 reason 1 id)) < backupKey steppedName := by
    rw [Prod.Lex.lt_iff, backupKey_stamp, backupKey_stamp, steppedName,
      backupStamp_filename allowed, backupStamp_filename manual]
    exact Or.inl (by decide)
  have backup : isBackup (steppedName, (⟨true, some "earlier"⟩ : DirEntry String)) = true :=
    isBackup_new manual _
  have rows : steppedDirectory.rows = [(steppedName, ⟨true, some "earlier"⟩)] := rfl
  rw [RanksNew, rows, List.filter_cons_of_pos (by rw [backup, decide_eq_true later]; rfl)]
  exact lt_irrefl 1

/-- The new backup is removed, and reported made all the same. -/
theorem stepped_clock_loses_backup :
    (∃ after, createBackup readyHost steppedDirectory "current" 1 2 "manual" 1 newId =
        (.ok (Hex.utf8 (backupFilename 2 "manual" 1 newId)), after) ∧
      after.get (Hex.utf8 (backupFilename 2 "manual" 1 newId)) = none) ∧
    ∃ after, restoreDatabase readyRestore "sqlite://server.sqlite3" steppedDirectory "restored"
        "current" 1 1 newId =
        (.ok (Hex.utf8 (backupFilename 2 "pre-restore" 1 newId)), after, "restored") ∧
      after.get (Hex.utf8 (backupFilename 2 "pre-restore" 1 newId)) = none := by
  constructor
  · obtain ⟨after, made⟩ := createBackup_ready steppedDirectory "current" Nat.one_ne_zero 2 1
      reasons_allowed.1 newId
    exact ⟨after, made, missing_of_not_ranks made (stepped_outranks reasons_allowed.1 newId)⟩
  · obtain ⟨after, made⟩ := createBackup_ready steppedDirectory "current" Nat.one_ne_zero 2 1
      reasons_allowed.2 newId
    refine ⟨after, ?_, missing_of_not_ranks made (stepped_outranks reasons_allowed.2 newId)⟩
    rw [restoreDatabase, prepareRestore_ready made]
    rfl

/-- The clock has not been set back, and the older backup makes room. -/
theorem backup_kept_latest :
    ∃ after, BackupKept "current" 1 steppedDirectory after
        (Hex.utf8 (backupFilename 2 "pre-restore" 3 newId)) ∧
      restoreDatabase readyRestore "sqlite://server.sqlite3" steppedDirectory "restored" "current"
        1 3 newId =
          (.ok (Hex.utf8 (backupFilename 2 "pre-restore" 3 newId)), after, "restored") ∧
      after.get (Hex.utf8 (backupFilename 2 "pre-restore" 3 newId)) =
        some ⟨true, some "current"⟩ ∧
      after.get steppedName = none := by
  obtain ⟨after, made⟩ := createBackup_ready steppedDirectory "current" Nat.one_ne_zero 2 3
    reasons_allowed.2 newId
  have ranks : RanksNew 1 steppedDirectory (Hex.utf8 (backupFilename 2 "pre-restore" 3 newId)) := by
    refine ranks_of_latest Nat.one_pos reasons_allowed.2 (by decide) ?_
    intro entry stored _
    have only : entry = (steppedName, ⟨true, some "earlier"⟩) := List.mem_singleton.mp stored
    rw [only, steppedName, backupStamp_filename reasons_allowed.1]
    decide
  have settled := backup_kept_iff steppedDirectory after 1 3 newId
    (Hex.utf8 (backupFilename 2 "pre-restore" 3 newId))
  have kept := (settled.1 readyHost "current" 2 "pre-restore" made).mpr ranks
  have recovery := settled.2 readyRestore "sqlite://server.sqlite3" "restored" "current"
    (prepareRestore_ready made)
  have removed : (createBackup readyHost steppedDirectory "current" 1 2 "pre-restore" 3
      newId).2.get steppedName = none := by
    decide +kernel
  rw [made] at removed
  refine ⟨after, kept, ?_, recovery.2.mpr ranks, removed⟩
  rw [restoreDatabase, prepareRestore_ready made]
  rfl

end Ready

end Lvos.Server
