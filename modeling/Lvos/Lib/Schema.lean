import Lvos.Lib.Table
import Mathlib.Data.List.Forall2

set_option autoImplicit false

namespace Schema

open Relational (Table)

/-! The catalogue of a relational database, and the statements that change it. -/

inductive Value
  | null
  | integer (value : Int)
  | text (value : String)
  | blob (bytes : List UInt8)
deriving DecidableEq, Repr

/-- A column, and the cell that a row without it is given. -/
structure Column where
  name : String
  defaultsTo : Value
deriving DecidableEq, Repr

/-- A column without a default. -/
def Column.plain (name : String) : Column := ⟨name, .null⟩

/-- The order in which a query returns values. -/
def Value.sortsBefore : Value → Value → Bool
  | .null, _ => true
  | .integer _, .null => false
  | .integer first, .integer second => first ≤ second
  | .integer _, _ => true
  | .text first, .text second =>
      !second.toList.lex first.toList (fun low high => low.toNat < high.toNat)
  | .text _, .blob _ => true
  | .text _, _ => false
  | .blob first, .blob second => !second.lex first (fun low high => low.toNat < high.toNat)
  | .blob _, _ => false

/-- An entry of the catalogue with the name it was created under; a row has a cell for
each column. -/
inductive Object
  | table (name : String) (columns : List Column) (rows : List (List Value))
  | view (name : String)
  | index (name table : String)
deriving DecidableEq, Repr

/-- Names are the same up to the case of their letters. -/
def folded (name : String) : List Char := name.toList.map Char.toLower

/-- The objects under their folded names. -/
abbrev Catalogue := Table (List Char) Object

inductive Statement
  | createTable (ifNotExists : Bool) (name : String) (columns : List Column)
  | createIndex (ifNotExists : Bool) (name table : String) (columns : List String)
  | addColumn (table : String) (column : Column)
deriving DecidableEq, Repr

def hasColumn (columns : List Column) (name : String) : Bool :=
  columns.any (fun column => folded column.name = folded name)

/-- The catalogue after a statement; none where the statement fails. -/
def execute (catalogue : Catalogue) : Statement → Option Catalogue
  | .createTable ifNotExists name columns =>
      match catalogue.get (folded name) with
      | none => some (catalogue.put (folded name) (.table name columns []))
      | some (.index _ _) => none
      | some _ => if ifNotExists then some catalogue else none
  | .createIndex ifNotExists name table columns =>
      match catalogue.get (folded table) with
      | some (.table _ present _) =>
          match catalogue.get (folded name) with
          | none =>
              if columns.all (hasColumn present) then
                some (catalogue.put (folded name) (.index name table))
              else none
          | some (.index _ _) => if ifNotExists then some catalogue else none
          | some _ => none
      | _ => none
  | .addColumn table column =>
      match catalogue.get (folded table) with
      | some (.table name present rows) =>
          if hasColumn present column.name then none
          else some (catalogue.put (folded table)
            (.table name (present ++ [column]) (rows.map (· ++ [column.defaultsTo]))))
      | _ => none

/-- The statements of a script one after another. -/
def executeBatch : Catalogue → List Statement → Option Catalogue
  | catalogue, [] => some catalogue
  | catalogue, statement :: rest =>
      (execute catalogue statement).bind (fun next => executeBatch next rest)

/-- The cell of an inserted row under a column. -/
def cellOf (cells : List (String × Value)) (column : Column) : Value :=
  ((cells.find? (fun cell => folded cell.1 = folded column.name)).map Prod.snd).getD
    column.defaultsTo

/-- `INSERT INTO table(…) VALUES(…)`. -/
def insert (catalogue : Catalogue) (table : String) (cells : List (String × Value)) :
    Option Catalogue :=
  match catalogue.get (folded table) with
  | some (.table name columns rows) =>
      if cells.all (fun cell => hasColumn columns cell.1) then
        some (catalogue.put (folded table)
          (.table name columns (rows ++ [columns.map (cellOf cells)])))
      else none
  | _ => none

/-- The cell of a row under a name. -/
def cellAt (columns : List Column) (row : List Value) (name : String) : Value :=
  (((columns.zip row).find? (fun cell => folded cell.1.name = folded name)).map Prod.snd).getD
    .null

/-- `SELECT … FROM table`, in the order of insertion. -/
def select (catalogue : Catalogue) (table : String) (names : List String) :
    Option (List (List Value)) :=
  match catalogue.get (folded table) with
  | some (.table _ columns rows) =>
      if names.all (hasColumn columns) then
        some (rows.map (fun row => names.map (cellAt columns row)))
      else none
  | _ => none

section Growth

/-- Rows and cells are added to a table; what stands in it stays where it is. -/
inductive Object.Grows : Object → Object → Prop
  | table {name : String} {columns further : List Column} {rows later : List (List Value)}
      (widened : columns <+: further)
      (kept : ∀ (place : Nat) (row : List Value), rows[place]? = some row →
        ∃ wider, later[place]? = some wider ∧ row <+: wider) :
      Object.Grows (.table name columns rows) (.table name further later)
  | view {name : String} : Object.Grows (.view name) (.view name)
  | index {name table : String} : Object.Grows (.index name table) (.index name table)

def Grows (before after : Catalogue) : Prop :=
  ∀ key object, before.get key = some object →
    ∃ grown, after.get key = some grown ∧ object.Grows grown

theorem Object.Grows.refl (object : Object) : object.Grows object := by
  cases object with
  | table name columns rows =>
      exact .table (List.prefix_refl columns) (fun _ row found => ⟨row, found, List.prefix_refl row⟩)
  | view name => exact .view
  | index name table => exact .index

theorem Object.Grows.trans {first second third : Object} (left : first.Grows second)
    (right : second.Grows third) : first.Grows third := by
  cases left with
  | view => exact right
  | index => exact right
  | table widened kept =>
      cases right with
      | table further later =>
          refine .table (widened.trans further) ?_
          intro place row found
          obtain ⟨wider, reached, within⟩ := kept place row found
          obtain ⟨widest, stands, beyond⟩ := later place wider reached
          exact ⟨widest, stands, within.trans beyond⟩

theorem Grows.refl (catalogue : Catalogue) : Grows catalogue catalogue :=
  fun _ object found => ⟨object, found, Object.Grows.refl object⟩

theorem Grows.trans {first second third : Catalogue} (left : Grows first second)
    (right : Grows second third) : Grows first third := by
  intro key object found
  obtain ⟨grown, reached, within⟩ := left key object found
  obtain ⟨last, stands, beyond⟩ := right key grown reached
  exact ⟨last, stands, within.trans beyond⟩

/-- An object that is put where none stands, or that grows from the one that stands there. -/
theorem Grows.put {catalogue : Catalogue} {key : List Char} {object : Object}
    (grown : ∀ before, catalogue.get key = some before → before.Grows object) :
    Grows catalogue (catalogue.put key object) := by
  intro other before found
  rw [Table.get_put]
  by_cases same : other = key
  · subst same
    exact ⟨object, if_pos rfl, grown before found⟩
  · exact ⟨before, by rw [if_neg same, found], Object.Grows.refl before⟩

theorem Object.Grows.append {name : String} {columns : List Column} {rows : List (List Value)}
    (added : List (List Value)) :
    (Object.table name columns rows).Grows (.table name columns (rows ++ added)) := by
  refine .table (List.prefix_refl columns) ?_
  intro place row found
  have inside : place < rows.length := (List.getElem?_eq_some_iff.mp found).1
  exact ⟨row, by rw [List.getElem?_append_left inside, found], List.prefix_refl row⟩

theorem Object.Grows.widen {name : String} {columns : List Column} {rows : List (List Value)}
    (column : Column) :
    (Object.table name columns rows).Grows
      (.table name (columns ++ [column]) (rows.map (· ++ [column.defaultsTo]))) := by
  refine .table (List.prefix_append columns [column]) ?_
  intro place row found
  exact ⟨row ++ [column.defaultsTo], by rw [List.getElem?_map, found, Option.map_some],
    List.prefix_append row [column.defaultsTo]⟩

theorem execute_grows {catalogue after : Catalogue} {statement : Statement}
    (executed : execute catalogue statement = some after) : Grows catalogue after := by
  cases statement with
  | createTable ifNotExists name columns =>
      simp only [execute] at executed
      split at executed
      case h_1 absent =>
        cases executed
        exact Grows.put (fun before found => by rw [absent] at found; cases found)
      case h_2 => cases executed
      case h_3 =>
        split at executed
        · cases executed
          exact Grows.refl catalogue
        · cases executed
  | createIndex ifNotExists name table columns =>
      simp only [execute] at executed
      split at executed
      case h_2 => cases executed
      case h_1 =>
        split at executed
        case h_1 absent =>
          split at executed
          · cases executed
            exact Grows.put (fun before found => by rw [absent] at found; cases found)
          · cases executed
        case h_2 =>
          split at executed
          · cases executed
            exact Grows.refl catalogue
          · cases executed
        case h_3 => cases executed
  | addColumn table column =>
      simp only [execute] at executed
      split at executed
      case h_2 => cases executed
      case h_1 name present rows standing =>
        split at executed
        · cases executed
        · cases executed
          refine Grows.put ?_
          intro before found
          rw [standing] at found
          cases found
          exact Object.Grows.widen column

theorem executeBatch_grows {statements : List Statement} :
    ∀ {catalogue after : Catalogue}, executeBatch catalogue statements = some after →
      Grows catalogue after := by
  induction statements with
  | nil =>
      intro catalogue after executed
      cases executed
      exact Grows.refl catalogue
  | cons statement rest ih =>
      intro catalogue after executed
      obtain ⟨next, first, later⟩ := Option.bind_eq_some_iff.mp executed
      exact (execute_grows first).trans (ih later)

theorem insert_ok {catalogue after : Catalogue} {table : String} {cells : List (String × Value)}
    (inserted : insert catalogue table cells = some after) :
    ∃ name columns rows, catalogue.get (folded table) = some (.table name columns rows) ∧
      cells.all (fun cell => hasColumn columns cell.1) = true ∧
      after = catalogue.put (folded table)
        (.table name columns (rows ++ [columns.map (cellOf cells)])) := by
  unfold insert at inserted
  split at inserted
  case h_2 => cases inserted
  case h_1 name columns rows standing =>
    split at inserted
    case isTrue known =>
      cases inserted
      exact ⟨name, columns, rows, standing, known, rfl⟩
    case isFalse => cases inserted

theorem insert_grows {catalogue after : Catalogue} {table : String}
    {cells : List (String × Value)} (inserted : insert catalogue table cells = some after) :
    Grows catalogue after := by
  obtain ⟨name, columns, rows, standing, -, rfl⟩ := insert_ok inserted
  refine Grows.put ?_
  intro before found
  rw [standing] at found
  cases found
  exact Object.Grows.append _

end Growth

section Frame

/-- What a statement may write that stands already: the table it adds a column to. -/
def Statement.widens (statement : Statement) (key : List Char) : Bool :=
  match statement with
  | .addColumn table _ => folded table = key
  | _ => false

def Statement.creates : Statement → Bool
  | .addColumn _ _ => false
  | _ => true

theorem widens_of_creates {statement : Statement} (creates : statement.creates = true)
    (key : List Char) : statement.widens key = false := by
  cases statement with
  | createTable => rfl
  | createIndex => rfl
  | addColumn => cases creates

theorem get_put_standing {catalogue : Catalogue} {key other : List Char} {object before : Object}
    (found : catalogue.get other = some before)
    (apart : ∀ standing, catalogue.get key = some standing → other ≠ key) :
    (catalogue.put key object).get other = some before := by
  rw [Table.get_put]
  by_cases same : other = key
  · exact absurd same (apart before (same ▸ found))
  · rw [if_neg same, found]

/-- A statement changes no object that stands, but the table it widens. -/
theorem execute_get {catalogue after : Catalogue} {statement : Statement} {key : List Char}
    {object : Object} (executed : execute catalogue statement = some after)
    (spared : statement.widens key = false) (found : catalogue.get key = some object) :
    after.get key = some object := by
  cases statement with
  | createTable ifNotExists name columns =>
      simp only [execute] at executed
      split at executed
      case h_1 absent =>
        cases executed
        exact get_put_standing found (fun standing there => by rw [absent] at there; cases there)
      case h_2 => cases executed
      case h_3 =>
        split at executed
        · cases executed
          exact found
        · cases executed
  | createIndex ifNotExists name table columns =>
      simp only [execute] at executed
      split at executed
      case h_2 => cases executed
      case h_1 =>
        split at executed
        case h_1 absent =>
          split at executed
          · cases executed
            exact get_put_standing found
              (fun standing there => by rw [absent] at there; cases there)
          · cases executed
        case h_2 =>
          split at executed
          · cases executed
            exact found
          · cases executed
        case h_3 => cases executed
  | addColumn table column =>
      simp only [Statement.widens, decide_eq_false_iff_not] at spared
      simp only [execute] at executed
      split at executed
      case h_2 => cases executed
      case h_1 =>
        split at executed
        · cases executed
        · cases executed
          rw [Table.get_put_of_ne _ _ (fun same => spared same.symm), found]

theorem executeBatch_get {statements : List Statement} {key : List Char} {object : Object}
    (spared : ∀ statement ∈ statements, statement.widens key = false) :
    ∀ {catalogue after : Catalogue}, executeBatch catalogue statements = some after →
      catalogue.get key = some object → after.get key = some object := by
  induction statements with
  | nil =>
      intro catalogue after executed found
      cases executed
      exact found
  | cons statement rest ih =>
      intro catalogue after executed found
      obtain ⟨next, first, later⟩ := Option.bind_eq_some_iff.mp executed
      have stays := execute_get first (spared statement List.mem_cons_self) found
      exact ih (fun other member => spared other (List.mem_cons_of_mem _ member)) later stays

theorem insert_get {catalogue after : Catalogue} {table : String} {cells : List (String × Value)}
    {key : List Char} (inserted : insert catalogue table cells = some after)
    (apart : key ≠ folded table) : after.get key = catalogue.get key := by
  obtain ⟨name, columns, rows, -, -, rfl⟩ := insert_ok inserted
  exact Table.get_put_of_ne _ _ apart

end Frame

section Shape

/-! The catalogue without its rows: what decides whether a statement succeeds. -/

def Object.emptied : Object → Object
  | .table name columns _ => .table name columns []
  | .view name => .view name
  | .index name target => .index name target

def shape (catalogue : Catalogue) : Catalogue :=
  catalogue.update (fun _ _ => true) Object.emptied

@[simp] theorem get_shape (catalogue : Catalogue) (key : List Char) :
    (shape catalogue).get key = (catalogue.get key).map Object.emptied := by
  simp [shape, Table.get_update]

@[simp] theorem shape_put (catalogue : Catalogue) (key : List Char) (object : Object) :
    shape (catalogue.put key object) = (shape catalogue).put key object.emptied := by
  apply Table.ext
  simp only [shape, Table.update, Table.put, if_true]
  induction catalogue.rows with
  | nil => rfl
  | cons entry rest ih =>
      by_cases same : entry.1 = key
      · simp [Table.putRows, same]
      · simp [Table.putRows, same, ih]

@[simp] theorem emptied_emptied (object : Object) : object.emptied.emptied = object.emptied := by
  cases object <;> rfl

/-- A statement does to the shape what it does to the catalogue. -/
theorem execute_shape (catalogue : Catalogue) (statement : Statement) :
    (execute catalogue statement).map shape = execute (shape catalogue) statement := by
  cases statement with
  | createTable ifNotExists name columns =>
      simp only [execute, get_shape]
      cases catalogue.get (folded name) with
      | none => simp [Object.emptied]
      | some object =>
          cases object <;> cases ifNotExists <;> simp [Object.emptied]
  | createIndex ifNotExists name table columns =>
      simp only [execute, get_shape]
      cases catalogue.get (folded table) with
      | none => rfl
      | some target =>
          cases target with
          | view => rfl
          | index => rfl
          | table title present rows =>
              simp only [Option.map_some, Object.emptied]
              cases catalogue.get (folded name) with
              | none => split <;> simp_all [Object.emptied]
              | some object =>
                  cases object <;> cases ifNotExists <;> simp [Object.emptied]
  | addColumn table column =>
      simp only [execute, get_shape]
      cases catalogue.get (folded table) with
      | none => rfl
      | some target =>
          cases target with
          | view => rfl
          | index => rfl
          | table title present rows =>
              simp only [Option.map_some, Object.emptied]
              split <;> simp [Object.emptied]

theorem executeBatch_shape (statements : List Statement) :
    ∀ catalogue, (executeBatch catalogue statements).map shape =
      executeBatch (shape catalogue) statements := by
  induction statements with
  | nil => exact fun _ => rfl
  | cons statement rest ih =>
      intro catalogue
      simp only [executeBatch]
      rw [← execute_shape]
      cases execute catalogue statement with
      | none => rfl
      | some next => exact ih next

/-- A script that succeeds on the shape of a catalogue succeeds on the catalogue. -/
theorem executeBatch_of_shape {catalogue skeleton : Catalogue} {statements : List Statement}
    (built : executeBatch (shape catalogue) statements = some skeleton) :
    ∃ after, executeBatch catalogue statements = some after ∧ shape after = skeleton := by
  rw [← executeBatch_shape] at built
  exact Option.map_eq_some_iff.mp built

theorem insert_shaped {catalogue after : Catalogue} {table : String}
    {cells : List (String × Value)} (inserted : insert catalogue table cells = some after) :
    shape after = shape catalogue := by
  obtain ⟨name, columns, rows, standing, -, rfl⟩ := insert_ok inserted
  rw [shape_put]
  exact Table.put_same (by rw [get_shape, standing]; rfl)

theorem executeBatch_append (first second : List Statement) :
    ∀ catalogue, executeBatch catalogue (first ++ second) =
      (executeBatch catalogue first).bind (fun next => executeBatch next second) := by
  induction first with
  | nil => exact fun _ => rfl
  | cons statement rest ih =>
      intro catalogue
      simp only [List.cons_append, executeBatch, Option.bind_assoc]
      exact congrArg _ (funext ih)

end Shape

section Read

theorem cellAt_map (columns : List Column) (cells : Column → Value) {name : String}
    (known : hasColumn columns name = true) :
    ∃ column, folded column.name = folded name ∧
      cellAt columns (columns.map cells) name = cells column := by
  unfold cellAt
  induction columns with
  | nil => cases known
  | cons column rest ih =>
      by_cases same : folded column.name = folded name
      · exact ⟨column, same, by simp [same]⟩
      · have later : hasColumn rest name = true := by
          simpa [hasColumn, same] using known
        obtain ⟨other, named, found⟩ := ih later
        exact ⟨other, named, by simpa [same] using found⟩

/-- The row that was inserted is read back cell by cell. -/
theorem cellAt_inserted {columns : List Column} {cells : List (String × Value)} {name : String}
    {value : Value} (known : hasColumn columns name = true)
    (given : (cells.find? (fun cell => folded cell.1 = folded name)).map Prod.snd = some value) :
    cellAt columns (columns.map (cellOf cells)) name = value := by
  obtain ⟨column, named, found⟩ := cellAt_map columns (cellOf cells) known
  rw [found, cellOf, named, given, Option.getD_some]

theorem select_of_get {first second : Catalogue} {table : String} {names : List String}
    (same : first.get (folded table) = second.get (folded table)) :
    select first table names = select second table names := by
  simp only [select, same]

theorem select_insert {catalogue after : Catalogue} {table : String}
    {cells : List (String × Value)} {names : List String} {read : List (List Value)}
    (inserted : insert catalogue table cells = some after)
    (before : select catalogue table names = some read) :
    ∃ columns, names.all (hasColumn columns) = true ∧
      select after table names =
        some (read ++ [names.map (cellAt columns (columns.map (cellOf cells)))]) := by
  obtain ⟨name, columns, rows, standing, -, rfl⟩ := insert_ok inserted
  simp only [select, standing] at before
  split at before
  case isFalse => cases before
  case isTrue known =>
    cases before
    refine ⟨columns, known, ?_⟩
    simp only [select, Table.get_put_self, known, ↓reduceIte, List.map_append, List.map_cons,
      List.map_nil]

end Read

section WellFormed

/-- Every row has a cell for each column of its table. -/
def WellFormed (catalogue : Catalogue) : Prop :=
  ∀ key name columns rows, catalogue.get key = some (.table name columns rows) →
    ∀ row ∈ rows, row.length = columns.length

theorem WellFormed.empty : WellFormed Table.empty := by
  intro key name columns rows found
  cases found

theorem WellFormed.put {catalogue : Catalogue} (formed : WellFormed catalogue) {key : List Char}
    {object : Object} (fits : ∀ name columns rows, object = .table name columns rows →
      ∀ row ∈ rows, row.length = columns.length) : WellFormed (catalogue.put key object) := by
  intro other name columns rows found
  rw [Table.get_put] at found
  split at found
  · exact fits name columns rows (Option.some.inj found)
  · exact formed other name columns rows found

theorem execute_wellFormed {catalogue after : Catalogue} {statement : Statement}
    (formed : WellFormed catalogue) (executed : execute catalogue statement = some after) :
    WellFormed after := by
  cases statement with
  | createTable ifNotExists name columns =>
      simp only [execute] at executed
      split at executed
      case h_1 =>
        cases executed
        refine formed.put ?_
        rintro _ _ _ ⟨⟩ row member
        cases member
      case h_2 => cases executed
      case h_3 =>
        split at executed
        · cases executed
          exact formed
        · cases executed
  | createIndex ifNotExists name table columns =>
      simp only [execute] at executed
      split at executed
      case h_2 => cases executed
      case h_1 =>
        split at executed
        case h_1 =>
          split at executed
          · cases executed
            exact formed.put (by rintro _ _ _ ⟨⟩)
          · cases executed
        case h_2 =>
          split at executed
          · cases executed
            exact formed
          · cases executed
        case h_3 => cases executed
  | addColumn table column =>
      simp only [execute] at executed
      split at executed
      case h_2 => cases executed
      case h_1 name present rows standing =>
        split at executed
        · cases executed
        · cases executed
          refine formed.put ?_
          rintro _ _ _ ⟨⟩ row member
          obtain ⟨narrow, stood, rfl⟩ := List.mem_map.mp member
          rw [List.length_append, List.length_append, formed _ _ _ _ standing narrow stood]
          rfl

theorem executeBatch_wellFormed {statements : List Statement} :
    ∀ {catalogue after : Catalogue}, WellFormed catalogue →
      executeBatch catalogue statements = some after → WellFormed after := by
  induction statements with
  | nil =>
      intro catalogue after formed executed
      cases executed
      exact formed
  | cons statement rest ih =>
      intro catalogue after formed executed
      obtain ⟨next, first, later⟩ := Option.bind_eq_some_iff.mp executed
      exact ih (execute_wellFormed formed first) later

theorem insert_wellFormed {catalogue after : Catalogue} {table : String}
    {cells : List (String × Value)} (formed : WellFormed catalogue)
    (inserted : insert catalogue table cells = some after) : WellFormed after := by
  obtain ⟨name, columns, rows, standing, -, rfl⟩ := insert_ok inserted
  refine formed.put ?_
  rintro _ _ _ ⟨⟩ row member
  rcases List.mem_append.mp member with stood | new
  · exact formed _ _ _ _ standing row stood
  · rw [List.mem_singleton.mp new, List.length_map]

/-- A further column hides none of those before it. -/
theorem cellAt_widened {columns : List Column} {row : List Value} {name : String}
    (fits : row.length = columns.length) (known : hasColumn columns name = true) (column : Column)
    (cell : Value) : cellAt (columns ++ [column]) (row ++ [cell]) name = cellAt columns row name := by
  have found : ((columns.zip row).find?
      (fun cell => folded cell.1.name = folded name)).isSome = true := by
    obtain ⟨named, member, same⟩ := List.any_eq_true.mp known
    obtain ⟨place, inside, here⟩ := List.getElem_of_mem member
    rw [List.find?_isSome]
    refine ⟨(columns[place], row[place]), ?_, ?_⟩
    · have bound : place < (columns.zip row).length := by
        rw [List.length_zip]
        omega
      rw [← List.getElem_zip (h := bound)]
      exact List.getElem_mem bound
    · rw [here]
      exact same
  obtain ⟨hit, first⟩ := Option.isSome_iff_exists.mp found
  rw [cellAt, cellAt, List.zip_append fits.symm, List.find?_append, first]
  rfl

/-- What was read of a table is read after any statement. -/
theorem execute_select {catalogue after : Catalogue} {statement : Statement} {table : String}
    {names : List String} {read : List (List Value)} (formed : WellFormed catalogue)
    (executed : execute catalogue statement = some after)
    (selected : select catalogue table names = some read) :
    select after table names = some read := by
  unfold select at selected
  split at selected
  case h_2 => cases selected
  case h_1 name columns rows standing =>
    split at selected
    case isFalse => cases selected
    case isTrue known =>
      cases selected
      by_cases spared : statement.widens (folded table) = false
      · simp only [select, execute_get executed spared standing, known, ↓reduceIte]
      · cases statement with
        | createTable => exact absurd rfl spared
        | createIndex => exact absurd rfl spared
        | addColumn target column =>
            have same : folded target = folded table := by
              simpa [Statement.widens] using spared
            simp only [execute, same, standing] at executed
            split at executed
            case isTrue => cases executed
            case isFalse =>
              cases executed
              have wider : names.all (hasColumn (columns ++ [column])) = true := by
                rw [List.all_eq_true] at known ⊢
                intro other member
                rw [hasColumn, List.any_append, ← hasColumn, known other member, Bool.true_or]
              simp only [select, Table.get_put_self, wider, ↓reduceIte, List.map_map]
              refine congrArg some (List.map_congr_left ?_)
              intro row member
              apply List.map_congr_left
              intro other inside
              exact cellAt_widened (formed _ _ _ _ standing row member)
                (List.all_eq_true.mp known other inside) column column.defaultsTo

theorem executeBatch_select {statements : List Statement} {table : String} {names : List String}
    {read : List (List Value)} :
    ∀ {catalogue after : Catalogue}, WellFormed catalogue →
      executeBatch catalogue statements = some after →
      select catalogue table names = some read → select after table names = some read := by
  induction statements with
  | nil =>
      intro catalogue after _ executed selected
      cases executed
      exact selected
  | cons statement rest ih =>
      intro catalogue after formed executed selected
      obtain ⟨next, first, later⟩ := Option.bind_eq_some_iff.mp executed
      exact ih (execute_wellFormed formed first) later (execute_select formed first selected)

end WellFormed

end Schema
