/-
This file is a small library of database tables: a list of rows in which no two rows have the
same key, so that the unique index of the database is part of the type. The statements are those
a program issues: insert a row, change the rows that meet a condition without touching their key,
delete rows, count them. Each has the lemma that says which rows it leaves.
-/

import Mathlib.Data.List.Nodup

/-- The rows of a table in the order of their insertion, and the unique index on their key. -/
structure Table (Row Key : Type) (key : Row → Key) where
  rows : List Row
  unique : (rows.map key).Nodup

namespace Table

variable {Row Key : Type} {key : Row → Key}

@[ext]
theorem ext {first second : Table Row Key key} (rowsEq : first.rows = second.rows) :
    first = second := by
  cases first
  cases second
  cases rowsEq
  rfl

/-- The table without rows. -/
def empty : Table Row Key key := ⟨[], List.nodup_nil⟩

variable (table : Table Row Key key)

/-- The number of rows that meet a condition. -/
def count (condition : Row → Bool) : ℕ :=
  table.rows.countP condition

theorem count_eq_zero {table : Table Row Key key} {condition : Row → Bool} :
    table.count condition = 0 ↔ ∀ row ∈ table.rows, condition row = false := by
  simp only [count, List.countP_eq_zero, Bool.not_eq_true]

theorem eq_of_key_eq {first second : Row}
    (firstMem : first ∈ table.rows) (secondMem : second ∈ table.rows)
    (keys : key first = key second) : first = second :=
  List.inj_on_of_nodup_map table.unique firstMem secondMem keys

/-- A condition on the key that some row meets is met by that row alone. -/
theorem count_key [DecidableEq Key] (table : Table Row Key key) {row : Row}
    (member : row ∈ table.rows) : table.count (fun other => key other == key row) = 1 := by
  have counted : (table.rows.map key).count (key row) = 1 :=
    List.count_eq_one_of_mem table.unique (List.mem_map_of_mem member)
  rw [List.count, List.countP_map] at counted
  exact counted

/-- A key that is counted is the key of a row. -/
theorem mem_keys_of_count [DecidableEq Key] (table : Table Row Key key) {wanted : Key}
    (counted : table.count (fun row => key row == wanted) = 1) : wanted ∈ table.rows.map key := by
  have positive : 0 < table.rows.countP fun row => key row == wanted :=
    Nat.lt_of_lt_of_eq Nat.one_pos counted.symm
  obtain ⟨row, member, same⟩ := List.countP_pos_iff.mp positive
  exact List.mem_map.mpr ⟨row, member, beq_iff_eq.mp same⟩

/-! ### Changing rows -/

/-- `UPDATE`: every row that meets the condition is changed, and keeps its key. -/
def update (condition : Row → Bool) (change : Row → Row)
    (kept : ∀ row, key (change row) = key row) : Table Row Key key where
  rows := table.rows.map fun row => if condition row then change row else row
  unique := by
    have same : (key ∘ fun row => if condition row then change row else row) = key := by
      funext row
      simp only [Function.comp_apply]
      split
      · exact kept row
      · rfl
    rw [List.map_map, same]
    exact table.unique

variable (table : Table Row Key key) (condition : Row → Bool) (change : Row → Row)
  (kept : ∀ row, key (change row) = key row)

theorem update_rows : (table.update condition change kept).rows =
    table.rows.map fun row => if condition row then change row else row := rfl

theorem mem_update {row : Row} : row ∈ (table.update condition change kept).rows ↔
    ∃ old ∈ table.rows, (if condition old then change old else old) = row := by
  rw [update_rows, List.mem_map]

/-- An update changes no key. -/
theorem map_key_update :
    (table.update condition change kept).rows.map key = table.rows.map key := by
  rw [update_rows, List.map_map]
  refine List.map_congr_left fun row _ => ?_
  simp only [Function.comp_apply]
  split
  · exact kept row
  · rfl

/-- A row that is changed if its key is one of the named ones. -/
def changeNamed (key : Row → Key) (change : Row → Row) (named : Key → Bool) (row : Row) : Row :=
  if named (key row) then change row else row

/-- Changing rows twice changes the ones that either names. -/
theorem changeNamed_comp {change : Row → Row} (kept : ∀ row, key (change row) = key row)
    (once : ∀ row, change (change row) = change row) (first second : Key → Bool) :
    changeNamed key change second ∘ changeNamed key change first =
      changeNamed key change fun name => first name || second name := by
  funext row
  simp only [Function.comp_apply, changeNamed]
  by_cases named : first (key row) = true
  · simp only [named, if_true, Bool.true_or, kept, once, ite_self]
  · simp only [named, Bool.false_eq_true, if_false, Bool.false_or]

/-! ### Adding and removing rows -/

/-- `INSERT`: a row whose key is already there is refused. -/
def insert [DecidableEq Key] (table : Table Row Key key) (row : Row) :
    Option (Table Row Key key) :=
  if fresh : key row ∈ table.rows.map key then none
  else some
    { rows := table.rows ++ [row]
      unique := by
        rw [List.map_append, List.map_singleton]
        exact List.nodup_append.mpr ⟨table.unique, List.nodup_singleton _, by
          intro first firstMem second secondMem same
          rw [List.mem_singleton] at secondMem
          exact fresh (secondMem ▸ same ▸ firstMem)⟩ }

/-- A row is inserted exactly when its key is new, and then stands behind the others. -/
theorem insert_eq_some [DecidableEq Key] {row : Row} {after : Table Row Key key} :
    table.insert row = some after ↔
      key row ∉ table.rows.map key ∧ after.rows = table.rows ++ [row] := by
  unfold insert
  split
  case isTrue known =>
    exact ⟨nofun, fun both => absurd known both.1⟩
  case isFalse fresh =>
    rw [Option.some.injEq]
    refine ⟨fun same => ⟨fresh, same ▸ rfl⟩, fun both => ?_⟩
    exact ext both.2.symm

/-- `INSERT OR IGNORE`: a row whose key is already there is left out. -/
def insertOrIgnore [DecidableEq Key] (table : Table Row Key key) (row : Row) :
    Table Row Key key :=
  (table.insert row).getD table

/-- After an insertion with conflicts ignored there are the old rows and perhaps the new one. -/
theorem insertOrIgnore_rows [DecidableEq Key] (row : Row) :
    (key row ∈ table.rows.map key ∧ (table.insertOrIgnore row).rows = table.rows) ∨
      (key row ∉ table.rows.map key ∧ (table.insertOrIgnore row).rows = table.rows ++ [row]) := by
  unfold insertOrIgnore
  cases inserted : table.insert row with
  | none =>
    refine .inl ⟨?_, rfl⟩
    unfold insert at inserted
    split at inserted
    case isTrue known => exact known
    case isFalse => exact nomatch inserted
  | some => exact .inr (table.insert_eq_some.mp inserted)

/-- No row is lost by an insertion with conflicts ignored. -/
theorem mem_insertOrIgnore [DecidableEq Key] {row old : Row} (member : old ∈ table.rows) :
    old ∈ (table.insertOrIgnore row).rows := by
  rcases table.insertOrIgnore_rows row with ⟨-, same⟩ | ⟨-, appended⟩
  · rw [same]
    exact member
  · rw [appended]
    exact List.mem_append_left _ member

/-- The keys after an insertion with conflicts ignored are the old ones and the inserted one. -/
theorem mem_keys_insertOrIgnore [DecidableEq Key] (row : Row) {name : Key} :
    name ∈ (table.insertOrIgnore row).rows.map key ↔
      name ∈ table.rows.map key ∨ name = key row := by
  rcases table.insertOrIgnore_rows row with ⟨known, same⟩ | ⟨-, appended⟩
  · rw [same]
    refine ⟨.inl, ?_⟩
    rintro (member | rfl)
    · exact member
    · exact known
  · rw [appended, List.map_append, List.mem_append, List.map_singleton, List.mem_singleton]

/-- `INSERT … ON CONFLICT DO UPDATE`: a row whose key is already there is changed. -/
def upsert [DecidableEq Key] (table : Table Row Key key) (row : Row) (change : Row → Row)
    (kept : ∀ row, key (change row) = key row) : Table Row Key key :=
  (table.insert row).getD (table.update (fun old => key old == key row) change kept)

/-- The rows after an insertion with conflicts changed: the new row is behind the others, or the one
of its key is changed. -/
theorem upsert_rows [DecidableEq Key] (row : Row) :
    (key row ∉ table.rows.map key ∧ (table.upsert row change kept).rows = table.rows ++ [row]) ∨
      (key row ∈ table.rows.map key ∧ (table.upsert row change kept).rows =
        table.rows.map fun old => if key old == key row then change old else old) := by
  unfold upsert
  cases inserted : table.insert row with
  | none =>
    refine .inr ⟨?_, rfl⟩
    unfold insert at inserted
    split at inserted
    case isTrue known => exact known
    case isFalse => exact nomatch inserted
  | some => exact .inl (table.insert_eq_some.mp inserted)

/-- `DELETE`: the rows that meet the condition go. -/
def delete (table : Table Row Key key) (condition : Row → Bool) : Table Row Key key where
  rows := table.rows.filter fun row => !condition row
  unique := table.unique.sublist (List.filter_sublist.map key)

@[simp]
theorem mem_delete {row : Row} :
    row ∈ (table.delete condition).rows ↔ row ∈ table.rows ∧ condition row = false := by
  simp only [delete, List.mem_filter, Bool.not_eq_true']

end Table
