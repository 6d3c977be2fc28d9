import TableStore.Proofs.Table.WellFormed

/-! # The invariant of a store

Every table is kept under its own name. A new table under a new name keeps the invariant, and so does
a row that fits appended to the one table of a name.
-/

namespace TableStore

set_option autoImplicit false

structure Database.WellFormed (database : Database) : Prop where
  keys_nodup : (database.entries.map Prod.fst).Nodup
  key_eq_name : ∀ entry ∈ database.entries, entry.1 = entry.2.name
  tables_wellFormed : ∀ entry ∈ database.entries, entry.2.WellFormed

namespace Database

theorem WellFormed.empty : WellFormed empty where
  keys_nodup := List.nodup_nil
  key_eq_name entry hEntry := by cases hEntry
  tables_wellFormed entry hEntry := by cases hEntry

theorem mem_entries_of_table? {database : Database} {name : String} {table : Table}
    (hTable : database.table? name = some table) : (name, table) ∈ database.entries := by
  obtain ⟨before, after, hSplit, -⟩ := List.lookup_eq_some_iff.mp hTable
  simp [hSplit]

theorem WellFormed.of_table? {database : Database} (h : database.WellFormed) {name : String}
    {table : Table} (hTable : database.table? name = some table) :
    table.WellFormed ∧ table.name = name := by
  have hEntry := mem_entries_of_table? hTable
  exact ⟨h.tables_wellFormed _ hEntry, (h.key_eq_name _ hEntry).symm⟩

theorem not_mem_keys_of_table?_eq_none {database : Database} {name : String}
    (h : database.table? name = none) : name ∉ database.entries.map Prod.fst := by
  intro hKey
  obtain ⟨entry, hEntry, rfl⟩ := List.mem_map.mp hKey
  have hDiffers := List.lookup_eq_none_iff.mp h entry hEntry
  simp at hDiffers

theorem WellFormed.forall_ne_of_split {database : Database} (h : database.WellFormed) {name : String}
    {table : Table} {before after : List (String × Table)}
    (hSplit : database.entries = before ++ (name, table) :: after) :
    ∀ entry ∈ before ++ after, entry.1 ≠ name := by
  have hKeys := h.keys_nodup
  rw [hSplit, List.map_append, List.map_cons, List.nodup_middle, List.nodup_cons] at hKeys
  intro entry hEntry hName
  apply hKeys.1
  rw [← List.map_append]
  exact List.mem_map.mpr ⟨entry, hEntry, hName⟩

/-- The entry of a table stands between entries of other names. -/
theorem WellFormed.exists_split {database : Database} (h : database.WellFormed) {name : String}
    {table : Table} (hTable : database.table? name = some table) :
    ∃ before after, database.entries = before ++ (name, table) :: after ∧
      (∀ entry ∈ before, entry.1 ≠ name) ∧ ∀ entry ∈ after, entry.1 ≠ name := by
  obtain ⟨before, after, hSplit, -⟩ := List.lookup_eq_some_iff.mp hTable
  have hOthers := h.forall_ne_of_split hSplit
  exact ⟨before, after, hSplit, fun entry hEntry => hOthers entry (List.mem_append_left _ hEntry),
    fun entry hEntry => hOthers entry (List.mem_append_right _ hEntry)⟩

theorem table?_of_split {name : String} {table : Table} {before after : List (String × Table)}
    (hBefore : ∀ entry ∈ before, entry.1 ≠ name) :
    table? ⟨before ++ (name, table) :: after⟩ name = some table :=
  List.lookup_eq_some_iff.mpr
    ⟨before, after, rfl, fun entry hEntry => bne_iff_ne.mpr (hBefore entry hEntry).symm⟩

theorem WellFormed.table?_eq_some_iff {database : Database} (h : database.WellFormed) {name : String}
    {table : Table} : database.table? name = some table ↔ (name, table) ∈ database.entries := by
  constructor
  · exact mem_entries_of_table?
  · intro hEntry
    obtain ⟨before, after, hSplit⟩ := List.append_of_mem hEntry
    obtain ⟨entries⟩ := database
    cases hSplit
    exact table?_of_split fun entry hBefore =>
      h.forall_ne_of_split rfl entry (List.mem_append_left _ hBefore)

theorem mem_tableNames_iff {database : Database} {name : String} :
    name ∈ database.tableNames ↔ name ∈ database.entries.map Prod.fst :=
  List.mem_mergeSort

/-- The names are in order and none of them comes twice. -/
theorem WellFormed.pairwise_tableNames {database : Database} (h : database.WellFormed) :
    database.tableNames.Pairwise (· < ·) := by
  have hSorted : database.tableNames.Pairwise fun left right => decide (left ≤ right) = true := by
    apply List.pairwise_mergeSort
    · intro left middle right hLeft hRight
      exact decide_eq_true (String.le_trans (of_decide_eq_true hLeft) (of_decide_eq_true hRight))
    · intro left right
      simpa using String.le_total left right
  have hDistinct : database.tableNames.Nodup := (List.mergeSort_perm _ _).nodup_iff.mpr h.keys_nodup
  exact hSorted.imp₂ (fun _ _ hLe hNe => Std.lt_of_le_of_ne (of_decide_eq_true hLe) hNe) hDistinct

theorem append_entries {database : Database} {name : String} {table : Table}
    {before after : List (String × Table)} (row : Row)
    (hSplit : database.entries = before ++ (name, table) :: after)
    (hBefore : ∀ entry ∈ before, entry.1 ≠ name) (hAfter : ∀ entry ∈ after, entry.1 ≠ name) :
    (database.append name row).entries = before ++ (name, table.append row) :: after := by
  let change (entry : String × Table) : String × Table :=
    (entry.1, if entry.1 == name then entry.2.append row else entry.2)
  have hSame : ∀ entries : List (String × Table), (∀ entry ∈ entries, entry.1 ≠ name) →
      entries.map change = entries := by
    intro entries hEntries
    conv => rhs; rw [← List.map_id entries]
    apply List.map_congr_left
    intro entry hEntry
    simp [change, hEntries entry hEntry]
  have hChange : change (name, table) = (name, table.append row) := by simp [change]
  calc
    (database.append name row).entries = database.entries.map change := rfl
    _ = before.map change ++ change (name, table) :: after.map change := by
      rw [hSplit, List.map_append, List.map_cons]
    _ = before ++ (name, table.append row) :: after := by
      rw [hSame before hBefore, hSame after hAfter, hChange]

theorem WellFormed.append {database : Database} (h : database.WellFormed) {name : String}
    {table : Table} {row : Row} (hTable : database.table? name = some table)
    (hRow : Row.Fits table.columns row) : (database.append name row).WellFormed := by
  obtain ⟨before, after, hSplit, hBefore, hAfter⟩ := h.exists_split hTable
  have hEntries := append_entries row hSplit hBefore hAfter
  have hOld : ∀ entry ∈ (database.append name row).entries,
      entry = (name, table.append row) ∨ entry ∈ database.entries := by
    intro entry hEntry
    rw [hEntries] at hEntry
    rw [hSplit]
    simp only [List.mem_append, List.mem_cons] at hEntry ⊢
    rcases hEntry with hEntry | rfl | hEntry
    · exact .inr (.inl hEntry)
    · exact .inl rfl
    · exact .inr (.inr (.inr hEntry))
  obtain ⟨hWellFormed, hName⟩ := h.of_table? hTable
  constructor
  · have hKeys := h.keys_nodup
    rw [hSplit, List.map_append, List.map_cons] at hKeys
    rw [hEntries, List.map_append, List.map_cons]
    exact hKeys
  · intro entry hEntry
    rcases hOld entry hEntry with rfl | hEntry
    · exact hName.symm
    · exact h.key_eq_name entry hEntry
  · intro entry hEntry
    rcases hOld entry hEntry with rfl | hEntry
    · exact hWellFormed.append hRow
    · exact h.tables_wellFormed entry hEntry

theorem WellFormed.create {database : Database} (h : database.WellFormed) {name : String}
    {table : Table} (hAbsent : database.table? name = none) (hTable : table.WellFormed)
    (hName : table.name = name) : WellFormed ⟨database.entries ++ [(name, table)]⟩ where
  keys_nodup := by
    rw [List.map_append]
    refine List.nodup_append'.mpr ⟨h.keys_nodup, by simp, ?_⟩
    simpa using not_mem_keys_of_table?_eq_none hAbsent
  key_eq_name entry hEntry := by
    rcases List.mem_append.mp hEntry with hEntry | hEntry
    · exact h.key_eq_name entry hEntry
    · rw [List.mem_singleton.mp hEntry]
      exact hName.symm
  tables_wellFormed entry hEntry := by
    rcases List.mem_append.mp hEntry with hEntry | hEntry
    · exact h.tables_wellFormed entry hEntry
    · rw [List.mem_singleton.mp hEntry]
      exact hTable

end Database

end TableStore
