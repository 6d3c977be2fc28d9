import TableStore.Proofs.Table.Selection

/-! # The order of cells

The cells of a column are ordered by its type: integers by value, texts by the code points of their
case foldings. Any two compare in exactly one of three ways, so the three comparisons with one cell
divide rows among them, and comparing with a greater cell moves the division.
-/

namespace TableStore

open Text

set_option autoImplicit false

namespace Comparison

/-- The relation that a comparison stands for. -/
def Relates {α : Type} [LT α] : Comparison → α → α → Prop
  | equal, left, right => left = right
  | less, left, right => left < right
  | greater, left, right => right < left

def ordering : Comparison → Ordering
  | equal => .eq
  | less => .lt
  | greater => .gt

theorem accepts_eq_true_iff {comparison : Comparison} {order : Ordering} :
    comparison.accepts order = true ↔ order = comparison.ordering := by
  cases comparison <;> cases order <;> decide

theorem exists_accepts_iff (order : Ordering) :
    ∃ comparison, ∀ other : Comparison, other.accepts order = decide (other = comparison) := by
  cases order with
  | lt => exact ⟨less, fun other => by cases other <;> rfl⟩
  | eq => exact ⟨equal, fun other => by cases other <;> rfl⟩
  | gt => exact ⟨greater, fun other => by cases other <;> rfl⟩

theorem accepts_compare_iff {α : Type} [Ord α] [LT α] [Std.OrientedOrd α] [Std.LawfulEqOrd α]
    (hLess : ∀ left right : α, compare left right = .lt ↔ left < right) (comparison : Comparison)
    (left right : α) :
    comparison.accepts (compare left right) = true ↔ comparison.Relates left right := by
  rw [accepts_eq_true_iff]
  cases comparison with
  | equal => exact Std.compare_eq_iff_eq
  | less => exact hLess left right
  | greater => exact Std.OrientedCmp.gt_iff_lt.trans (hLess right left)

end Comparison

/-- The code points of a text without the differences in case. -/
def foldedCodes (text : String) : List Nat :=
  (fold text).toList.map Char.toNat

theorem toNat_lt_toNat_iff {left right : Char} : left.toNat < right.toNat ↔ left < right :=
  Char.lt_def.trans UInt32.lt_iff_toNat_lt |>.symm

theorem map_toNat_inj {left right : List Char} :
    left.map Char.toNat = right.map Char.toNat ↔ left = right := by
  refine ⟨fun h => ?_, fun h => by rw [h]⟩
  exact List.map_inj_right (fun _ _ hCode => Char.toNat_inj.mp hCode) |>.mp h

theorem map_toNat_lt_iff {left right : List Char} :
    left.map Char.toNat < right.map Char.toNat ↔ left < right := by
  induction left generalizing right with
  | nil => cases right <;> simp
  | cons first left ih =>
    cases right with
    | nil => simp
    | cons other right =>
      rw [List.map_cons, List.map_cons, List.cons_lt_cons_iff, List.cons_lt_cons_iff,
        toNat_lt_toNat_iff, Char.toNat_inj, ih]

theorem Comparison.relates_foldedCodes_iff (comparison : Comparison) (left right : String) :
    comparison.Relates (foldedCodes left) (foldedCodes right) ↔
      comparison.Relates (fold left) (fold right) := by
  cases comparison with
  | equal => exact map_toNat_inj.trans String.toList_inj
  | less => exact map_toNat_lt_iff.trans String.lt_iff.symm
  | greater => exact map_toNat_lt_iff.trans String.lt_iff.symm

/-- What orders the cells of an integer column. -/
def Cell.number : Cell → Int
  | int value => value
  | text _ => 0

/-- What orders the cells of a text column. -/
def Cell.folded : Cell → String
  | int _ => ""
  | text value => fold value

namespace ColumnType

variable {type : ColumnType} {cell left right : Cell}

/-- Integers stand in a relation as such, texts by the code points of their foldings. -/
def Relates : ColumnType → Comparison → Cell → Cell → Prop
  | int _, comparison, .int left, .int right => comparison.Relates left right
  | text _, comparison, .text left, .text right =>
    comparison.Relates (foldedCodes left) (foldedCodes right)
  | _, _, _, _ => False

theorem compares_iff_relates (hLeft : type.Matches left) (hRight : type.Matches right)
    (comparison : Comparison) :
    type.compares comparison left right = true ↔ type.Relates comparison left right := by
  cases hLeft with
  | int =>
    cases hRight with
    | int => exact comparison.accepts_compare_iff (fun _ _ => Std.compare_eq_lt) _ _
  | text =>
    cases hRight with
    | text =>
      have hCompare := Comparison.accepts_compare_iff (α := String)
        (fun _ _ => compareOfLessAndEq_eq_lt) comparison
      exact (hCompare _ _).trans (comparison.relates_foldedCodes_iff _ _).symm

/-- The cells that a type compares are ordered by a key: the integer, or the text folded. -/
theorem exists_key (type : ColumnType) :
    ∃ (α : Type) (_ : Ord α) (_ : Std.TransOrd α) (key : Cell → α),
      ∀ left right comparison, type.Matches left → type.Matches right →
        type.compares comparison left right = comparison.accepts (compare (key left) (key right)) := by
  cases type with
  | int name =>
    refine ⟨Int, inferInstance, inferInstance, Cell.number, ?_⟩
    rintro _ _ comparison ⟨⟩ ⟨⟩
    rfl
  | text name =>
    refine ⟨String, inferInstance, inferInstance, Cell.folded, ?_⟩
    rintro _ _ comparison ⟨⟩ ⟨⟩
    rfl

theorem exists_compares_iff (hLeft : type.Matches left) (hRight : type.Matches right) :
    ∃ comparison, ∀ other, type.compares other left right = decide (other = comparison) := by
  obtain ⟨α, _, _, key, hKey⟩ := type.exists_key
  obtain ⟨comparison, hAccepts⟩ := Comparison.exists_accepts_iff (compare (key left) (key right))
  exact ⟨comparison, fun other => (hKey left right other hLeft hRight).trans (hAccepts other)⟩

section Laws

variable (hCell : type.Matches cell) (hLeft : type.Matches left) (hRight : type.Matches right)
include hCell hLeft hRight

theorem compares_congr (h : type.compares .equal left right = true) (comparison : Comparison) :
    type.compares comparison cell left = type.compares comparison cell right := by
  obtain ⟨α, _, _, key, hKey⟩ := type.exists_key
  rw [hKey _ _ _ hLeft hRight, Comparison.accepts_eq_true_iff] at h
  rw [hKey _ _ _ hCell hLeft, hKey _ _ _ hCell hRight, Std.TransCmp.congr_right h]

theorem compares_less_of_less (h : type.compares .less left right = true)
    (hLess : type.compares .less cell left = true) : type.compares .less cell right = true := by
  obtain ⟨α, _, _, key, hKey⟩ := type.exists_key
  rw [hKey _ _ _ hLeft hRight, Comparison.accepts_eq_true_iff] at h
  rw [hKey _ _ _ hCell hLeft, Comparison.accepts_eq_true_iff] at hLess
  rw [hKey _ _ _ hCell hRight, Comparison.accepts_eq_true_iff]
  exact Std.TransCmp.lt_trans hLess h

theorem compares_less_of_equal (h : type.compares .less left right = true)
    (hEqual : type.compares .equal cell left = true) : type.compares .less cell right = true := by
  obtain ⟨α, _, _, key, hKey⟩ := type.exists_key
  rw [hKey _ _ _ hLeft hRight, Comparison.accepts_eq_true_iff] at h
  rw [hKey _ _ _ hCell hLeft, Comparison.accepts_eq_true_iff] at hEqual
  rw [hKey _ _ _ hCell hRight, Comparison.accepts_eq_true_iff]
  exact Std.TransCmp.lt_of_eq_of_lt hEqual h

theorem compares_greater_of_greater (h : type.compares .less left right = true)
    (hGreater : type.compares .greater cell right = true) :
    type.compares .greater cell left = true := by
  obtain ⟨α, _, _, key, hKey⟩ := type.exists_key
  rw [hKey _ _ _ hLeft hRight, Comparison.accepts_eq_true_iff] at h
  rw [hKey _ _ _ hCell hRight, Comparison.accepts_eq_true_iff] at hGreater
  rw [hKey _ _ _ hCell hLeft, Comparison.accepts_eq_true_iff]
  exact Std.TransCmp.gt_trans hGreater (Std.OrientedCmp.gt_iff_lt.mpr h)

end Laws

/-- Comparing two literals compares the cells that they are read as. -/
theorem compareLiterals_eq_ok {leftText rightText : String} (hLeft : type.read? leftText = some left)
    (hRight : type.read? rightText = some right) (comparison : Comparison) :
    type.compareLiterals leftText comparison.text rightText =
      .ok (type.compares comparison left right) := by
  have hOrder := order_map_accepts comparison (matches_of_read? hLeft) (matches_of_read? hRight)
  obtain ⟨order, hOrdered, hAccepts⟩ := exists_of_map_eq_ok hOrder
  simp only [compareLiterals, read, hLeft, hRight, comparisonOf, Comparison.ofText?_text,
    Except.mapError, hOrdered, hAccepts, bind, Except.bind]
  rfl

end ColumnType

section Filters

variable {α : Type} {rows : List α}

theorem filter_sublist_filter {keeps others : α → Bool}
    (h : ∀ row ∈ rows, keeps row = true → others row = true) :
    (rows.filter keeps).Sublist (rows.filter others) := by
  have hTwice : rows.filter keeps = (rows.filter others).filter keeps := by
    rw [List.filter_filter]
    refine List.filter_congr fun row hRow => ?_
    cases hKeeps : keeps row with
    | false => rfl
    | true => rw [h row hRow hKeeps, Bool.and_self]
  rw [hTwice]
  exact List.filter_sublist

/-- By induction on the rows: each goes to the one comparison that holds of it. -/
theorem filters_perm {keeps : Comparison → α → Bool}
    (h : ∀ row ∈ rows, ∃ comparison, ∀ other, keeps other row = decide (other = comparison)) :
    (rows.filter (keeps .less) ++ rows.filter (keeps .equal) ++ rows.filter (keeps .greater)).Perm
      rows := by
  induction rows with
  | nil => exact .nil
  | cons row rows ih =>
    have hOthers := ih fun other hOther => h other (List.mem_cons_of_mem _ hOther)
    obtain ⟨comparison, hKeeps⟩ := h row List.mem_cons_self
    simp only [List.filter_cons, hKeeps]
    cases comparison with
    | less => exact hOthers.cons row
    | equal =>
      simp only [List.append_assoc] at hOthers ⊢
      exact List.perm_middle.trans (hOthers.cons row)
    | greater => exact List.perm_middle.trans (hOthers.cons row)

end Filters

end TableStore
