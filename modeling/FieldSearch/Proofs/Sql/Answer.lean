import FieldSearch.Proofs.Sql.Conditions
import Mathlib

/-!
# What a database answers

A statement is answered with the rows for which its condition is true, in an order
that its keys allow, cut to its page.  Rows are compared key by key, the first
difference deciding.  How a database judges comparisons and what values it sorts by
is left open: `View` is any way of doing so, provided that the values of each
expression are linearly ordered.

Rows without a value come last where a key says so.  Where it does not, the two
dialects differ: for one of them null is the least value, for the other the
greatest.

Where no two rows are equal in all keys there is one order only, and a statement
has one answer.

## Main results

* `View.cmp_ne_eq_of_append`: rows that differ in a key differ under all keys.
* `Statement.exists_lists`, `Statement.Lists.eq`: the one order of the rows of a
  statement.
* `Statement.answers_iff`: the one answer of each of its pages.
-/

namespace FieldSearch.Sql

/-! ## Orders of optional values -/

/-- The order of values that may be missing. -/
def cmpOptional {α : Type} (nullsLast : Bool) (cmp : α → α → Ordering) :
    Option α → Option α → Ordering
  | none, none => .eq
  | none, some _ => if nullsLast then .gt else .lt
  | some _, none => if nullsLast then .lt else .gt
  | some left, some right => cmp left right

instance {α : Type} (nullsLast : Bool) (cmp : α → α → Ordering) [Std.TransCmp cmp] :
    Std.TransCmp (cmpOptional nullsLast cmp) where
  eq_swap {left right} := by
    cases left with
    | none => cases right <;> cases nullsLast <;> rfl
    | some left =>
        cases right with
        | none => cases nullsLast <;> rfl
        | some right => exact @Std.OrientedCmp.eq_swap _ cmp _ left right
  isLE_trans {left middle right} h hNext := by
    cases middle with
    | none =>
        -- What is not above null and what is not below it meet at one end.
        cases left with
        | none => exact hNext
        | some left =>
            cases right with
            | none => exact h
            | some right =>
                cases nullsLast with
                | true => cases hNext
                | false => cases h
    | some middle =>
        cases left with
        | none =>
            cases right with
            | none => rfl
            | some right => exact h
        | some left =>
            cases right with
            | none => exact hNext
            | some right => exact @Std.TransCmp.isLE_trans _ cmp _ left middle right h hNext

/-- An order in one of the two directions. -/
def directed {α : Type} (direction : Direction) (cmp : α → α → Ordering) (left right : α) :
    Ordering :=
  match direction with
  | .ascending => cmp left right
  | .descending => cmp right left

instance {α : Type} (direction : Direction) (cmp : α → α → Ordering) [Std.TransCmp cmp] :
    Std.TransCmp (directed direction cmp) := by
  cases direction with
  | ascending => exact inferInstanceAs (Std.TransCmp cmp)
  | descending => exact inferInstanceAs (Std.TransCmp fun left right => cmp right left)

/-! ## Views of rows -/

/-- How a database sees rows: how they judge comparisons, and the values that they have to be sorted
by, which may be missing. -/
structure View (R : Type) where
  judgement : R → Judgement
  Value : KeyExpr → Type
  [order : ∀ expr, LinearOrder (Value expr)]
  value : ∀ expr, R → Option (Value expr)

/-- Whether rows without a value come last: where a key does not say so, null is the least value in
one dialect and the greatest in the other. -/
def Key.putsNullsLast (dialect : Dialect) (key : Key) : Bool :=
  key.nullsLast ||
    match dialect, key.direction with
    | .sqlite, .ascending => false
    | .sqlite, .descending => true
    | .postgres, .ascending => true
    | .postgres, .descending => false

namespace View

variable {R : Type} (dialect : Dialect) (view : View R)

/-- The order of rows under a key. -/
def cmpKey (key : Key) (left right : R) : Ordering :=
  cmpOptional (key.putsNullsLast dialect)
    (directed key.direction (@compare _ (view.order key.expr).toOrd))
    (view.value key.expr left) (view.value key.expr right)

/-- The order of rows under several keys: the first difference decides. -/
def cmp : List Key → R → R → Ordering
  | [] => fun _ _ => .eq
  | key :: keys => compareLex (view.cmpKey dialect key) (cmp keys)

instance (key : Key) : Std.TransCmp (view.cmpKey dialect key) where
  eq_swap {left right} := by
    let := view.order key.expr
    exact @Std.OrientedCmp.eq_swap _ (cmpOptional (key.putsNullsLast dialect)
      (directed key.direction compare)) _ _ _
  isLE_trans {left middle right} h hNext := by
    let := view.order key.expr
    exact @Std.TransCmp.isLE_trans _ (cmpOptional (key.putsNullsLast dialect)
      (directed key.direction compare)) _ _ _ _ h hNext

instance (keys : List Key) : Std.TransCmp (view.cmp dialect keys) := by
  induction keys with
  | nil => exact { eq_swap := rfl, isLE_trans := fun _ _ => rfl }
  | cons key keys ih =>
      rw [cmp]
      infer_instance

/-- Rows that differ in a key are not equal under keys among which it is. -/
theorem cmp_ne_eq_of_append (leading : List Key) {key : Key} {left right : R}
    (hKey : view.cmpKey dialect key left right ≠ .eq) :
    view.cmp dialect (leading ++ [key]) left right ≠ .eq := by
  induction leading with
  | nil =>
      intro h
      exact hKey (compareLex_eq_eq.mp h).1
  | cons first rest ih =>
      intro h
      exact ih (compareLex_eq_eq.mp h).2

/-- Rows with different values of an expression differ in a key on it. -/
theorem cmpKey_ne_eq {key : Key} {left right : R} {first second : view.Value key.expr}
    (hLeft : view.value key.expr left = some first)
    (hRight : view.value key.expr right = some second) (hNe : first ≠ second) :
    view.cmpKey dialect key left right ≠ .eq := by
  let := view.order key.expr
  rw [cmpKey, hLeft, hRight]
  intro h
  have hSame : directed key.direction compare first second = .eq := h
  cases hDirection : key.direction with
  | ascending =>
      rw [hDirection] at hSame
      exact hNe (compare_eq_iff_eq.mp hSame)
  | descending =>
      rw [hDirection] at hSame
      exact hNe (compare_eq_iff_eq.mp hSame).symm

/-- Rows without a value come last where a key says so. -/
theorem cmpKey_of_nullsLast {key : Key} (hLast : key.nullsLast = true) {left right : R}
    (hLeft : view.value key.expr left ≠ none) (hRight : view.value key.expr right = none) :
    view.cmpKey dialect key left right = .lt := by
  obtain ⟨first, hFirst⟩ := Option.ne_none_iff_exists'.mp hLeft
  have hPuts : key.putsNullsLast dialect = true := by
    unfold Key.putsNullsLast
    rw [hLast, Bool.true_or]
  rw [cmpKey, hFirst, hRight, hPuts]
  rfl

end View

/-! ## Answers -/

/-- A page of rows; without an offset it begins with the first row, and without a limit it ends with
the last one. -/
def cut {R : Type} (limit offset : Option Int) (rows : List R) : List R :=
  match limit with
  | some limit => (rows.drop (offset.getD 0).toNat).take limit.toNat
  | none => rows.drop (offset.getD 0).toNat

theorem mem_of_mem_cut {R : Type} {limit offset : Option Int} {rows : List R} {row : R}
    (h : row ∈ cut limit offset rows) : row ∈ rows := by
  cases limit with
  | some limit => exact List.mem_of_mem_drop (List.mem_of_mem_take h)
  | none => exact List.mem_of_mem_drop h

namespace Statement

/-- The condition is true for the rows that judge comparisons in this way. -/
def Admits (statement : Statement) (judgement : Judgement) : Prop :=
  ∀ inner ∈ statement.condition, inner.truth judgement = some true

instance (statement : Statement) (judgement : Judgement) :
    Decidable (statement.Admits judgement) := by
  unfold Admits
  infer_instance

variable {R : Type} {dialect : Dialect} {view : View R} {statement : Statement}
  {rows listing answer : List R}

/-- The rows for which the condition is true, in an order that the keys allow. -/
structure Lists (dialect : Dialect) (view : View R) (statement : Statement)
    (rows listing : List R) : Prop where
  perm : listing.Perm (rows.filter fun row => statement.Admits (view.judgement row))
  sorted : listing.Pairwise fun left right =>
    (view.cmp dialect statement.keys left right).isLE = true

/-- What a database may answer: the rows in some order that the keys allow, cut to the page. -/
def Answers (dialect : Dialect) (view : View R) (statement : Statement)
    (rows answer : List R) : Prop :=
  ∃ listing, statement.Lists dialect view rows listing ∧
    answer = cut statement.limit statement.offset listing

/-- **An answer has only rows for which the condition is true.** -/
theorem Answers.mem (h : statement.Answers dialect view rows answer) {row : R}
    (hMem : row ∈ answer) : row ∈ rows ∧ statement.Admits (view.judgement row) := by
  obtain ⟨listing, hLists, rfl⟩ := h
  have hKept := hLists.perm.mem_iff.mp (mem_of_mem_cut hMem)
  simpa using List.mem_filter.mp hKept

theorem exists_lists (dialect : Dialect) (view : View R) (statement : Statement)
    (rows : List R) : ∃ listing, statement.Lists dialect view rows listing := by
  refine ⟨_, List.mergeSort_perm _ fun left right =>
    (view.cmp dialect statement.keys left right).isLE, List.pairwise_mergeSort ?_ ?_ _⟩
  · intro first second third h hNext
    exact Std.TransCmp.isLE_trans h hNext
  · intro first second
    have hSwap := @Std.OrientedCmp.eq_swap _ (view.cmp dialect statement.keys) _ first second
    rw [hSwap]
    cases view.cmp dialect statement.keys second first <;> rfl

/-- **Where no two rows are equal in all keys there is one order only.** -/
theorem Lists.eq {others : Statement} {also : List R}
    (hDistinct : rows.Pairwise fun left right =>
      view.cmp dialect statement.keys left right ≠ .eq)
    (hKeys : others.keys = statement.keys)
    (hAdmits : ∀ judgement, others.Admits judgement ↔ statement.Admits judgement)
    (h : statement.Lists dialect view rows listing) (hAlso : others.Lists dialect view rows also) :
    also = listing := by
  have hFilter : (rows.filter fun row => others.Admits (view.judgement row)) =
      rows.filter fun row => statement.Admits (view.judgement row) := by
    simp only [hAdmits]
  have hPerm : also.Perm listing := by
    have hRows := hAlso.perm
    rw [hFilter] at hRows
    exact hRows.trans h.perm.symm
  have hSorted := hAlso.sorted
  rw [hKeys] at hSorted
  have hMem : ∀ row ∈ listing, row ∈ rows := fun row hRow =>
    (List.mem_filter.mp (h.perm.mem_iff.mp hRow)).1
  have : Std.Symm fun left right => view.cmp dialect statement.keys left right ≠ .eq :=
    ⟨fun left right hNe hEq => hNe (Std.OrientedCmp.eq_comm.mp hEq)⟩
  refine hPerm.eq_of_pairwise (fun left right hLeft hRight hLess hGreater => ?_) hSorted h.sorted
  by_contra hNe
  exact hDistinct.forall (hMem left (hPerm.mem_iff.mp hLeft)) (hMem right hRight) hNe
    (Std.OrientedCmp.isLE_antisymm hLess hGreater)

/-- **Where no two rows are equal in all keys a statement has one answer.** -/
theorem answers_iff {others : Statement}
    (hDistinct : rows.Pairwise fun left right =>
      view.cmp dialect statement.keys left right ≠ .eq)
    (hKeys : others.keys = statement.keys)
    (hAdmits : ∀ judgement, others.Admits judgement ↔ statement.Admits judgement)
    (h : statement.Lists dialect view rows listing) :
    others.Answers dialect view rows answer ↔ answer = cut others.limit others.offset listing := by
  constructor
  · rintro ⟨also, hAlso, rfl⟩
    rw [h.eq hDistinct hKeys hAdmits hAlso]
  · rintro rfl
    obtain ⟨also, hAlso⟩ := exists_lists dialect view others rows
    exact ⟨also, hAlso, by rw [h.eq hDistinct hKeys hAdmits hAlso]⟩

end Statement

end FieldSearch.Sql
