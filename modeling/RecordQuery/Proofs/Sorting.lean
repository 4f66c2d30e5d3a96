import Mathlib.Order.Compare
import RecordQuery.Database.Query

namespace RecordQuery

/-!
# Records in the order asked for

Stored values are ordered by class and then within their class, contents put
null first, and records are compared by one column after the other.  Each of
these is a total preorder, so sorting puts no record before one that should come
earlier (`Database.pairwise_sorted`).
-/

namespace Sql

instance : Std.OrientedCmp Storage.order where
  eq_swap := by
    intro left right
    cases left <;> cases right <;>
      first
        | rfl
        | exact Std.OrientedOrd.eq_swap

instance : Std.TransCmp Storage.order where
  isLE_trans := by
    intro left middle right before after
    -- Values of different classes are decided by the classes alone.
    cases left <;> cases middle <;> cases right <;>
      first
        | rfl
        | exact absurd before Bool.false_ne_true
        | exact absurd after Bool.false_ne_true
        | exact Std.TransOrd.isLE_trans before after

instance : Std.OrientedCmp contentOrder where
  eq_swap := by
    intro left right
    unfold contentOrder
    cases storageOf left with
    | none =>
        cases storageOf right <;> rfl
    | some leftStored =>
        cases storageOf right with
        | none =>
            rfl
        | some rightStored =>
            exact @Std.OrientedCmp.eq_swap _ Storage.order _ _ _

instance : Std.TransCmp contentOrder where
  isLE_trans := by
    intro left middle right before after
    unfold contentOrder at *
    generalize storageOf left = leftStored at *
    generalize storageOf middle = middleStored at *
    generalize storageOf right = rightStored at *
    cases leftStored with
    | none =>
        cases rightStored <;> rfl
    | some leftStored =>
        cases middleStored with
        | none =>
            exact absurd before Bool.false_ne_true
        | some middleStored =>
            cases rightStored with
            | none =>
                exact absurd after Bool.false_ne_true
            | some rightStored =>
                exact @Std.TransCmp.isLE_trans _ Storage.order _ _ _ _
                  before after

end Sql

namespace SortKey

instance (key : SortKey) : Std.TransCmp key.order := by
  have byContent :
      Std.TransCmp fun left right : Record =>
        Sql.contentOrder
          (left.get? key.column) (right.get? key.column) :=
    { eq_swap := Std.OrientedCmp.eq_swap
      isLE_trans := Std.TransCmp.isLE_trans }
  cases direction : key.direction with
  | ascending =>
      have same :
          key.order = fun left right =>
            Sql.contentOrder
              (left.get? key.column) (right.get? key.column) := by
        funext left right
        rw [order, direction]
      rw [same]
      exact byContent
  | descending =>
      have turned :
          key.order = fun left right =>
            Sql.contentOrder
              (right.get? key.column) (left.get? key.column) := by
        funext left right
        rw [order, direction]
        exact Std.OrientedCmp.eq_swap.symm
      rw [turned]
      exact Std.TransCmp.opposite

/-- Records are compared by the first key, and by the others where it ties. -/
theorem orderBy_cons (key : SortKey) (rest : List SortKey) :
    orderBy (key :: rest) = compareLex key.order (orderBy rest) :=
  rfl

instance (keys : List SortKey) : Std.TransCmp (orderBy keys) := by
  induction keys with
  | nil =>
      exact
        { eq_swap := rfl
          isLE_trans := fun _ _ => rfl }
  | cons key rest inductionHypothesis =>
      rw [orderBy_cons]
      infer_instance

end SortKey

namespace Database

/-- Of two sorted records the earlier does not come after the later. -/
theorem pairwise_sorted (keys : List SortKey) (records : List Record) :
    (sorted keys records).Pairwise fun earlier later =>
      (SortKey.orderBy keys earlier later).isLE = true := by
  apply List.pairwise_mergeSort
  · intro first second third before after
    exact Std.TransCmp.isLE_trans before after
  · intro first second
    have turned :
        SortKey.orderBy keys first second =
          (SortKey.orderBy keys second first).swap :=
      Std.OrientedCmp.eq_swap
    rw [turned]
    cases SortKey.orderBy keys second first <;> rfl

/-- A page lists its records in the order asked for. -/
theorem pairwise_content_findPage
    (database : Database)
    (entity : Entity)
    (predicate : Predicate)
    (request : PageRequest) :
    (database.findPage entity predicate request).result.content.Pairwise
      fun earlier later =>
        (SortKey.orderBy (entity.resolveSort request.sort).result
          earlier later).isLE = true := by
  have window :
      (database.findPage entity predicate request).result.content.Sublist
        (sorted (entity.resolveSort request.sort).result
          (database.select entity predicate)) :=
    (List.take_sublist _ _).trans (List.drop_sublist _ _)
  exact (pairwise_sorted _ _).sublist window

end Database

end RecordQuery
