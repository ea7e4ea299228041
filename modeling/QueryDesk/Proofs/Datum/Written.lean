import QueryDesk.Datum.Printed

namespace QueryDesk

namespace Whole

theorem writable_of_small {n : Int} (small : n.natAbs ≤ longest) : Writable n := by
  have wide (k : Nat) : k < Nat.pow 10 k := Nat.lt_pow_self (by decide)
  unfold Writable bound
  exact Nat.lt_of_le_of_lt small (wide longest)

theorem not_writable_bound : ¬ Writable (bound : Int) := Nat.lt_irrefl bound

end Whole

namespace Datum

inductive Holds (n : Int) : Datum → Prop
  | int : Holds n (.int n)
  | list {items d} (member : d ∈ items) (holds : Holds n d) : Holds n (.list items)
  | tuple {items d} (member : d ∈ items) (holds : Holds n d) : Holds n (.tuple items)
  | key {entries key value} (member : (key, value) ∈ entries) (holds : Holds n key) :
    Holds n (.map entries)
  | value {entries key value} (member : (key, value) ∈ entries) (holds : Holds n value) :
    Holds n (.map entries)

theorem areWritable_eq_all (items : List Datum) : areWritable items = items.all isWritable := by
  induction items with
  | nil => rfl
  | cons item rest ih => rw [areWritable, ih, List.all_cons]

theorem haveWritable_eq_all (entries : List (Datum × Datum)) :
    haveWritable entries = entries.all fun entry => entry.1.isWritable && entry.2.isWritable := by
  induction entries with
  | nil => rfl
  | cons entry rest ih => rw [haveWritable, ih, List.all_cons]

theorem isWritable_of_holds {d : Datum} {n : Int} (holds : d.Holds n)
    (writable : d.isWritable = true) : Whole.Writable n := by
  induction holds with
  | int => exact of_decide_eq_true writable
  | list member _ ih | tuple member _ ih =>
    rw [isWritable, areWritable_eq_all] at writable
    exact ih (List.all_eq_true.mp writable _ member)
  | key member _ ih =>
    rw [isWritable, haveWritable_eq_all] at writable
    exact ih (Bool.and_eq_true_iff.mp (List.all_eq_true.mp writable _ member)).1
  | value member _ ih =>
    rw [isWritable, haveWritable_eq_all] at writable
    exact ih (Bool.and_eq_true_iff.mp (List.all_eq_true.mp writable _ member)).2

mutual

theorem isWritable_of_all (d : Datum) (all : ∀ n, d.Holds n → Whole.Writable n) :
    d.isWritable = true := by
  cases d with
  | int n => exact decide_eq_true (all n .int)
  | list items =>
    exact areWritable_of_all items fun d member n holds => all n (.list member holds)
  | tuple items =>
    exact areWritable_of_all items fun d member n holds => all n (.tuple member holds)
  | map entries =>
    exact haveWritable_of_all entries (fun key value member n holds => all n (.key member holds))
      fun key value member n holds => all n (.value member holds)
  | _ => rfl

theorem areWritable_of_all (items : List Datum)
    (all : ∀ d ∈ items, ∀ n, d.Holds n → Whole.Writable n) : areWritable items = true := by
  match items with
  | [] => rfl
  | item :: rest =>
    have first := isWritable_of_all item (all item List.mem_cons_self)
    have others := areWritable_of_all rest fun d later => all d (List.mem_cons_of_mem _ later)
    exact Bool.and_eq_true_iff.mpr ⟨first, others⟩

theorem haveWritable_of_all (entries : List (Datum × Datum))
    (keys : ∀ key value, (key, value) ∈ entries → ∀ n, key.Holds n → Whole.Writable n)
    (values : ∀ key value, (key, value) ∈ entries → ∀ n, value.Holds n → Whole.Writable n) :
    haveWritable entries = true := by
  match entries with
  | [] => rfl
  | (key, value) :: rest =>
    have left := isWritable_of_all key (keys key value List.mem_cons_self)
    have right := isWritable_of_all value (values key value List.mem_cons_self)
    have others := haveWritable_of_all rest
      (fun key value later => keys key value (List.mem_cons_of_mem _ later))
      fun key value later => values key value (List.mem_cons_of_mem _ later)
    exact Bool.and_eq_true_iff.mpr ⟨Bool.and_eq_true_iff.mpr ⟨left, right⟩, others⟩

end

theorem isWritable_iff {d : Datum} :
    d.isWritable = true ↔ ∀ n, d.Holds n → Whole.Writable n :=
  ⟨fun writable _ holds => isWritable_of_holds holds writable, isWritable_of_all d⟩

end Datum

end QueryDesk
