import Keyspace.Value.Written
import Keyspace.Proofs.Value.Paths

/-! # Values that can be written

    A value is written unless it shows an integer of too many digits
    (`written_eq_ok_iff`). Both of its forms show the same integers, so either
    both can be written or none.
-/

namespace Keyspace.Value

/-! ## Section 1: Writing -/

variable {v : Value} {form : Form} {s : String}

theorem written_of_isWritable (form : Form) (h : v.isWritable = true) :
    v.written form = .ok (v.spelled form) :=
  if_pos h

theorem written_of_not_isWritable (h : v.isWritable = false) :
    v.written form = .error .tooManyDigits :=
  if_neg (by simp [h])

theorem written_eq_ok_iff :
    v.written form = .ok s ↔ v.isWritable = true ∧ v.spelled form = s := by
  cases h : v.isWritable with
  | true => simp [written_of_isWritable form h]
  | false => simp [written_of_not_isWritable h]

/-! ## Section 2: What is in a value -/

theorem itemsWritable_eq_all (around : List Nat) (items : List Value) :
    itemsWritable around items = items.all (isWritableIn around) := by
  induction items with
  | nil => rfl
  | cons v rest ih => rw [itemsWritable, ih, List.all_cons]

theorem entriesWritable_eq_all (around : List Nat) (entries : List (String × Value)) :
    entriesWritable around entries = entries.all fun e => e.2.isWritableIn around := by
  induction entries with
  | nil => rfl
  | cons e rest ih => rw [entriesWritable, ih, List.all_cons]

theorem detailWritable_eq_all (around : List Nat) (d : ErrorDetail Value) :
    detailWritable around d = d.contents.all (isWritableIn around) := by
  cases d <;> simp [detailWritable, ErrorDetail.contents]

@[simp] theorem isWritable_int (i : Int) : (int i).isWritable = Text.isShort i := rfl

@[simp] theorem isWritable_pair (v w : Value) :
    (pair v w).isWritable = (v.isWritable && w.isWritable) := rfl

@[simp] theorem isWritable_text (t : String) : (text t).isWritable = true := rfl

@[simp] theorem isWritable_null : null.isWritable = true := rfl

@[simp] theorem isWritable_path (p : StorePath) : (path p).isWritable = true := rfl

@[simp] theorem isWritable_ofText? (t? : Option String) : (ofText? t?).isWritable = true := by
  cases t? <;> rfl

theorem isWritable_error (label : Nat) (e : PathError Value) :
    (error label e).isWritable =
      (e.message.isWritable && e.path.isWritable && e.bucket.isWritable &&
        e.detail.contents.all isWritable) := by
  rw [isWritable, isWritableIn, detailWritable_eq_all]
  rfl

end Keyspace.Value
