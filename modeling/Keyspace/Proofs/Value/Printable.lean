import Keyspace.Proofs.Text.Printable
import Keyspace.Proofs.Value.Paths
import Keyspace.Proofs.Value.Writable

/-! # Printable forms of values

    The literal form of every value is printable (`printable_literal`): texts in
    it are quoted, and everything else is made of fixed words and numbers. The
    plain form shows a text as it is, so the text of an error is printable if
    its message is; the rest of it is in literal form (`PathError.printable_text`).
-/

namespace Keyspace

open Text

/-! ## Section 1: Numbers -/

namespace Binary64

variable {digits : List Char}

theorem isPrintable_of_mem_toDigits {n : Nat} {c : Char} (h : c ∈ Nat.toDigits 10 n) :
    isPrintable c = true :=
  isPrintable_of_isNumeral (isNumeral_of_mem_toDigits h)

theorem isPrintable_of_mem_zeros {n : Nat} {c : Char} (h : c ∈ List.replicate n '0') :
    isPrintable c = true := by
  rw [List.eq_of_mem_replicate h]
  decide

theorem printable_exponentText (l : Layout) (e : Int) : Printable (l.exponentText e) := by
  have hsign : Printable (if e < 0 then "e-" else "e+") := by
    split <;> decide
  exact hsign.append (printable_ofList (List.forall_mem_append.mpr
    ⟨fun _ => isPrintable_of_mem_zeros, fun _ => isPrintable_of_mem_toDigits⟩))

/-- A point and zeros between printable digits do no harm. -/
theorem printable_positional (h : ∀ c ∈ digits, isPrintable c = true) (whole : Int) :
    Printable (positional digits whole) := by
  unfold positional
  split
  · exact Printable.append (by decide) (printable_ofList (List.forall_mem_append.mpr
      ⟨fun _ => isPrintable_of_mem_zeros, h⟩))
  split
  · refine Printable.append (printable_ofList (List.forall_mem_append.mpr
      ⟨h, fun _ => isPrintable_of_mem_zeros⟩)) (by decide)
  · have htake := printable_ofList fun c hc => h c (List.mem_of_mem_take (i := whole.toNat) hc)
    have hdrop := printable_ofList fun c hc => h c (List.mem_of_mem_drop (i := whole.toNat) hc)
    exact (htake.append (by decide)).append hdrop

theorem printable_layout (l : Layout) (d : Decimal) : Printable (l.write d) := by
  have hdigits : ∀ c ∈ Nat.toDigits 10 d.digits, isPrintable c = true :=
    fun _ => isPrintable_of_mem_toDigits
  unfold Layout.write
  split
  · decide
  dsimp only
  split
  · exact printable_positional hdigits _
  · have hfirst := printable_ofList fun c hc => hdigits c (List.mem_of_mem_take (i := 1) hc)
    have hrest := printable_ofList fun c hc => hdigits c (List.mem_of_mem_drop (i := 1) hc)
    refine (hfirst.append ?_).append (printable_exponentText l _)
    split
    · decide
    · exact Printable.append (by decide) hrest

theorem printable_write (x : Binary64) : Printable x.write := by
  cases x with
  | nan => decide
  | infinite negative => cases negative <;> decide
  | finite negative significand exponent =>
    refine Printable.append ?_ ?_
    · split <;> decide
    · split
      · decide
      · exact printable_layout layout _

end Binary64

/-! ## Section 2: Parts of a form -/

namespace Form

variable {name opening closing written : String} {parts : List String}

theorem printable_enclosed (hopening : Printable opening) (hclosing : Printable closing)
    (h : ∀ s ∈ parts, Printable s) : Printable (enclosed opening closing parts) :=
  (hopening.append (Printable.intercalate (by decide) h)).append hclosing

theorem printable_call (hname : Printable name) (h : ∀ s ∈ parts, Printable s) :
    Printable (call name parts) :=
  printable_enclosed (hname.append (by decide)) (by decide) h

theorem printable_named (hname : Printable name) (h : Printable written) :
    Printable (named name written) :=
  (hname.append (by decide)).append h

theorem printable_namedIf (wanted : Bool) (hname : Printable name) (h : Printable written) :
    ∀ s ∈ namedIf wanted name written, Printable s := by
  cases wanted with
  | false => exact nofun
  | true => exact List.forall_mem_singleton.mpr (printable_named hname h)

end Form

theorem ErrorKind.printable_name (k : ErrorKind) : Printable k.name := by
  cases k <;> decide

/-! ## Section 3: Values -/

namespace Value

theorem printable_typeName (v : Value) : Printable v.typeName := by
  cases v with
  | error l e => exact ErrorKind.printable_name _
  | _ =>
    rw [typeName]
    decide

theorem printable_writtenItems {around : List Nat} {items : List Value}
    (h : ∀ v ∈ items, Printable (v.writtenIn around .literal)) :
    ∀ s ∈ writtenItems around items, Printable s := by
  induction items with
  | nil => exact nofun
  | cons v rest ih =>
    obtain ⟨hv, hrest⟩ := List.forall_mem_cons.mp h
    exact List.forall_mem_cons.mpr ⟨hv, ih hrest⟩

theorem printable_writtenEntries {around : List Nat} {entries : List (String × Value)}
    (h : ∀ e ∈ entries, Printable (e.2.writtenIn around .literal)) :
    ∀ s ∈ writtenEntries around entries, Printable s := by
  induction entries with
  | nil => exact nofun
  | cons e rest ih =>
    obtain ⟨he, hrest⟩ := List.forall_mem_cons.mp h
    have hkey := (printable_quote e.1).append (t := ": ") (by decide)
    exact List.forall_mem_cons.mpr ⟨hkey.append he, ih hrest⟩

theorem printable_writtenDetail {around : List Nat} {d : ErrorDetail Value}
    (h : ∀ v ∈ d.contents, Printable (v.writtenIn around .literal)) :
    ∀ s ∈ writtenDetail around d, Printable s := by
  cases d with
  | indexOutOfRange i => exact Form.printable_namedIf _ (by decide) (h i List.mem_cons_self)
  | incompatible o r =>
    obtain ⟨ho, hr⟩ := List.forall_mem_cons.mp h
    exact List.forall_mem_append.mpr ⟨Form.printable_namedIf _ (by decide) ho,
      Form.printable_namedIf _ (by decide) (hr r List.mem_cons_self)⟩
  | unsupported o => exact Form.printable_namedIf _ (by decide) (h o List.mem_cons_self)
  | _ => exact nofun

/-- What an error tells besides its message. -/
theorem printable_context {around : List Nat} {e : PathError Value}
    (hp : Printable (e.path.writtenIn around .literal))
    (hb : Printable (e.bucket.writtenIn around .literal))
    (hd : ∀ v ∈ e.detail.contents, Printable (v.writtenIn around .literal)) :
    ∀ s ∈ Form.namedIf (!e.path.isNull) "path" (e.path.writtenIn around .literal) ++
        Form.namedIf (!e.bucket.isNull) "bucket" (e.bucket.writtenIn around .literal) ++
      writtenDetail around e.detail, Printable s :=
  List.forall_mem_append.mpr
    ⟨List.forall_mem_append.mpr ⟨Form.printable_namedIf _ (by decide) hp,
      Form.printable_namedIf _ (by decide) hb⟩, printable_writtenDetail hd⟩

/-- Wherever a value stands, its literal form is printable. -/
theorem printable_writtenIn (around : List Nat) (v : Value) :
    Printable (v.writtenIn around .literal) := by
  induction v using Value.induction generalizing around with
  | null =>
    rw [writtenIn]
    decide
  | bool b =>
    rw [writtenIn]
    split <;> decide
  | int i => exact printable_int i
  | float l x => exact Binary64.printable_write x
  | text s => exact printable_quote s
  | enclosing l =>
    rw [writtenIn]
    decide
  | list l items ih =>
    rw [writtenIn]
    split
    · decide
    · exact Form.printable_enclosed (by decide) (by decide)
        (printable_writtenItems fun v hv => ih v hv _)
  | pair a b iha ihb =>
    exact Form.printable_enclosed (by decide) (by decide)
      (List.forall_mem_cons.mpr ⟨iha _, List.forall_mem_singleton.mpr (ihb _)⟩)
  | dict l entries ih =>
    rw [writtenIn]
    split
    · decide
    · exact Form.printable_enclosed (by decide) (by decide)
        (printable_writtenEntries fun e he => ih e he _)
  | path p =>
    exact Form.printable_call (by decide) (List.forall_mem_singleton.mpr (printable_quote _))
  | fileSystem f =>
    exact Form.printable_call (by decide)
      (List.forall_mem_singleton.mpr (Form.printable_named (by decide) (printable_quote _)))
  | config c ihe iho =>
    rw [writtenIn]
    split
    · decide
    · exact Form.printable_call (by decide) (List.forall_mem_cons.mpr
        ⟨Form.printable_named (by decide) (ihe _),
          List.forall_mem_singleton.mpr (Form.printable_named (by decide) (iho _))⟩)
  | location label l ihb =>
    rw [writtenIn]
    split
    · decide
    · exact Form.printable_call (by decide) (List.forall_mem_cons.mpr
        ⟨Form.printable_named (by decide) (ihb _),
          List.forall_mem_singleton.mpr (Form.printable_named (by decide) (printable_quote _))⟩)
  | error label e ihm ihp ihb ihd =>
    exact Form.printable_call (ErrorKind.printable_name _) (List.forall_mem_cons.mpr
      ⟨ihm _, printable_context (ihp _) (ihb _) fun v hv => ihd v hv _⟩)

/-- **Literal forms are printable.** -/
theorem printable_literal {v : Value} {s : String} (h : v.literal = .ok s) : Printable s := by
  rw [← (written_eq_ok_iff.mp h).2]
  exact printable_writtenIn [] v

/-- Numbers look the same in both forms. -/
theorem printable_plain_of_number {v : Value} (h : v.number?.isSome = true) :
    Printable (v.spelled .plain) := by
  cases v with
  | bool b => exact printable_writtenIn [] (.bool b)
  | int i => exact printable_writtenIn [] (.int i)
  | float l x => exact printable_writtenIn [] (.float l x)
  | _ => cases h

end Value

/-! ## Section 4: Errors -/

namespace PathError

theorem printable_literal {e : PathError Value} {s : String} (h : e.literal = .ok s) :
    Printable s :=
  Value.printable_literal h

/-- Only the message of an error is shown as it is. -/
theorem printable_text {e : PathError Value} {s : String}
    (hmessage : Printable (e.message.spelled .plain)) (h : e.text = .ok s) : Printable s := by
  rw [← (Value.written_eq_ok_iff.mp h).2]
  have hcontext := Value.printable_context (e := e) (Value.printable_writtenIn [] e.path)
    (Value.printable_writtenIn [] e.bucket) fun v _ => Value.printable_writtenIn [] v
  refine Printable.intercalate (by decide) ?_
  split
  · exact hcontext
  · exact List.forall_mem_cons.mpr ⟨hmessage, hcontext⟩

end PathError

end Keyspace
