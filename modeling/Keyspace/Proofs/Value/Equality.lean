import Keyspace.Value.Equality
import Keyspace.Value.Hash
import Keyspace.Proofs.Value.Entries

/-! # Equality of plain values

    Plain values are what can be written down without a point: null, truth
    values, integers, texts, and lists and dictionaries of them at any depth.
    Which of them are equal is said by `Value.Equal`, without an order in which
    to look at things: numbers of one value, lists item by item, and
    dictionaries at each key.

    Comparing goes through the first dictionary only and relies on the sizes for
    the rest. It decides `Equal` all the same (`decides_alikeWith`), since each
    key occurs once. So it is an equivalence, and values that are equal have the
    same hash or none (`Equal.hashKey_eq`).
-/

namespace Keyspace

/-! ## Section 1: Plain values -/

namespace Value

/-- Null, a truth value, an integer or a text, or a list or a dictionary of such
    values, with each key once. -/
inductive IsPlain : Value → Prop where
  | null : IsPlain .null
  | bool (b : Bool) : IsPlain (.bool b)
  | int (i : Int) : IsPlain (.int i)
  | text (s : String) : IsPlain (.text s)
  | list {label : Option Nat} {items : List Value} :
    (∀ v ∈ items, IsPlain v) → IsPlain (.list label items)
  | dict {label : Option Nat} {entries : List (String × Value)} :
    (Entries.keys entries).Nodup → (∀ e ∈ entries, IsPlain e.2) → IsPlain (.dict label entries)

attribute [simp] IsPlain.null IsPlain.bool IsPlain.int IsPlain.text

@[simp] theorem isPlain_list {label : Option Nat} {items : List Value} :
    (list label items).IsPlain ↔ ∀ v ∈ items, v.IsPlain := by
  refine ⟨fun h => ?_, .list⟩
  cases h with
  | list hitems => exact hitems

@[simp] theorem isPlain_dict {label : Option Nat} {entries : List (String × Value)} :
    (dict label entries).IsPlain ↔
      (Entries.keys entries).Nodup ∧ ∀ e ∈ entries, e.2.IsPlain := by
  refine ⟨fun h => ?_, fun h => .dict h.1 h.2⟩
  cases h with
  | dict hkeys hvalues => exact ⟨hkeys, hvalues⟩

/-- Values that are equal: both null, the same number, the same text, lists of
    one length with equal items at each place, or dictionaries of the same keys
    with equal values at each of them. -/
inductive Equal : Value → Value → Prop where
  | null : Equal .null .null
  | number {v w : Value} {q : Rat} :
    v.number? = some (.finite q) → w.number? = some (.finite q) → Equal v w
  | text (s : String) : Equal (.text s) (.text s)
  | list {l m : Option Nat} {xs ys : List Value} :
    xs.length = ys.length →
    (∀ (i : Nat) (v w : Value), xs[i]? = some v → ys[i]? = some w → Equal v w) →
    Equal (.list l xs) (.list m ys)
  | dict {l m : Option Nat} {xs ys : List (String × Value)} :
    (∀ k, k ∈ Entries.keys xs ↔ k ∈ Entries.keys ys) →
    (∀ (k : String) (v w : Value), Entries.get? xs k = some v → Entries.get? ys k = some w →
      Equal v w) →
    Equal (.dict l xs) (.dict m ys)

/-! ## Section 2: An equivalence -/

theorem IsPlain.equal_refl {v : Value} (h : v.IsPlain) : v.Equal v := by
  induction h with
  | null => exact .null
  | bool b => exact .number rfl rfl
  | int i => exact .number rfl rfl
  | text s => exact .text s
  | list _ ih =>
    refine .list rfl fun i v w hv hw => ?_
    obtain rfl : v = w := Option.some.inj (hv.symm.trans hw)
    exact ih v (List.mem_of_getElem? hv)
  | dict _ _ ih =>
    refine .dict (fun _ => Iff.rfl) fun k v w hv hw => ?_
    obtain rfl : v = w := Option.some.inj (hv.symm.trans hw)
    exact ih (k, v) (Entries.mem_of_get? hv)

theorem Equal.symm {v w : Value} (h : v.Equal w) : w.Equal v := by
  induction h with
  | null => exact .null
  | number hv hw => exact .number hw hv
  | text s => exact .text s
  | list hlength _ ih => exact .list hlength.symm fun i w v hw hv => ih i v w hv hw
  | dict hkeys _ ih => exact .dict (fun k => (hkeys k).symm) fun k w v hw hv => ih k v w hv hw

theorem Equal.number?_eq {v w : Value} (h : v.Equal w) : v.number? = w.number? := by
  cases h with
  | number hv hw => rw [hv, hw]
  | _ => rfl

theorem Equal.trans {u v w : Value} (huv : u.Equal v) (hvw : v.Equal w) : u.Equal w := by
  induction huv generalizing w with
  | null => exact hvw
  | number hu hv => exact .number hu (hvw.number?_eq ▸ hv)
  | text s => exact hvw
  | list hlength _ ih =>
    cases hvw with
    | number hv _ => cases hv
    | list hlength' hitems =>
      refine .list (hlength.trans hlength') fun i u w hu hw => ?_
      -- the list in the middle has an item at that place as well
      obtain ⟨hi, -⟩ := List.getElem?_eq_some_iff.mp hu
      have hv := List.getElem?_eq_getElem (hlength ▸ hi)
      exact ih i u _ hu hv (hitems i _ w hv hw)
  | dict hkeys _ ih =>
    cases hvw with
    | number hv _ => cases hv
    | dict hkeys' hvalues =>
      refine .dict (fun k => (hkeys k).trans (hkeys' k)) fun k u w hu hw => ?_
      have hk := (hkeys k).mp (Entries.mem_keys_of_mem (Entries.mem_of_get? hu))
      obtain ⟨v, hv⟩ := Entries.exists_of_mem_keys hk
      exact ih k u v hu hv (hvalues k v w hv hw)

end Value

/-! ## Section 3: Deciding equality -/

/-- The outcome is an answer, and tells whether `P` holds. -/
def Decides (x : Except Misuse Bool) (P : Prop) : Prop := ∃ b, x = .ok b ∧ (b = true ↔ P)

namespace Decides

variable {x y : Except Misuse Bool} {P Q : Prop}

theorem yes (h : P) : Decides (.ok true) P := ⟨true, rfl, iff_of_true rfl h⟩

theorem no (h : ¬P) : Decides (.ok false) P := ⟨false, rfl, iff_of_false nofun h⟩

theorem ok {b : Bool} (h : b = true ↔ P) : Decides (.ok b) P := ⟨b, rfl, h⟩

theorem congr (h : Decides x P) (hiff : P ↔ Q) : Decides x Q := by
  obtain ⟨b, hx, hb⟩ := h
  exact ⟨b, hx, hb.trans hiff⟩

theorem both (hx : Decides x P) (hy : Decides y Q) : Decides (both x y) (P ∧ Q) := by
  obtain ⟨b, rfl, hb⟩ := hx
  cases b with
  | false => exact .no fun h => nomatch hb.mpr h.1
  | true => exact hy.congr (by rw [and_iff_right (hb.mp rfl)])

theorem eq_ok_true_iff (h : Decides x P) : x = .ok true ↔ P := by
  obtain ⟨b, rfl, hb⟩ := h
  rw [Except.ok.injEq, hb]

/-- Two outcomes that decide the same are the same. -/
theorem unique (hx : Decides x P) (hy : Decides y P) : x = y := by
  obtain ⟨b, rfl, hb⟩ := hx
  obtain ⟨c, rfl, hc⟩ := hy
  rw [Bool.eq_iff_iff.mpr (hb.trans hc.symm)]

end Decides

namespace Value

variable {within : Value → Value → Except Misuse Bool} {v w : Value}

theorem same_finite (p q : Rat) : (Extended.finite p).same (.finite q) = true ↔ p = q := by
  rw [Extended.same, Extended.compare?, beq_iff_eq, Option.some.injEq]
  split
  · next hlt => exact iff_of_false nofun (Rat.ne_of_lt hlt)
  split
  · next hgt => exact iff_of_false nofun (Rat.ne_of_gt hgt)
  · next hlt hgt => exact iff_of_true rfl (Rat.le_antisymm (Rat.not_lt.mp hgt) (Rat.not_lt.mp hlt))

theorem decides_sameNumber {p q : Rat} (hv : v.number? = some (.finite p))
    (hw : w.number? = some (.finite q)) : Decides (.ok (v.sameNumber w)) (v.Equal w) := by
  refine .ok ?_
  rw [sameNumber, hv, hw]
  dsimp only
  rw [same_finite]
  constructor
  · rintro rfl
    exact .number hv hw
  · intro h
    simpa [hv, hw] using h.number?_eq

/-- Items are compared one by one. -/
theorem decides_itemsAlike {xs ys : List Value} (hlength : xs.length = ys.length)
    (h : ∀ v ∈ xs, ∀ w : Value, w.IsPlain → Decides (v.alikeWith within w) (v.Equal w))
    (hys : ∀ w ∈ ys, w.IsPlain) :
    Decides (itemsAlike within xs ys)
      (∀ (i : Nat) (v w : Value), xs[i]? = some v → ys[i]? = some w → v.Equal w) := by
  induction xs generalizing ys with
  | nil =>
    obtain rfl := List.length_eq_zero_iff.mp hlength.symm
    exact .yes (by simp)
  | cons v xs ih =>
    obtain ⟨w, ys, rfl⟩ := List.exists_cons_of_length_eq_add_one hlength.symm
    obtain ⟨hv, hxs⟩ := List.forall_mem_cons.mp h
    obtain ⟨hw, hys⟩ := List.forall_mem_cons.mp hys
    rw [itemsAlike]
    refine ((hv w hw).both (ih (Nat.succ.inj hlength) hxs hys)).congr ?_
    constructor
    · rintro ⟨hfirst, hrest⟩ (_ | i) v' w' hv' hw'
      · obtain rfl := Option.some.inj hv'
        obtain rfl := Option.some.inj hw'
        exact hfirst
      · exact hrest i v' w' hv' hw'
    · exact fun hall => ⟨hall 0 v w rfl rfl, fun i => hall (i + 1)⟩

/-- Each entry is compared with the one of the same key. -/
theorem decides_entriesAlike {xs ys : List (String × Value)}
    (h : ∀ e ∈ xs, ∀ w : Value, w.IsPlain → Decides (e.2.alikeWith within w) (e.2.Equal w))
    (hys : ∀ e ∈ ys, e.2.IsPlain) :
    Decides (entriesAlike within xs ys)
      (∀ e ∈ xs, ∃ w, Entries.get? ys e.1 = some w ∧ e.2.Equal w) := by
  induction xs with
  | nil => exact .yes (by simp)
  | cons e xs ih =>
    obtain ⟨k, v⟩ := e
    obtain ⟨hv, hxs⟩ := List.forall_mem_cons.mp h
    rw [entriesAlike]
    cases hget : Entries.get? ys k with
    | none =>
      refine .no fun hall => ?_
      obtain ⟨w, hw, -⟩ := hall (k, v) List.mem_cons_self
      rw [hget] at hw
      cases hw
    | some w =>
      have hw := hys _ (Entries.mem_of_get? hget)
      refine ((hv w hw).both (ih hxs)).congr ?_
      rw [List.forall_mem_cons]
      refine and_congr_left' ?_
      simp [hget]

/-- Dictionaries of one size are equal as soon as all entries of the first have
    equal ones in the second. -/
theorem equal_dict_iff {l m : Option Nat} {xs ys : List (String × Value)}
    (hxs : (Entries.keys xs).Nodup) (hys : (Entries.keys ys).Nodup) :
    (dict l xs).Equal (dict m ys) ↔
      xs.length = ys.length ∧ ∀ e ∈ xs, ∃ w, Entries.get? ys e.1 = some w ∧ e.2.Equal w := by
  constructor
  · intro h
    cases h with
    | number h _ => cases h
    | dict hkeys hvalues =>
      refine ⟨Entries.length_eq_of_keys hxs hys hkeys, fun e he => ?_⟩
      obtain ⟨w, hw⟩ := Entries.exists_of_mem_keys ((hkeys e.1).mp (Entries.mem_keys_of_mem he))
      exact ⟨w, hw, hvalues e.1 e.2 w (Entries.get?_of_mem hxs he) hw⟩
  · rintro ⟨hlength, hentries⟩
    -- all keys of the first are keys of the second, which has no room for others
    have hsubset : ∀ k ∈ Entries.keys xs, k ∈ Entries.keys ys := by
      intro k hk
      obtain ⟨e, he, rfl⟩ := List.mem_map.mp hk
      obtain ⟨w, hw, -⟩ := hentries e he
      exact Entries.mem_keys_of_mem (e := (e.1, w)) (Entries.mem_of_get? hw)
    refine .dict (fun k => ⟨hsubset k, Entries.mem_keys_of_subset hxs hlength hsubset⟩) ?_
    intro k v w hv hw
    obtain ⟨w', hw', hequal⟩ := hentries (k, v) (Entries.mem_of_get? hv)
    obtain rfl : w' = w := Option.some.inj (hw'.symm.trans hw)
    exact hequal

theorem equal_list_iff {l m : Option Nat} {xs ys : List Value} :
    (list l xs).Equal (list m ys) ↔
      xs.length = ys.length ∧
        ∀ (i : Nat) (v w : Value), xs[i]? = some v → ys[i]? = some w → v.Equal w := by
  constructor
  · intro h
    cases h with
    | number h _ => cases h
    | list hlength hitems => exact ⟨hlength, hitems⟩
  · rintro ⟨hlength, hitems⟩
    exact .list hlength hitems

/-- **Comparing plain values decides their equality**, whatever is done about
    dictionaries within themselves. -/
theorem decides_alikeWith (hv : v.IsPlain) (hw : w.IsPlain) :
    Decides (v.alikeWith within w) (v.Equal w) := by
  -- values of different types are equal only if both are numbers
  induction hv generalizing w with
  | null =>
    cases hw with
    | null => exact .yes .null
    | _ => exact .no fun h => by cases h with | number hv _ => cases hv
  | bool b =>
    cases hw with
    | bool c => exact decides_sameNumber rfl rfl
    | int j => exact decides_sameNumber rfl rfl
    | _ => exact .no fun h => by cases h with | number _ hw => cases hw
  | int i =>
    cases hw with
    | bool c => exact decides_sameNumber rfl rfl
    | int j => exact decides_sameNumber rfl rfl
    | _ => exact .no fun h => by cases h with | number _ hw => cases hw
  | text s =>
    cases hw with
    | text t =>
      refine .ok ?_
      rw [beq_iff_eq]
      constructor
      · rintro rfl
        exact .text s
      · intro h
        cases h with
        | number h _ => cases h
        | text _ => rfl
    | _ => exact .no fun h => by cases h with | number hv _ => cases hv
  | @list l xs _ ih =>
    cases hw with
    | @list m ys hys =>
      rw [alikeWith]
      refine Decides.congr ?_ equal_list_iff.symm
      split
      · next hlength =>
        refine (decides_itemsAlike hlength (fun v hv w hw => ih v hv hw) hys).congr ?_
        rw [and_iff_right hlength]
      · next hlength => exact .no fun h => hlength h.1
    | _ => exact .no fun h => by cases h with | number hv _ => cases hv
  | @dict l xs hxs _ ih =>
    cases hw with
    | @dict m ys hys hplain =>
      rw [alikeWith]
      refine Decides.congr ?_ (equal_dict_iff hxs hys).symm
      split
      · next hlength =>
        refine (decides_entriesAlike (fun e he w hw => ih e he hw) hplain).congr ?_
        rw [and_iff_right hlength]
      · next hlength => exact .no fun h => hlength h.1
    | _ => exact .no fun h => by cases h with | number hv _ => cases hv

/-! ## Section 4: Hashes -/

theorem hashKey_of_number {q : Rat} (h : v.number? = some (.finite q)) :
    v.hashKey = .ok (.number (Extended.rationalResidue q)) := by
  cases v with
  | bool b =>
    cases h
    rfl
  | int i =>
    cases h
    rfl
  | float l x =>
    have hx : x.exact = .finite q := Option.some.inj h
    rw [hashKey, HashKey.ofFloat, hx]
    rfl
  | _ => cases h

/-- **Equal values have the same hash**, or none for the same reason. -/
theorem Equal.hashKey_eq (h : v.Equal w) : v.hashKey = w.hashKey := by
  cases h with
  | number hv hw => rw [hashKey_of_number hv, hashKey_of_number hw]
  | _ => rfl

end Value

end Keyspace
