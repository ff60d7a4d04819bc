import DaemonChoir.Foundation.JsonText
import Mathlib.Data.List.Nodup
set_option autoImplicit false

/-!
# Foundation: records as JSON values

A record is written as an object with its fields in order.  It is read from an object with
members in any order, unknown ones among them, or from an array of the values alone.
-/

namespace DaemonChoir.Foundation

open JsonText

namespace Json

/-! ## Reading -/

/-- The value of the only member with a name. -/
def member (members : List (String × Json)) (name : String) : Option Json :=
  match members.filter fun member => member.1 = name with
  | [member] => some member.2
  | _ => none

/-- The fields of a record. -/
def fields (names : List String) : Json → Option (List Json)
  | .object members => names.mapM (member members)
  | .array items => if items.length = names.length then some items else none
  | _ => none

/-- `true` or `false`. -/
def bool? : Json → Option Bool
  | .bool value => some value
  | _ => none

/-- A string. -/
def string? : Json → Option String
  | .string text => some text
  | _ => none

/-- The items of an array, each read by the same function. -/
def list? {α : Type} (read : Json → Option α) : Json → Option (List α)
  | .array items => items.mapM read
  | _ => none

/-- A natural number: a literal of digits alone. -/
def nat? : Json → Option ℕ
  | .number literal =>
      if literal.chars.all Char.isDigit then some (Nat.ofDigitChars 10 literal.chars 0) else none
  | _ => none

/-- A natural number of 64 bits. -/
def u64? (json : Json) : Option UInt64 :=
  match json.nat? with
  | some n => if n < UInt64.size then some (UInt64.ofNat n) else none
  | none => none

/-! ## Writing -/

theorem toDigits_eq_cons {n : ℕ} (hn : 0 < n) :
    ∃ c rest, Nat.toDigits 10 n = c :: rest ∧ c ≠ '0' := by
  induction n using Nat.strong_induction_on with
  | _ n ih =>
      rw [Nat.toDigits_eq_if (by decide)]
      split
      · exact ⟨_, _, rfl, fun hzero => absurd (Nat.digitChar_eq_zero.mp hzero) (Nat.ne_of_gt hn)⟩
      · rename_i hbase
        obtain ⟨c, rest, hdigits, hc⟩ := ih (n / 10) (by omega) (by omega)
        exact ⟨c, rest ++ [Nat.digitChar (n % 10)], by rw [hdigits]; rfl, hc⟩

theorem isDigit_of_mem_toDigits {n : ℕ} : ∀ c ∈ Nat.toDigits 10 n, c.isDigit = true := by
  intro c hmem
  exact Nat.isDigit_of_mem_toDigits (by decide) (by decide) hmem

theorem isWhole_toDigits (n : ℕ) : isWhole (Nat.toDigits 10 n) = true := by
  rcases Nat.eq_zero_or_pos n with rfl | hn
  · rfl
  · obtain ⟨c, rest, hdigits, hc⟩ := toDigits_eq_cons hn
    rw [hdigits]
    simp [isWhole, hc]

/-- The digits of a number are a literal. -/
theorem isNumber_toDigits (n : ℕ) : isNumber (Nat.toDigits 10 n) = true := by
  have hend : ∀ c ∈ ([] : List Char).head?, c.isDigit = false := fun _ hc => by cases hc
  have hspan := Exposition.span_append (isDigit_of_mem_toDigits (n := n)) hend
  rw [List.append_nil] at hspan
  have hunsigned : isUnsigned (Nat.toDigits 10 n) = true := by
    rw [isUnsigned, hspan.1, hspan.2, isWhole_toDigits]
    rfl
  cases hdigits : Nat.toDigits 10 n with
  | nil => exact absurd hdigits Nat.toDigits_ne_nil
  | cons c rest =>
      have hdigit := isDigit_of_mem_toDigits c (hdigits ▸ List.mem_cons_self)
      have hminus : ¬ (c == '-') = true := by
        intro h
        rw [beq_iff_eq.mp h] at hdigit
        cases hdigit
      rw [hdigits] at hunsigned
      rw [isNumber, if_neg hminus]
      exact hunsigned

/-- A natural number. -/
def ofNat (n : ℕ) : Json := .number ⟨Nat.toDigits 10 n, isNumber_toDigits n⟩

@[simp] theorem nat?_ofNat (n : ℕ) : (ofNat n).nat? = some n := by
  have hall : (Nat.toDigits 10 n).all Char.isDigit = true :=
    List.all_eq_true.mpr isDigit_of_mem_toDigits
  simp [nat?, ofNat, hall, Nat.ofDigitChars_ten_toDigits]

@[simp] theorem u64?_ofNat (n : UInt64) : (ofNat n.toNat).u64? = some n := by
  simp [u64?, n.toNat_lt_size]

@[simp] theorem bool?_bool (value : Bool) : (Json.bool value).bool? = some value := rfl

@[simp] theorem string?_string (text : String) : (Json.string text).string? = some text := rfl

/-- A list that was written item by item reads item by item. -/
theorem list?_map {α β : Type} {write : α → Json} {read : Json → Option β} {image : α → Option β}
    (hread : ∀ value, read (write value) = image value) (values : List α) :
    list? read (.array (values.map write)) = values.mapM image := by
  rw [list?, List.mapM_map]
  congr 1
  funext value
  exact hread value

/-! ## Records -/

theorem member_of_zip {names : List String} (hnodup : names.Nodup) {values : List Json}
    (hlength : values.length = names.length) {position : ℕ} {name : String} {value : Json}
    (hname : names[position]? = some name) (hvalue : values[position]? = some value) :
    member (names.zip values) name = some value := by
  induction names generalizing values position with
  | nil => cases hname
  | cons first names ih =>
      obtain ⟨hfirst, hnames⟩ := List.nodup_cons.mp hnodup
      cases values with
      | nil => cases hvalue
      | cons head values =>
          have habsent : ∀ other, other ∉ names →
              (names.zip values).filter (fun member => member.1 = other) = [] := by
            intro other hother
            refine List.filter_eq_nil_iff.mpr fun pair hmem => ?_
            have hpair := (List.of_mem_zip hmem).1
            simp only [decide_eq_true_eq]
            rintro rfl
            exact hother hpair
          cases position with
          | zero =>
              cases hname
              cases hvalue
              simp [member, habsent _ hfirst]
          | succ position =>
              have hmem : name ∈ names := List.mem_of_getElem? hname
              have hne : first ≠ name := fun h => hfirst (h ▸ hmem)
              have hlater := ih hnames (Nat.succ.inj hlength) hname hvalue
              simpa [member, hne] using hlater

/-- An object with the names and the values has these fields. -/
theorem fields_zip {names : List String} (hnodup : names.Nodup) (values : List Json)
    (hlength : values.length = names.length) :
    fields names (.object (names.zip values)) = some values := by
  have hmember : ∀ position name value, names[position]? = some name →
      values[position]? = some value → member (names.zip values) name = some value :=
    fun _ _ _ hname hvalue => member_of_zip hnodup hlength hname hvalue
  generalize hread : member (names.zip values) = read at hmember
  rw [fields, hread]
  clear hread hnodup
  induction names generalizing values with
  | nil =>
      rw [List.length_eq_zero_iff.mp hlength]
      rfl
  | cons name names ih =>
      cases values with
      | nil => cases hlength
      | cons value values =>
          have hfirst := hmember 0 name value rfl rfl
          have hlater := ih values (Nat.succ.inj hlength) fun position => hmember (position + 1)
          simp [hfirst, hlater]

end Json

end DaemonChoir.Foundation
