import DaemonChoir.Foundation.Json
import DaemonChoir.Foundation.Rendering
set_option autoImplicit false

/-!
# Foundation: reading a JSON text back

The text of a value reads as that value, whatever characters its strings and names hold.
The reader's counter is for the recursion only: the length of the text is always enough.
-/

namespace DaemonChoir.Foundation

open JsonText

/-- To prove something of every value, prove it of arrays and objects from what they hold. -/
@[elab_as_elim]
theorem Json.induction {motive : Json → Prop} (null : motive .null)
    (bool : ∀ value, motive (.bool value)) (number : ∀ literal, motive (.number literal))
    (string : ∀ text, motive (.string text))
    (array : ∀ items, (∀ item ∈ items, motive item) → motive (.array items))
    (object : ∀ members, (∀ member ∈ members, motive member.2) → motive (.object members))
    (json : Json) : motive json :=
  Json.rec (motive_1 := motive) (motive_2 := fun items => ∀ item ∈ items, motive item)
    (motive_3 := fun members => ∀ member ∈ members, motive member.2)
    (motive_4 := fun member => motive member.2)
    null bool number string array object
    (List.forall_mem_nil _) (fun _ _ hitem hitems => List.forall_mem_cons.mpr ⟨hitem, hitems⟩)
    (List.forall_mem_nil _)
    (fun _ _ hmember hmembers => List.forall_mem_cons.mpr ⟨hmember, hmembers⟩)
    (fun _ _ hvalue => hvalue) json

namespace JsonText

/-! ## Number literals -/

theorem forall_of_isDigits {chars : List Char} (h : isDigits chars = true) :
    ∀ c ∈ chars, isNumberChar c = true := by
  intro c hmem
  rw [isDigits, Bool.and_eq_true, List.all_eq_true] at h
  have hdigit := h.2 c hmem
  simp [isNumberChar, hdigit]

theorem forall_of_isExponent {chars : List Char} (h : isExponent chars = true) :
    ∀ c ∈ chars, isNumberChar c = true := by
  match chars with
  | [] => exact List.forall_mem_nil _
  | [c] => simp [isExponent] at h
  | c :: sign :: digits =>
      simp only [isExponent, Bool.and_eq_true, Bool.or_eq_true, beq_iff_eq] at h
      obtain ⟨hexponent, hdigits⟩ := h
      refine List.forall_mem_cons.mpr ⟨?_, ?_⟩
      · rcases hexponent with rfl | rfl <;> rfl
      · split at hdigits
        · rename_i hsign
          refine List.forall_mem_cons.mpr ⟨?_, forall_of_isDigits hdigits⟩
          rcases hsign with rfl | rfl <;> rfl
        · exact forall_of_isDigits hdigits

theorem forall_of_isFraction {chars : List Char} (h : isFraction chars = true) :
    ∀ c ∈ chars, isNumberChar c = true := by
  cases chars with
  | nil => exact List.forall_mem_nil _
  | cons c rest =>
      simp only [isFraction] at h
      split at h
      · rename_i hpoint
        rw [Bool.and_eq_true] at h
        refine List.forall_mem_cons.mpr ⟨by simp [isNumberChar, beq_iff_eq.mp hpoint], ?_⟩
        rw [← List.takeWhile_append_dropWhile (p := Char.isDigit) (l := rest)]
        exact List.forall_mem_append.mpr ⟨forall_of_isDigits h.1, forall_of_isExponent h.2⟩
      · exact forall_of_isExponent h

theorem forall_of_isUnsigned {chars : List Char} (h : isUnsigned chars = true) :
    ∀ c ∈ chars, isNumberChar c = true := by
  rw [isUnsigned, Bool.and_eq_true] at h
  rw [← List.takeWhile_append_dropWhile (p := Char.isDigit) (l := chars)]
  refine List.forall_mem_append.mpr ⟨?_, forall_of_isFraction h.2⟩
  intro c hmem
  have hdigit := List.mem_takeWhile_imp hmem
  simp [isNumberChar, hdigit]

/-- Every character of a number literal may stand in one. -/
theorem forall_of_isNumber {chars : List Char} (h : isNumber chars = true) :
    ∀ c ∈ chars, isNumberChar c = true := by
  cases chars with
  | nil => cases h
  | cons c rest =>
      simp only [isNumber] at h
      split at h
      · rename_i hminus
        refine List.forall_mem_cons.mpr ⟨?_, forall_of_isUnsigned h⟩
        simp [isNumberChar, beq_iff_eq.mp hminus]
      · exact forall_of_isUnsigned h

/-- A number literal begins with a digit or a minus sign. -/
theorem head_of_isNumber {chars : List Char} (h : isNumber chars = true) :
    ∃ c rest, chars = c :: rest ∧ (c.isDigit = true ∨ c = '-') := by
  cases chars with
  | nil => cases h
  | cons c rest =>
      refine ⟨c, rest, rfl, ?_⟩
      simp only [isNumber] at h
      split at h
      · rename_i hminus
        exact .inr (beq_iff_eq.mp hminus)
      · left
        rw [isUnsigned, Bool.and_eq_true] at h
        by_contra hdigit
        have hnone := List.takeWhile_cons_of_neg (l := rest) hdigit
        rw [hnone] at h
        cases h.1

/-- What may follow a number. -/
def Stops (rest : List Char) : Prop := ∀ c ∈ rest.head?, isNumberChar c = false

theorem stops_nil : Stops [] := fun _ h => by cases h

theorem stops_cons {c : Char} (h : isNumberChar c = false) (rest : List Char) :
    Stops (c :: rest) := Exposition.forall_head?_cons h rest

theorem readNumber_append (literal : NumberLiteral) {rest : List Char} (hrest : Stops rest) :
    readNumber (literal.chars ++ rest) = some (literal, rest) := by
  obtain ⟨htake, hdrop⟩ :=
    Exposition.span_append (forall_of_isNumber literal.valid) hrest
  have hvalid : isNumber ((literal.chars ++ rest).takeWhile isNumberChar) = true := by
    rw [htake]
    exact literal.valid
  rw [readNumber, dif_pos hvalid, hdrop]
  congr 3

/-! ## String literals -/

theorem hexValue_digitChar : ∀ n < 16, hexValue (Nat.digitChar n) = some n := by decide

theorem plain_of_escape {c : Char} (h : escape c = none) :
    c ≠ '"' ∧ c ≠ '\\' ∧ ¬ c.toNat < 32 := by
  unfold escape at h
  split at h
  · cases h
  rename_i hquote
  split at h
  · cases h
  rename_i hbackslash
  refine ⟨hquote, hbackslash, ?_⟩
  intro hcontrol
  simp [hcontrol] at h
  grind

/-- An escape sequence stands for its character. -/
theorem readEscape_escape {c : Char} {escaped : List Char} (h : escape c = some escaped)
    (rest : List Char) : readEscape (escaped ++ rest) = some (c, rest) := by
  unfold escape at h
  split at h
  · subst c
    cases h
    rfl
  split at h
  · subst c
    cases h
    rfl
  split at h
  · subst c
    cases h
    rfl
  split at h
  · subst c
    cases h
    rfl
  split at h
  · subst c
    cases h
    rfl
  split at h
  · subst c
    cases h
    rfl
  split at h
  · subst c
    cases h
    rfl
  split at h
  · rename_i hcontrol
    cases h
    have hhigh := hexValue_digitChar (c.toNat / 16) (by omega)
    have hlow := hexValue_digitChar (c.toNat % 16) (by omega)
    have hzero : hexValue '0' = some 0 := by decide
    have hunit : readUnit (['0', '0', Nat.digitChar (c.toNat / 16),
        Nat.digitChar (c.toNat % 16)] ++ rest) = some (c.toNat, rest) := by
      simp only [List.cons_append, List.nil_append, readUnit, hzero, hhigh, hlow]
      congr 2
      omega
    simp only [List.cons_append, List.nil_append] at hunit ⊢
    have hbelow : c.toNat < 0xd800 := by omega
    simp [readEscape, hunit, hbelow, Char.ofNat_toNat]
  · cases h

/-- A character reads back as itself. -/
theorem readString_writeChar (c : Char) (fuel : ℕ) (rest : List Char) :
    readString (fuel + 1) (writeChar c ++ rest) =
      (readString fuel rest).map fun read => (c :: read.1, read.2) := by
  unfold writeChar
  split
  · rename_i escaped hescape
    have hread := readEscape_escape hescape rest
    simp [readString, hread]
  · rename_i hescape
    obtain ⟨hquote, hbackslash, hcontrol⟩ := plain_of_escape hescape
    simp [readString, hquote, hbackslash, hcontrol]

/-- And so does a text. -/
theorem readString_writeString (text : List Char) {fuel : ℕ} (hfuel : text.length < fuel)
    (rest : List Char) :
    readString fuel (writeString text ++ rest) = some (text, rest) := by
  induction text generalizing fuel with
  | nil =>
      obtain ⟨fuel, rfl⟩ := Nat.exists_eq_succ_of_ne_zero (Nat.ne_of_gt hfuel)
      simp [writeString, readString]
  | cons c text ih =>
      obtain ⟨fuel, rfl⟩ := Nat.exists_eq_succ_of_ne_zero (Nat.ne_zero_of_lt hfuel)
      have hinner := ih (Nat.lt_of_succ_lt_succ hfuel)
      have hwrite : writeString (c :: text) ++ rest = writeChar c ++ (writeString text ++ rest) := by
        simp [writeString]
      rw [hwrite, readString_writeChar, hinner]
      rfl

/-- A text is no longer than its literal. -/
theorem length_lt_writeString (text : List Char) : text.length < (writeString text).length := by
  have hchar : ∀ c : Char, 1 ≤ (writeChar c).length := by
    intro c
    unfold writeChar
    split <;> simp
  have hsum : text.length ≤ (text.flatMap writeChar).length := by
    induction text with
    | nil => exact Nat.le_refl _
    | cons c text ih =>
        have := hchar c
        simp only [List.flatMap_cons, List.length_append, List.length_cons]
        omega
  simp only [writeString, List.length_append, List.length_singleton]
  omega

theorem readText_literal (text rest : List Char) :
    readText (writeString text ++ rest) = some (text, rest) := by
  refine readString_writeString text ?_ rest
  have := length_lt_writeString text
  simp only [List.length_append]
  omega

/-! ## Values -/

theorem skipSpace_cons {c : Char} (h : isSpace c = false) (rest : List Char) :
    skipSpace (c :: rest) = c :: rest := by
  rw [skipSpace, List.dropWhile_cons_of_neg (by simp [h])]

/-- The text of a value begins with a character that is no white space and closes nothing. -/
theorem write_eq_cons (json : Json) :
    ∃ c tail, write json = c :: tail ∧ isSpace c = false ∧ c ≠ ']' := by
  match json with
  | .null => exact ⟨_, _, rfl, rfl, by decide⟩
  | .bool true => exact ⟨_, _, rfl, rfl, by decide⟩
  | .bool false => exact ⟨_, _, rfl, rfl, by decide⟩
  | .string text => exact ⟨_, _, rfl, rfl, by decide⟩
  | .array [] => exact ⟨_, _, rfl, rfl, by decide⟩
  | .array (item :: items) => exact ⟨_, _, rfl, rfl, by decide⟩
  | .object [] => exact ⟨_, _, rfl, rfl, by decide⟩
  | .object ((name, value) :: members) => exact ⟨_, _, rfl, rfl, by decide⟩
  | .number literal =>
      obtain ⟨c, tail, hchars, hstart⟩ := head_of_isNumber literal.valid
      refine ⟨c, tail, by rw [write, hchars], ?_⟩
      rcases hstart with hdigit | rfl
      · have hne : ∀ d : Char, d.isDigit = false → c ≠ d := by
          rintro d hd rfl
          rw [hd] at hdigit
          cases hdigit
        simp [isSpace, hne ' ' rfl, hne '\n' rfl, hne '\r' rfl, hne '\t' rfl, hne ']' rfl]
      · exact ⟨rfl, by decide⟩

/-- The reader gets the value from its text, whatever follows. -/
def Reads (json : Json) : Prop :=
  ∀ (fuel : ℕ) (rest : List Char), (write json).length ≤ fuel → Stops rest →
    readValue fuel (write json ++ rest) = some (json, rest)

theorem reads_number (literal : NumberLiteral) : Reads (.number literal) := by
  intro fuel rest hfuel hrest
  obtain ⟨c, tail, hchars, hstart⟩ := head_of_isNumber literal.valid
  obtain ⟨_, _, hwrite, hspace, _⟩ := write_eq_cons (.number literal)
  rw [write] at hfuel hwrite ⊢
  rw [hchars] at hfuel hwrite
  cases hwrite
  obtain ⟨fuel, rfl⟩ : ∃ n, fuel = n + 1 :=
    Nat.exists_eq_succ_of_ne_zero (Nat.ne_zero_of_lt (Nat.lt_of_lt_of_le (Nat.succ_pos _) hfuel))
  have hnumber := readNumber_append literal hrest
  rw [hchars, List.cons_append] at hnumber ⊢
  have hne : ∀ d : Char, d.isDigit = false → d ≠ '-' → c ≠ d := by
    rintro d hd hminus rfl
    rcases hstart with hdigit | hminus'
    · rw [hd] at hdigit
      cases hdigit
    · exact hminus hminus'
  rw [readValue, skipSpace_cons hspace]
  simp [hne '"' rfl (by decide), hne '[' rfl (by decide), hne '{' rfl (by decide),
    hne 'n' rfl (by decide), hne 't' rfl (by decide), hne 'f' rfl (by decide), hnumber]

theorem reads_string (text : String) : Reads (.string text) := by
  intro fuel rest hfuel _
  obtain ⟨fuel, rfl⟩ : ∃ n, fuel = n + 1 :=
    Nat.exists_eq_succ_of_ne_zero (Nat.ne_zero_of_lt (Nat.lt_of_lt_of_le (Nat.succ_pos _) hfuel))
  have hstring := readText_literal text.toList rest
  simp [write, readValue, skipSpace_cons (c := '"') rfl, hstring]

/-- An item and the later ones. -/
theorem readItems_write {items : List Json} (hitems : ∀ item ∈ items, Reads item) {item : Json}
    (hitem : Reads item) (fuel : ℕ) (hfuel : (write item ++ writeItems items).length ≤ fuel)
    (rest : List Char) :
    readItems fuel (write item ++ (writeItems items ++ rest)) = some (item :: items, rest) := by
  induction items generalizing item fuel with
  | nil =>
      simp only [writeItems, List.length_append, List.length_singleton] at hfuel
      obtain ⟨fuel, rfl⟩ : ∃ n, fuel = n + 1 :=
        Nat.exists_eq_succ_of_ne_zero (by omega)
      have hread := hitem fuel _ (by omega) (stops_cons (c := ']') rfl rest)
      simp [readItems, writeItems, hread, skipSpace_cons (c := ']') rfl]
  | cons next items ih =>
      simp only [writeItems, List.length_append, List.length_cons] at hfuel
      obtain ⟨fuel, rfl⟩ : ∃ n, fuel = n + 1 :=
        Nat.exists_eq_succ_of_ne_zero (by omega)
      have hread := hitem fuel _ (by omega)
        (stops_cons (c := ',') rfl (write next ++ (writeItems items ++ rest)))
      have hlater := ih (List.forall_mem_cons.mp hitems).2 (List.forall_mem_cons.mp hitems).1
        fuel (by simp only [List.length_append]; omega)
      simp [readItems, writeItems, hread, skipSpace_cons (c := ',') rfl, hlater]

theorem reads_array {items : List Json} (hitems : ∀ item ∈ items, Reads item) :
    Reads (.array items) := by
  intro fuel rest hfuel _
  cases items with
  | nil =>
      simp only [write, List.length_cons] at hfuel
      obtain ⟨fuel, rfl⟩ : ∃ n, fuel = n + 1 :=
        Nat.exists_eq_succ_of_ne_zero (by omega)
      simp [write, readValue, skipSpace_cons (c := '[') rfl, skipSpace_cons (c := ']') rfl]
  | cons item items =>
      simp only [write, List.length_cons] at hfuel
      obtain ⟨fuel, rfl⟩ : ∃ n, fuel = n + 1 :=
        Nat.exists_eq_succ_of_ne_zero (by omega)
      obtain ⟨hitem, hlater⟩ := List.forall_mem_cons.mp hitems
      have hread := readItems_write hlater hitem fuel (by omega) rest
      obtain ⟨c, tail, hwrite, hspace, hclose⟩ := write_eq_cons item
      rw [hwrite, List.cons_append] at hread
      simp [write, readValue, skipSpace_cons (c := '[') rfl, hwrite, skipSpace_cons hspace, hclose,
        hread]

/-- A member and the later ones. -/
theorem readMembers_write {members : List (String × Json)}
    (hmembers : ∀ member ∈ members, Reads member.2) (name : String) {value : Json}
    (hvalue : Reads value) (fuel : ℕ)
    (hfuel : (write value ++ writeMembers members).length < fuel) (rest : List Char) :
    readMembers fuel ('"' :: (writeString name.toList ++ ':' ::
      (write value ++ (writeMembers members ++ rest)))) =
        some ((name, value) :: members, rest) := by
  induction members generalizing name value fuel with
  | nil =>
      simp only [writeMembers, List.length_append, List.length_singleton] at hfuel
      obtain ⟨fuel, rfl⟩ : ∃ n, fuel = n + 1 :=
        Nat.exists_eq_succ_of_ne_zero (by omega)
      have hstring := readText_literal name.toList (':' :: (write value ++ '}' :: rest))
      have hread := hvalue fuel _ (by omega) (stops_cons (c := '}') rfl rest)
      simp [readMembers, writeMembers, skipSpace_cons (c := '"') rfl, hstring,
        skipSpace_cons (c := ':') rfl, hread, skipSpace_cons (c := '}') rfl]
  | cons next members ih =>
      obtain ⟨nextName, nextValue⟩ := next
      simp only [writeMembers, List.length_append, List.length_cons] at hfuel
      obtain ⟨fuel, rfl⟩ : ∃ n, fuel = n + 1 :=
        Nat.exists_eq_succ_of_ne_zero (by omega)
      have hlater := ih (List.forall_mem_cons.mp hmembers).2 nextName
        (List.forall_mem_cons.mp hmembers).1 fuel
        (by simp only [List.length_append]; omega)
      have hstring := readText_literal name.toList (':' :: (write value ++ ',' :: '"' ::
        (writeString nextName.toList ++ ':' ::
          (write nextValue ++ (writeMembers members ++ rest)))))
      have hread := hvalue fuel _ (by omega) (stops_cons (c := ',') rfl ('"' ::
        (writeString nextName.toList ++ ':' ::
          (write nextValue ++ (writeMembers members ++ rest)))))
      simp [readMembers, writeMembers, skipSpace_cons (c := '"') rfl, hstring,
        skipSpace_cons (c := ':') rfl, hread, skipSpace_cons (c := ',') rfl, hlater]

theorem reads_object {members : List (String × Json)}
    (hmembers : ∀ member ∈ members, Reads member.2) : Reads (.object members) := by
  intro fuel rest hfuel _
  cases members with
  | nil =>
      simp only [write, List.length_cons] at hfuel
      obtain ⟨fuel, rfl⟩ : ∃ n, fuel = n + 1 :=
        Nat.exists_eq_succ_of_ne_zero (by omega)
      simp [write, readValue, skipSpace_cons (c := '{') rfl, skipSpace_cons (c := '}') rfl]
  | cons member members =>
      obtain ⟨name, value⟩ := member
      simp only [write, List.length_cons, List.length_append] at hfuel
      obtain ⟨fuel, rfl⟩ : ∃ n, fuel = n + 1 :=
        Nat.exists_eq_succ_of_ne_zero (by omega)
      obtain ⟨hvalue, hlater⟩ := List.forall_mem_cons.mp hmembers
      have hread := readMembers_write hlater name hvalue fuel
        (by simp only [List.length_append]; omega) rest
      simp [write, readValue, skipSpace_cons (c := '{') rfl, skipSpace_cons (c := '"') rfl, hread]

/-- Every value is read from its text. -/
theorem reads (json : Json) : Reads json := by
  induction json using Json.induction with
  | null =>
      intro fuel rest hfuel _
      simp only [write, List.length_cons] at hfuel
      obtain ⟨fuel, rfl⟩ : ∃ n, fuel = n + 1 :=
        Nat.exists_eq_succ_of_ne_zero (by omega)
      simp [write, readValue, skipSpace_cons (c := 'n') rfl, expectWord]
  | bool value =>
      intro fuel rest hfuel _
      cases value with
      | true =>
          simp only [write, List.length_cons] at hfuel
          obtain ⟨fuel, rfl⟩ : ∃ n, fuel = n + 1 :=
            Nat.exists_eq_succ_of_ne_zero (by omega)
          simp [write, readValue, skipSpace_cons (c := 't') rfl, expectWord]
      | false =>
          simp only [write, List.length_cons] at hfuel
          obtain ⟨fuel, rfl⟩ : ∃ n, fuel = n + 1 :=
            Nat.exists_eq_succ_of_ne_zero (by omega)
          simp [write, readValue, skipSpace_cons (c := 'f') rfl, expectWord]
  | number literal => exact reads_number literal
  | string text => exact reads_string text
  | array items hitems => exact reads_array hitems
  | object members hmembers => exact reads_object hmembers

end JsonText

/-- A value is what its text says. -/
theorem Json.ofText_toText (json : Json) : ofText json.toText = some json := by
  have hread := reads json ((write json).length + 1) [] (Nat.le_succ _) stops_nil
  rw [List.append_nil] at hread
  simp [ofText, toText, hread, skipSpace]

end DaemonChoir.Foundation
