import DaemonChoir.Foundation.Exposition
import Mathlib.Data.List.Forall2
import Mathlib.Data.List.Induction
import Mathlib.Data.List.TakeWhile
set_option autoImplicit false

/-!
# Foundation: reading what was written

What the reader of the exposition format makes of lines that were put together from names,
label values and decimal numbers.  A label value that is written as it is reads back as
itself when it holds nothing that needs escaping, and as a shorter one, if at all, when it
does.
-/

namespace DaemonChoir.Foundation.Exposition

/-! ## Tokens -/

theorem forall_head?_cons {kind : Char → Bool} {result : Bool} {c : Char}
    (h : kind c = result) (rest : List Char) : ∀ d ∈ (c :: rest).head?, kind d = result := by
  intro d hd
  cases hd
  exact h

/-- A run of characters of one kind ends where another kind begins. -/
theorem span_append {kind : Char → Bool} {run rest : List Char}
    (hrun : ∀ c ∈ run, kind c = true) (hrest : ∀ c ∈ rest.head?, kind c = false) :
    (run ++ rest).takeWhile kind = run ∧ (run ++ rest).dropWhile kind = rest := by
  have hstop : rest.takeWhile kind = [] ∧ rest.dropWhile kind = rest := by
    cases rest with
    | nil => exact ⟨rfl, rfl⟩
    | cons c rest =>
        have hc : ¬ kind c = true := by simp [hrest c rfl]
        exact ⟨List.takeWhile_cons_of_neg hc, List.dropWhile_cons_of_neg hc⟩
  rw [List.takeWhile_append_of_pos hrun, List.dropWhile_append_of_pos hrun, hstop.1, hstop.2,
    List.append_nil]
  exact ⟨rfl, rfl⟩

theorem skipBlanks_space (chars : List Char) : skipBlanks (' ' :: chars) = skipBlanks chars := rfl

theorem skipBlanks_of_head {chars : List Char} (h : ∀ c ∈ chars.head?, isBlank c = false) :
    skipBlanks chars = chars := by
  have hspan := span_append (List.forall_mem_nil fun c => isBlank c = true) h
  exact hspan.2

theorem not_blank_of_any {chars : List Char} (h : chars.any isBlank = false) :
    ∀ c ∈ chars, isBlank c = false := by
  intro c hmem
  rw [List.any_eq_false] at h
  exact Bool.eq_false_iff.mpr (h c hmem)

theorem skipBlanks_token {token : List Char} (htoken : ∀ c ∈ token, isBlank c = false) :
    skipBlanks token = token := by
  apply skipBlanks_of_head
  intro c hc
  exact htoken c (List.mem_of_head? hc)

theorem skipBlanks_append {token : List Char} (htoken : ∀ c ∈ token, isBlank c = false)
    (hnonempty : token ≠ []) (rest : List Char) : skipBlanks (token ++ rest) = token ++ rest := by
  apply skipBlanks_of_head
  intro c hc
  rw [List.head?_append_of_ne_nil token hnonempty] at hc
  exact htoken c (List.mem_of_head? hc)

theorem readToken_append {token rest : List Char} (htoken : ∀ c ∈ token, isBlank c = false)
    (hrest : ∀ c ∈ rest.head?, isBlank c = true) :
    readToken (token ++ rest) = (token, rest) := by
  have hrun : ∀ c ∈ token, (!isBlank c) = true := by
    intro c hmem
    rw [htoken c hmem]
    rfl
  have hstop : ∀ c ∈ rest.head?, (!isBlank c) = false := by
    intro c hmem
    rw [hrest c hmem]
    rfl
  have hspan := span_append hrun hstop
  rw [readToken, hspan.1, hspan.2]

/-- The last token of a line. -/
theorem readToken_self {token : List Char} (htoken : ∀ c ∈ token, isBlank c = false) :
    readToken token = (token, []) := by
  have hend : ∀ c ∈ ([] : List Char).head?, isBlank c = true := nofun
  have hread := readToken_append htoken hend
  rw [List.append_nil] at hread
  exact hread

/-- A token between two spaces. -/
theorem readToken_space {token : List Char} (htoken : ∀ c ∈ token, isBlank c = false)
    (hnonempty : token ≠ []) (rest : List Char) :
    readToken (skipBlanks (' ' :: (token ++ ' ' :: rest))) = (token, ' ' :: rest) := by
  rw [skipBlanks_space, skipBlanks_append htoken hnonempty,
    readToken_append htoken (forall_head?_cons rfl rest)]

/-! ## Names -/

theorem ne_of_isNameChar {colon : Bool} {c other : Char} (h : isNameChar colon c = true)
    (hother : isNameChar true other = false) : c ≠ other := by
  rintro rfl
  cases colon with
  | true =>
      rw [h] at hother
      cases hother
  | false =>
      simp only [isNameChar, isNameStart] at h hother
      simp_all

theorem isNameChar_of_mem {colon : Bool} {name : List Char} (hname : isName colon name = true) :
    ∀ c ∈ name, isNameChar colon c = true := by
  cases name with
  | nil => cases hname
  | cons first name =>
      rw [isName, Bool.and_eq_true, List.all_eq_true] at hname
      intro c hmem
      rcases List.mem_cons.mp hmem with rfl | hmem
      · rw [isNameChar, hname.1, Bool.true_or]
      · exact hname.2 c hmem

theorem ne_nil_of_isName {colon : Bool} {name : List Char} (hname : isName colon name = true) :
    name ≠ [] := by
  rintro rfl
  cases hname

theorem not_mem_of_isName {colon : Bool} {name : List Char} (hname : isName colon name = true)
    {c : Char} (hc : isNameChar true c = false) : c ∉ name := by
  intro hmem
  exact ne_of_isNameChar (isNameChar_of_mem hname c hmem) hc rfl

theorem not_blank_of_isName {colon : Bool} {name : List Char} (hname : isName colon name = true) :
    ∀ c ∈ name, isBlank c = false := by
  intro c hmem
  have hc := isNameChar_of_mem hname c hmem
  rw [isBlank, Bool.or_eq_false_iff, beq_eq_false_iff_ne, beq_eq_false_iff_ne]
  exact ⟨ne_of_isNameChar hc rfl, ne_of_isNameChar hc rfl⟩

/-- A name starts with none of the characters that mean something else. -/
theorem append_ne_cons_of_isName {colon : Bool} {name : List Char}
    (hname : isName colon name = true) {c : Char} (hc : isNameChar true c = false)
    (chars after : List Char) : name ++ chars ≠ c :: after := by
  cases name with
  | nil => cases hname
  | cons first name =>
      intro heq
      have hfirst := isNameChar_of_mem hname first List.mem_cons_self
      exact ne_of_isNameChar hfirst hc (List.cons.inj heq).1

theorem isName_append {colon : Bool} {name suffix : List Char} (hname : isName colon name = true)
    (hsuffix : suffix.all (isNameChar colon) = true) : isName colon (name ++ suffix) = true := by
  cases name with
  | nil => cases hname
  | cons c name =>
      rw [isName, Bool.and_eq_true] at hname
      rw [List.cons_append, isName, List.all_append, hname.1, hname.2, hsuffix]
      rfl

theorem readName_append {colon : Bool} {name rest : List Char}
    (hname : isName colon name = true) (hrest : ∀ c ∈ rest.head?, isNameChar colon c = false) :
    readName colon (name ++ rest) = some (name, rest) := by
  cases name with
  | nil => cases hname
  | cons c name =>
      rw [isName, Bool.and_eq_true, List.all_eq_true] at hname
      have hspan := span_append hname.2 hrest
      rw [List.cons_append, readName, if_pos hname.1, hspan.1, hspan.2]

/-! ## Label values -/

theorem readValue_quote (rest : List Char) : readValue ('"' :: rest) = some ([], rest) := by
  rw [readValue.eq_def]
  exact if_pos rfl

theorem readValue_escape (escaped : Char) (rest : List Char) :
    readValue ('\\' :: escaped :: rest) =
      match unescape escaped, readValue rest with
      | some plain, some (value, rest) => some (plain :: value, rest)
      | _, _ => none := by
  rw [readValue.eq_def]
  rfl

theorem readValue_plain {c : Char} (hquote : c ≠ '"') (hescape : c ≠ '\\')
    (rest : List Char) :
    readValue (c :: rest) =
      match readValue rest with
      | some (value, rest) => some (c :: value, rest)
      | none => none := by
  rw [readValue.eq_def]
  exact (if_neg hquote).trans (if_neg hescape)

/-- A value without quotes and backslashes is read back. -/
theorem readValue_append {value : List Char} (h : ∀ c ∈ value, c ≠ '"' ∧ c ≠ '\\')
    (rest : List Char) : readValue (value ++ '"' :: rest) = some (value, rest) := by
  induction value with
  | nil => exact readValue_quote rest
  | cons c value ih =>
      obtain ⟨hquote, hescape⟩ := h c List.mem_cons_self
      rw [List.cons_append, readValue_plain hquote hescape,
        ih fun other hmem => h other (List.mem_cons_of_mem c hmem)]

theorem readValue_of_no_quote {chars : List Char} (h : '"' ∉ chars) : readValue chars = none := by
  fun_induction readValue chars with
  | case1 => rfl
  | case2 => simp at h
  | case3 => rfl
  | case4 escaped after plain inner last hinner hplain hquote ih =>
      rw [ih (by simp_all)] at hinner
      cases hinner
  | case5 => rfl
  | case6 c after hquote hescape inner last hinner ih =>
      rw [ih (by simp_all)] at hinner
      cases hinner
  | case7 => rfl

/-- Any other value is read back shorter, if at all. -/
theorem readValue_shorter_or_plain {raw tail : List Char} (htail : '"' ∉ tail)
    {value rest : List Char} (h : readValue (raw ++ '"' :: tail) = some (value, rest)) :
    value.length < raw.length ∨ ∀ c ∈ raw, c ≠ '"' ∧ c ≠ '\\' := by
  induction raw using List.twoStepInduction generalizing value with
  | nil => exact .inr nofun
  | singleton c =>
      by_cases hquote : c = '"'
      · subst hquote
        rw [List.singleton_append, readValue_quote] at h
        cases h
        exact .inl Nat.zero_lt_one
      · by_cases hescape : c = '\\'
        · -- the backslash takes the closing quote
          subst hescape
          rw [List.singleton_append, readValue_escape, readValue_of_no_quote htail] at h
          split at h
          · rename_i heq
            cases heq
          · cases h
        · exact .inr (by simpa using ⟨hquote, hescape⟩)
  | cons_cons c escaped raw ihTwo ihOne =>
      by_cases hquote : c = '"'
      · subst hquote
        rw [List.cons_append, readValue_quote] at h
        cases h
        exact .inl (Nat.zero_lt_succ _)
      · by_cases hescape : c = '\\'
        · subst hescape
          rw [List.cons_append, List.cons_append, readValue_escape] at h
          split at h
          · rename_i plain inner last hplain hinner
            cases h
            refine .inl ?_
            rcases ihTwo hinner with hshorter | hall
            · exact Nat.lt_succ_of_lt (Nat.succ_lt_succ hshorter)
            · rw [readValue_append hall] at hinner
              cases hinner
              exact Nat.lt_succ_self _
          · cases h
        · rw [List.cons_append, readValue_plain hquote hescape] at h
          split at h
          · rename_i inner last hinner
            cases h
            rcases ihOne escaped hinner with hshorter | hall
            · exact .inl (Nat.succ_lt_succ hshorter)
            · refine .inr ?_
              intro other hmem
              rcases List.mem_cons.mp hmem with rfl | hmem
              · exact ⟨hquote, hescape⟩
              · exact hall other hmem
          · cases h

/-! ## Numbers that are read back -/

/-- Digits, and perhaps a point and more digits. -/
def IsDecimal (token : List Char) : Prop :=
  ∃ whole fraction : List Char, whole ≠ [] ∧ (∀ c ∈ whole, c.isDigit = true) ∧
    (∀ c ∈ fraction, c.isDigit = true) ∧ (token = whole ∨ token = whole ++ '.' :: fraction)

theorem toLower_of_isDigit {c : Char} (h : c.isDigit = true) : c.toLower = c := by
  rw [Char.isDigit, Bool.and_eq_true, decide_eq_true_eq, decide_eq_true_eq] at h
  have hupper : ¬ (c.val ≥ 'A'.val ∧ c.val ≤ 'Z'.val) := by
    intro hupper
    have hle : 'A'.val ≤ '9'.val := UInt32.le_trans hupper.1 h.2
    exact absurd hle (by decide)
  exact dif_neg hupper

/-- A number that starts with a digit has no sign and is no word. -/
theorem number_of_digit {c : Char} (hc : c.isDigit = true) (rest : List Char) :
    number (c :: rest) = decimal false (c :: rest) := by
  have hsign : readSign (c :: rest) = (false, c :: rest) := by
    unfold readSign
    split
    · rename_i heq
      cases heq
      cases hc
    · rename_i heq
      cases heq
      cases hc
    · rfl
  have hword : ∀ letter : Char, letter.isDigit = false → ∀ letters,
      (c :: rest).map Char.toLower ≠ letter :: letters := by
    intro letter hletter letters heq
    rw [List.map_cons, toLower_of_isDigit hc] at heq
    obtain ⟨rfl, _⟩ := List.cons.inj heq
    rw [hc] at hletter
    cases hletter
  simp only [number, hsign]
  rw [if_neg, if_neg]
  · exact hword 'n' rfl _
  · rintro (heq | heq)
    · exact hword 'i' rfl _ heq
    · exact hword 'i' rfl _ heq

/-- Digits are read back as their value. -/
theorem number_digits {digits : List Char} (hnonempty : digits ≠ [])
    (hdigits : ∀ c ∈ digits, c.isDigit = true) :
    number digits = some (.decimal (Nat.ofDigitChars 10 digits 0) 0) := by
  obtain ⟨c, rest, rfl⟩ := List.exists_cons_of_ne_nil hnonempty
  rw [number_of_digit (hdigits c List.mem_cons_self), decimal,
    List.takeWhile_eq_self_iff.mpr hdigits, List.dropWhile_eq_nil_iff.mpr hdigits]
  simp [readFraction, exponent, signed]

/-- A decimal number is read. -/
theorem number_of_isDecimal {token : List Char} (h : IsDecimal token) :
    ∃ value, number token = some value := by
  obtain ⟨whole, fraction, hnonempty, hwhole, hfraction, rfl | rfl⟩ := h
  · exact ⟨_, number_digits hnonempty hwhole⟩
  · obtain ⟨c, rest, rfl⟩ := List.exists_cons_of_ne_nil hnonempty
    have hpoint : Char.isDigit '.' = false := rfl
    have hspan := span_append hwhole (forall_head?_cons hpoint fraction)
    refine ⟨.decimal (signed false (c :: rest ++ fraction)) (0 - fraction.length), ?_⟩
    rw [List.cons_append] at hspan ⊢
    rw [number_of_digit (hwhole c List.mem_cons_self), decimal, hspan.1, hspan.2]
    simp [readFraction, List.takeWhile_eq_self_iff.mpr hfraction,
      List.dropWhile_eq_nil_iff.mpr hfraction, exponent]

/-- Every character is a digit or the point. -/
theorem IsDecimal.all {token : List Char} (h : IsDecimal token) :
    ∀ c ∈ token, c.isDigit = true ∨ c = '.' := by
  obtain ⟨whole, fraction, _, hwhole, hfraction, rfl | rfl⟩ := h
  · intro c hmem
    exact .inl (hwhole c hmem)
  · intro c hmem
    rcases List.mem_append.mp hmem with hmem | hmem
    · exact .inl (hwhole c hmem)
    · rcases List.mem_cons.mp hmem with hpoint | hmem
      · exact .inr hpoint
      · exact .inl (hfraction c hmem)

/-- So it holds none of the other characters. -/
theorem IsDecimal.not_mem {token : List Char} (h : IsDecimal token) {c : Char}
    (hdigit : c.isDigit = false) (hpoint : c ≠ '.') : c ∉ token := by
  intro hmem
  rcases h.all c hmem with hc | hc
  · rw [hc] at hdigit
    cases hdigit
  · exact hpoint hc

theorem IsDecimal.not_blank {token : List Char} (h : IsDecimal token) :
    ∀ c ∈ token, isBlank c = false := by
  intro c hmem
  rw [isBlank, Bool.or_eq_false_iff, beq_eq_false_iff_ne, beq_eq_false_iff_ne]
  constructor
  · rintro rfl
    exact h.not_mem rfl (by decide) hmem
  · rintro rfl
    exact h.not_mem rfl (by decide) hmem

/-! ## Labels -/

theorem readLabels_of_label {chars rest : List Char} {label : List Char × List Char}
    (hopen : ∀ after, skipBlanks chars ≠ '}' :: after)
    (hlabel : readLabel (skipBlanks chars) = some (label, rest)) :
    readLabels chars =
      match skipBlanks rest with
      | '}' :: after => some ([label], after)
      | ',' :: after =>
          match readLabels after with
          | some (labels, last) => some (label :: labels, last)
          | none => none
      | _ => none := by
  rw [readLabels]
  split
  · rename_i hclosed
    exact absurd hclosed (hopen _)
  · split
    · rename_i hnone
      rw [hlabel] at hnone
      cases hnone
    · rename_i hsome
      rw [hlabel] at hsome
      cases hsome
      split
      · rename_i hnext
        rw [hnext]
        rfl
      · rename_i hnext
        rw [hnext]
        rfl
      · rename_i hclosed hmore
        split
        · rename_i hnext
          exact absurd hnext (hclosed _)
        · rename_i hnext
          exact absurd hnext (hmore _)
        · rfl

theorem readLabels_of_no_label {chars : List Char}
    (hopen : ∀ after, skipBlanks chars ≠ '}' :: after)
    (hlabel : readLabel (skipBlanks chars) = none) : readLabels chars = none := by
  rw [readLabels]
  split
  · rename_i hclosed
    exact absurd hclosed (hopen _)
  · split
    · rfl
    · rename_i hsome
      rw [hlabel] at hsome
      cases hsome

/-- A name is followed by something that is no part of it. -/
theorem readLabel_append {key : List Char} (hkey : isName false key = true)
    (chars : List Char) :
    readLabel (key ++ '=' :: '"' :: chars) =
      match readValue chars with
      | none => none
      | some (value, rest) => some ((key, value), rest) := by
  rw [readLabel, readName_append hkey (forall_head?_cons rfl _)]
  rfl

theorem skipBlanks_name_append {colon : Bool} {name : List Char}
    (hname : isName colon name = true) (chars : List Char) :
    skipBlanks (name ++ chars) = name ++ chars :=
  skipBlanks_append (not_blank_of_isName hname) (ne_nil_of_isName hname) chars

/-- The labels of a sample begin with its first label. -/
theorem readLabels_append {key : List Char} (hkey : isName false key = true)
    {chars rest : List Char} {labels : List (List Char × List Char)}
    (h : readLabels (key ++ '=' :: '"' :: chars) = some (labels, rest)) :
    ∃ value after later, readValue chars = some (value, after) ∧
      labels = (key, value) :: later := by
  have hskip := skipBlanks_name_append hkey ('=' :: '"' :: chars)
  have hopen : ∀ after, skipBlanks (key ++ '=' :: '"' :: chars) ≠ '}' :: after := by
    intro after
    rw [hskip]
    exact append_ne_cons_of_isName hkey rfl _ after
  have hlabel := readLabel_append hkey chars
  rw [← hskip] at hlabel
  cases hvalue : readValue chars with
  | none =>
      rw [hvalue] at hlabel
      rw [readLabels_of_no_label hopen hlabel] at h
      cases h
  | some read =>
      obtain ⟨value, after⟩ := read
      rw [hvalue] at hlabel
      rw [readLabels_of_label hopen hlabel] at h
      split at h
      · cases h
        exact ⟨value, after, [], rfl, rfl⟩
      · split at h
        · rename_i others last _
          cases h
          exact ⟨value, after, others, rfl, rfl⟩
        · cases h
      · cases h

/-- One label whose value is closed is all the labels there are. -/
theorem readLabels_single {key : List Char} (hkey : isName false key = true)
    {value : List Char} (hvalue : ∀ c ∈ value, c ≠ '"' ∧ c ≠ '\\') (rest : List Char) :
    readLabels (key ++ '=' :: '"' :: (value ++ '"' :: '}' :: rest)) =
      some ([(key, value)], rest) := by
  have hskip := skipBlanks_name_append hkey ('=' :: '"' :: (value ++ '"' :: '}' :: rest))
  have hopen : ∀ after,
      skipBlanks (key ++ '=' :: '"' :: (value ++ '"' :: '}' :: rest)) ≠ '}' :: after := by
    intro after
    rw [hskip]
    exact append_ne_cons_of_isName hkey rfl _ after
  have hlabel := readLabel_append hkey (value ++ '"' :: '}' :: rest)
  rw [← hskip, readValue_append hvalue] at hlabel
  rw [readLabels_of_label hopen hlabel]
  rfl

/-! ## Samples -/

/-- A line with a name in front is a sample. -/
theorem parseLine_name_append {name : List Char} (hname : isName true name = true)
    (chars : List Char) : parseLine (name ++ chars) = parseSample (name ++ chars) := by
  rw [parseLine, skipBlanks_name_append hname]
  split
  · rename_i heq
    exact absurd (List.append_eq_nil_iff.mp heq).1 (ne_nil_of_isName hname)
  · rename_i heq
    exact absurd heq (append_ne_cons_of_isName hname rfl _ _)
  · rfl

/-- A sample without labels. -/
def bareLine (name token : List Char) : List Char := name ++ ' ' :: token

/-- A sample with one label, its value written as it is. -/
def labelledLine (name key value token : List Char) : List Char :=
  name ++ '{' :: (key ++ '=' :: '"' :: (value ++ '"' :: '}' :: ' ' :: token))

/-- A number is no brace. -/
theorem IsDecimal.readBraces {token : List Char} (h : IsDecimal token) :
    readBraces (' ' :: token) = some ([], token) := by
  rw [Exposition.readBraces, skipBlanks_space, skipBlanks_token h.not_blank]
  split
  · exact absurd List.mem_cons_self (h.not_mem rfl (by decide))
  · rfl

theorem parseLine_bareLine {name token : List Char} (hname : isName true name = true)
    (htoken : IsDecimal token) :
    parseLine (bareLine name token) =
      (number token).map fun value => .sample (String.ofList name) [] value none := by
  rw [bareLine, parseLine_name_append hname, parseSample,
    readName_append hname (forall_head?_cons rfl token)]
  simp only [htoken.readBraces, skipBlanks_token htoken.not_blank,
    readToken_self htoken.not_blank]
  cases number token with
  | none => rfl
  | some value => rfl

theorem readBraces_brace (chars : List Char) : readBraces ('{' :: chars) = readLabels chars := rfl

theorem parseLine_labelledLine {name key value token : List Char}
    (hname : isName true name = true) (hkey : isName false key = true)
    (hvalue : ∀ c ∈ value, c ≠ '"' ∧ c ≠ '\\') (htoken : IsDecimal token) :
    parseLine (labelledLine name key value token) =
      (number token).map fun x =>
        .sample (String.ofList name) [(String.ofList key, String.ofList value)] x none := by
  rw [labelledLine, parseLine_name_append hname, parseSample,
    readName_append hname (forall_head?_cons rfl _)]
  simp only [readBraces_brace, readLabels_single hkey hvalue, skipBlanks_space,
    skipBlanks_token htoken.not_blank, readToken_self htoken.not_blank]
  cases number token with
  | none => rfl
  | some x => rfl

/-- Whatever its value, the line begins with the label. -/
theorem first_label_of_parseLine {name key chars : List Char} {entry : Entry}
    (hname : isName true name = true) (hkey : isName false key = true)
    (h : parseLine (name ++ '{' :: (key ++ '=' :: '"' :: chars)) = some entry) :
    ∃ value after later x timestamp, readValue chars = some (value, after) ∧
      entry = .sample (String.ofList name)
        ((String.ofList key, String.ofList value) :: later) x timestamp := by
  rw [parseLine_name_append hname, parseSample,
    readName_append hname (forall_head?_cons rfl _)] at h
  simp only [readBraces_brace] at h
  split at h
  · cases h
  · rename_i labels rest hread
    obtain ⟨value, after, later, hvalue, rfl⟩ := readLabels_append hkey hread
    split at h
    · rename_i x timestamp _ _
      cases h
      exact ⟨value, after, _, x, timestamp, hvalue, rfl⟩
    · cases h

/-! ## Headers -/

/-- A header, `rest` being what it says of the name. -/
def headerLine (keyword name rest : List Char) : List Char :=
  '#' :: ' ' :: (keyword ++ ' ' :: (name ++ ' ' :: rest))

/-- The first two tokens of a header. -/
theorem parseLine_headerLine {keyword name : List Char} (hkeyword : keyword.any isBlank = false)
    (hnonempty : keyword ≠ []) (hname : isName true name = true) (rest : List Char) :
    parseLine (headerLine keyword name rest) =
      if keyword = "HELP".toList then
        some (.help (String.ofList name) (String.ofList (skipBlanks rest)))
      else if keyword = "TYPE".toList then
        if (readToken (skipBlanks rest)).1 ∈ kinds ∧
            skipBlanks (readToken (skipBlanks rest)).2 = [] then
          some (.type (String.ofList name) (String.ofList (readToken (skipBlanks rest)).1))
        else none
      else some .comment := by
  have hline : parseLine (headerLine keyword name rest) =
      parseComment (' ' :: (keyword ++ ' ' :: (name ++ ' ' :: rest))) := rfl
  rw [hline, parseComment, readToken_space (not_blank_of_any hkeyword) hnonempty]
  simp only [readToken_space (not_blank_of_isName hname) (ne_nil_of_isName hname), hname,
    true_and]
  simp only [skipBlanks_space, if_true]
  congr

theorem parseLine_help {name docs : List Char} (hname : isName true name = true)
    (hdocs : docs.head?.any isBlank = false) :
    parseLine (headerLine "HELP".toList name docs) =
      some (.help (String.ofList name) (String.ofList docs)) := by
  have hhead : ∀ c ∈ docs.head?, isBlank c = false := by
    intro c hc
    rw [Option.mem_def.mp hc] at hdocs
    exact hdocs
  rw [parseLine_headerLine (by decide) (by decide) hname, if_pos rfl, skipBlanks_of_head hhead]

theorem parseLine_type {name kind : List Char} (hname : isName true name = true)
    (hkind : kind ∈ kinds) :
    parseLine (headerLine "TYPE".toList name kind) =
      some (.type (String.ofList name) (String.ofList kind)) := by
  have hkinds : ∀ kind ∈ kinds, kind.any isBlank = false := by decide
  have hchars := not_blank_of_any (hkinds kind hkind)
  rw [parseLine_headerLine (by decide) (by decide) hname, if_neg (by decide), if_pos rfl,
    skipBlanks_token hchars, readToken_self hchars]
  exact if_pos ⟨hkind, rfl⟩

/-! ## Lines -/

/-- A line, without its line feed, says an entry. -/
structure Reads (line : List Char) (entry : Entry) : Prop where
  noFeed : '\n' ∉ line
  parsed : parseLine line = some entry

/-- What needs no escaping in a label value. -/
def IsPlain (value : List Char) : Prop := '"' ∉ value ∧ '\\' ∉ value ∧ '\n' ∉ value

instance (value : List Char) : Decidable (IsPlain value) := inferInstanceAs (Decidable (_ ∧ _))

theorem IsDecimal.noFeed {token : List Char} (h : IsDecimal token) : '\n' ∉ token :=
  h.not_mem rfl (by decide)

theorem noFeed_of_isName {colon : Bool} {name : List Char} (h : isName colon name = true) :
    '\n' ∉ name :=
  not_mem_of_isName h rfl

theorem reads_blank : Reads [] .blank where
  noFeed := List.not_mem_nil
  parsed := rfl

theorem reads_help {name docs : String} (hname : isName true name.toList = true)
    (hdocs : docs.toList.head?.any isBlank = false) (hfeed : '\n' ∉ docs.toList) :
    Reads (headerLine "HELP".toList name.toList docs.toList) (.help name docs) where
  noFeed := by simp [headerLine, noFeed_of_isName hname, hfeed]
  parsed := by rw [parseLine_help hname hdocs, String.ofList_toList, String.ofList_toList]

theorem reads_type {name kind : String} (hname : isName true name.toList = true)
    (hkind : kind.toList ∈ kinds) :
    Reads (headerLine "TYPE".toList name.toList kind.toList) (.type name kind) where
  noFeed := by
    have hfeed : ∀ kind ∈ kinds, '\n' ∉ kind := by decide
    simp [headerLine, noFeed_of_isName hname, hfeed _ hkind]
  parsed := by rw [parseLine_type hname hkind, String.ofList_toList, String.ofList_toList]

theorem reads_bareLine {name : String} {token : List Char}
    (hname : isName true name.toList = true) (htoken : IsDecimal token) {x : Number}
    (hx : number token = some x) :
    Reads (bareLine name.toList token) (.sample name [] x none) where
  noFeed := by simp [bareLine, noFeed_of_isName hname, htoken.noFeed]
  parsed := by
    rw [parseLine_bareLine hname htoken, hx, Option.map_some, String.ofList_toList]

theorem reads_labelledLine {name key value : String} {token : List Char}
    (hname : isName true name.toList = true) (hkey : isName false key.toList = true)
    (hvalue : IsPlain value.toList) (htoken : IsDecimal token) {x : Number}
    (hx : number token = some x) :
    Reads (labelledLine name.toList key.toList value.toList token)
      (.sample name [(key, value)] x none) where
  noFeed := by
    simp [labelledLine, noFeed_of_isName hname, noFeed_of_isName hkey, hvalue.2.2,
      htoken.noFeed]
  parsed := by
    have hchars : ∀ c ∈ value.toList, c ≠ '"' ∧ c ≠ '\\' := by
      intro c hmem
      constructor
      · rintro rfl
        exact hvalue.1 hmem
      · rintro rfl
        exact hvalue.2.1 hmem
    rw [parseLine_labelledLine hname hkey hchars htoken, hx, Option.map_some]
    simp only [String.ofList_toList]

/-! ## Pages -/

theorem splitLines_line {line : List Char} (h : '\n' ∉ line) (rest : List Char) :
    splitLines (line ++ '\n' :: rest) = (line :: (splitLines rest).1, (splitLines rest).2) := by
  induction line with
  | nil => rfl
  | cons c line ih =>
      rw [List.mem_cons, not_or] at h
      have hfeed : ¬ c = '\n' := fun heq => h.1 heq.symm
      rw [List.cons_append, splitLines, ih h.2]
      exact if_neg hfeed

/-- The first line of a page. -/
theorem parseLines_line {line : List Char} (h : '\n' ∉ line) (rest : List Char) :
    parseLines (line ++ '\n' :: rest) =
      (parseLine line).bind fun entry => (parseLines rest).map (entry :: ·) := by
  rw [parseLines, splitLines_line h, parseLines]
  dsimp only
  by_cases hlast : (splitLines rest).2 = []
  · rw [if_pos hlast, if_pos hlast, List.mapM_cons]
    cases parseLine line with
    | none => rfl
    | some entry =>
        cases (splitLines rest).1.mapM parseLine with
        | none => rfl
        | some entries => rfl
  · rw [if_neg hlast, if_neg hlast]
    cases parseLine line with
    | none => rfl
    | some entry => rfl

/-- Lines with their line feeds. -/
def joinLines (lines : List (List Char)) : List Char := lines.flatMap (· ++ ['\n'])

theorem joinLines_cons (line : List Char) (lines : List (List Char)) :
    joinLines (line :: lines) = line ++ '\n' :: joinLines lines := by
  rw [joinLines, List.flatMap_cons, List.append_assoc]
  rfl

theorem joinLines_append (lines others : List (List Char)) :
    joinLines (lines ++ others) = joinLines lines ++ joinLines others :=
  List.flatMap_append

/-- A page that begins with lines that are read. -/
theorem parseLines_append {lines : List (List Char)} {entries : List Entry}
    (h : List.Forall₂ Reads lines entries) (rest : List Char) :
    parseLines (joinLines lines ++ rest) = (parseLines rest).map (entries ++ ·) := by
  induction h with
  | nil => simp [joinLines]
  | @cons line entry lines entries hline _ ih =>
      rw [joinLines_cons, List.append_assoc, List.cons_append, parseLines_line hline.noFeed,
        hline.parsed, ih, Option.bind_some, Option.map_map]
      rfl

theorem parseLines_of_reads {lines : List (List Char)} {entries : List Entry}
    (h : List.Forall₂ Reads lines entries) : parseLines (joinLines lines) = some entries := by
  have hparse := parseLines_append h []
  rw [List.append_nil] at hparse
  rw [hparse]
  simp [parseLines, splitLines]

/-- The first line of a page that is read as a whole. -/
theorem exists_first_entry {line rest : List Char} (hline : '\n' ∉ line) {entries : List Entry}
    (h : parseLines (line ++ '\n' :: rest) = some entries) :
    ∃ entry later, parseLine line = some entry ∧ parseLines rest = some later ∧
      entries = entry :: later := by
  rw [parseLines_line hline, Option.bind_eq_some_iff] at h
  obtain ⟨entry, hentry, hlater⟩ := h
  obtain ⟨later, hrest, rfl⟩ := Option.map_eq_some_iff.mp hlater
  exact ⟨entry, later, hentry, hrest, rfl⟩

/-- A value that needs escaping and is written as it is leaves a page that says a shorter
one, if it says anything. -/
theorem plain_or_shorter {name key value : String} {token rest : List Char}
    (hname : isName true name.toList = true) (hkey : isName false key.toList = true)
    (htoken : IsDecimal token) {entries : List Entry}
    (h : parseLines (labelledLine name.toList key.toList value.toList token ++ '\n' :: rest) =
      some entries) :
    IsPlain value.toList ∨ ∃ shorter others x timestamp later,
      entries = .sample name ((key, shorter) :: others) x timestamp :: later ∧
      shorter.toList.length < value.toList.length := by
  -- the line goes on to the first line feed, which the value may hold
  by_cases hfeed : '\n' ∈ value.toList
  · obtain ⟨front, back, hvalue, hfront⟩ := List.eq_append_cons_of_mem hfeed
    have hline : '\n' ∉ name.toList ++ '{' :: (key.toList ++ '=' :: '"' :: front) := by
      simp [noFeed_of_isName hname, noFeed_of_isName hkey, hfront]
    have hsplit : labelledLine name.toList key.toList value.toList token ++ '\n' :: rest =
        (name.toList ++ '{' :: (key.toList ++ '=' :: '"' :: front)) ++
          '\n' :: (back ++ '"' :: '}' :: ' ' :: (token ++ '\n' :: rest)) := by
      simp [labelledLine, hvalue]
    rw [hsplit] at h
    obtain ⟨entry, later, hentry, _, rfl⟩ := exists_first_entry hline h
    obtain ⟨shorter, after, others, x, timestamp, hread, rfl⟩ :=
      first_label_of_parseLine hname hkey hentry
    simp only [String.ofList_toList]
    refine .inr ⟨String.ofList shorter, _, x, timestamp, later, rfl, ?_⟩
    have hlength := length_of_readValue hread
    rw [String.toList_ofList, hvalue, List.length_append]
    omega
  · have hline : '\n' ∉ labelledLine name.toList key.toList value.toList token := by
      simp [labelledLine, noFeed_of_isName hname, noFeed_of_isName hkey, hfeed, htoken.noFeed]
    have hquote : '"' ∉ token := htoken.not_mem rfl (by decide)
    have htail : '"' ∉ '}' :: ' ' :: token := by simp [hquote]
    obtain ⟨entry, later, hentry, _, rfl⟩ := exists_first_entry hline h
    obtain ⟨shorter, after, others, x, timestamp, hread, rfl⟩ :=
      first_label_of_parseLine hname hkey hentry
    simp only [String.ofList_toList]
    rcases readValue_shorter_or_plain htail hread with hlength | hplain
    · refine .inr ⟨String.ofList shorter, _, x, timestamp, later, rfl, ?_⟩
      rw [String.toList_ofList]
      exact hlength
    · refine .inl ⟨?_, ?_, hfeed⟩
      · exact fun hmem => (hplain _ hmem).1 rfl
      · exact fun hmem => (hplain _ hmem).2 rfl

end DaemonChoir.Foundation.Exposition
