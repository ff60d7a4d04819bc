import Mathlib.Data.Int.Notation
set_option autoImplicit false

/-!
# Foundation: the Prometheus text exposition format

A page is a sequence of lines, each ended by a line feed: blank lines, comments, `HELP` and
`TYPE` headers, and samples.  A label value stands between double quotes, with backslash,
double quote and line feed escaped.  Numbers are decimal, infinite or not a number; the
hexadecimal ones are left out.
-/

namespace DaemonChoir.Foundation.Exposition

/-! ## Tokens -/

/-- What separates tokens. -/
def isBlank (c : Char) : Bool := c == ' ' || c == '\t'

/-- Skip the blanks in front. -/
def skipBlanks (chars : List Char) : List Char := chars.dropWhile isBlank

/-- The characters up to the next blank, and the rest. -/
def readToken (chars : List Char) : List Char × List Char :=
  (chars.takeWhile (!isBlank ·), chars.dropWhile (!isBlank ·))

/-- One given character. -/
def expect (expected : Char) : List Char → Option (List Char)
  | [] => none
  | c :: rest => if c = expected then some rest else none

/-- The first character of a name.  Colons are for the names of metrics. -/
def isNameStart (colon : Bool) (c : Char) : Bool := c.isAlpha || c == '_' || (colon && c == ':')

/-- A later character of a name. -/
def isNameChar (colon : Bool) (c : Char) : Bool := isNameStart colon c || c.isDigit

/-- A name, and the rest. -/
def readName (colon : Bool) : List Char → Option (List Char × List Char)
  | [] => none
  | c :: rest =>
      if isNameStart colon c then
        some (c :: rest.takeWhile (isNameChar colon), rest.dropWhile (isNameChar colon))
      else none

/-- The characters are a name. -/
def isName (colon : Bool) : List Char → Bool
  | [] => false
  | c :: rest => isNameStart colon c && rest.all (isNameChar colon)

/-! ## Label values -/

/-- The character that an escape sequence stands for. -/
def unescape (c : Char) : Option Char :=
  if c = '\\' then some '\\'
  else if c = '"' then some '"'
  else if c = 'n' then some '\n'
  else none

/-- A label value up to its closing quote, and the rest. -/
def readValue : List Char → Option (List Char × List Char)
  | [] => none
  | c :: rest =>
      if c = '"' then some ([], rest)
      else if c = '\\' then
        match rest with
        | [] => none
        | escaped :: rest =>
            match unescape escaped, readValue rest with
            | some plain, some (value, rest) => some (plain :: value, rest)
            | _, _ => none
      else
        match readValue rest with
        | some (value, rest) => some (c :: value, rest)
        | none => none

/-- A label with its value, and the rest. -/
def readLabel (chars : List Char) : Option ((List Char × List Char) × List Char) :=
  match readName false chars with
  | none => none
  | some (name, rest) =>
      match expect '=' (skipBlanks rest) with
      | none => none
      | some rest =>
          match expect '"' (skipBlanks rest) with
          | none => none
          | some rest =>
              match readValue rest with
              | none => none
              | some (value, rest) => some ((name, value), rest)

theorem length_skipBlanks (chars : List Char) : (skipBlanks chars).length ≤ chars.length :=
  (List.dropWhile_suffix _).length_le

theorem length_of_expect {expected : Char} {chars rest : List Char}
    (h : expect expected chars = some rest) : rest.length < chars.length := by
  cases chars with
  | nil => cases h
  | cons c chars =>
      simp only [expect] at h
      split at h
      · cases h
        exact Nat.lt_succ_self _
      · cases h

theorem length_of_readName {colon : Bool} {chars name rest : List Char}
    (h : readName colon chars = some (name, rest)) : rest.length < chars.length := by
  cases chars with
  | nil => cases h
  | cons c chars =>
      simp only [readName] at h
      split at h
      · cases h
        exact Nat.lt_succ_of_le (List.dropWhile_suffix _).length_le
      · cases h

/-- Every character of the value was read, and the closing quote after it. -/
theorem length_of_readValue {chars value rest : List Char}
    (h : readValue chars = some (value, rest)) :
    value.length + rest.length < chars.length := by
  fun_induction readValue chars generalizing value with
  | case1 => cases h
  | case2 after =>
      cases h
      simp
  | case3 => cases h
  | case4 escaped after plain inner last hinner hplain hquote ih =>
      cases h
      have hshorter := ih hinner
      simp only [List.length_cons]
      omega
  | case5 => cases h
  | case6 c after hquote hescape inner last hinner ih =>
      cases h
      have hshorter := ih hinner
      simp only [List.length_cons]
      omega
  | case7 => cases h

theorem length_of_readLabel {chars rest : List Char} {label : List Char × List Char}
    (h : readLabel chars = some (label, rest)) : rest.length < chars.length := by
  unfold readLabel at h
  split at h
  · cases h
  · rename_i name afterName hname
    split at h
    · cases h
    · rename_i afterEquals hequals
      split at h
      · cases h
      · rename_i afterQuote hquote
        split at h
        · cases h
        · rename_i value after hvalue
          cases h
          have h₁ := length_of_readName hname
          have h₂ := length_of_expect hequals
          have h₃ := length_of_expect hquote
          have h₄ := length_of_readValue hvalue
          have h₅ := length_skipBlanks afterName
          have h₆ := length_skipBlanks afterEquals
          omega

/-- The labels up to the closing brace, which may follow a comma, and the rest. -/
def readLabels (chars : List Char) : Option (List (List Char × List Char) × List Char) :=
  match skipBlanks chars with
  | '}' :: rest => some ([], rest)
  | _ =>
      match _hlabel : readLabel (skipBlanks chars) with
      | none => none
      | some (label, rest) =>
          match _hnext : skipBlanks rest with
          | '}' :: after => some ([label], after)
          | ',' :: after =>
              match readLabels after with
              | some (labels, last) => some (label :: labels, last)
              | none => none
          | _ => none
termination_by chars.length
decreasing_by
  have h₁ := length_of_readLabel _hlabel
  have h₂ := length_skipBlanks chars
  have h₃ := congrArg List.length _hnext
  have h₄ := length_skipBlanks rest
  simp only [List.length_cons] at h₃
  omega

/-! ## Numbers -/

/-- A number as it is written: a decimal mantissa with a power of ten, or no decimal. -/
inductive Number where
  | decimal (mantissa exponent : ℤ)
  | infinity (negative : Bool)
  | nan
  deriving DecidableEq, Repr, Inhabited

/-- A sign, and the rest. -/
def readSign : List Char → Bool × List Char
  | '-' :: rest => (true, rest)
  | '+' :: rest => (false, rest)
  | rest => (false, rest)

/-- A run of digits with its sign. -/
def signed (negative : Bool) (digits : List Char) : ℤ :=
  if negative then -(Nat.ofDigitChars 10 digits 0 : ℤ) else Nat.ofDigitChars 10 digits 0

/-- An integer. -/
def integer (token : List Char) : Option ℤ :=
  let (negative, digits) := readSign token
  if digits ≠ [] ∧ digits.all Char.isDigit then some (signed negative digits) else none

/-- What may follow the digits of a number. -/
def exponent : List Char → Option ℤ
  | [] => some 0
  | c :: rest => if c = 'e' ∨ c = 'E' then integer rest else none

/-- The digits after a decimal point, if there is one, and the rest. -/
def readFraction : List Char → List Char × List Char
  | '.' :: rest => (rest.takeWhile Char.isDigit, rest.dropWhile Char.isDigit)
  | rest => ([], rest)

/-- A decimal number without its sign. -/
def decimal (negative : Bool) (magnitude : List Char) : Option Number :=
  let whole := magnitude.takeWhile Char.isDigit
  let (fraction, rest) := readFraction (magnitude.dropWhile Char.isDigit)
  if whole ++ fraction = [] then none
  else
    (exponent rest).map fun power =>
      .decimal (signed negative (whole ++ fraction)) (power - fraction.length)

/-- A number. -/
def number (token : List Char) : Option Number :=
  let (negative, magnitude) := readSign token
  let lower := magnitude.map Char.toLower
  if lower = ['i', 'n', 'f'] ∨ lower = ['i', 'n', 'f', 'i', 'n', 'i', 't', 'y'] then
    some (.infinity negative)
  else if lower = ['n', 'a', 'n'] then some .nan
  else decimal negative magnitude

/-! ## Lines -/

/-- What a line says. -/
inductive Entry where
  | blank
  | comment
  | help (name docs : String)
  | type (name kind : String)
  | sample (name : String) (labels : List (String × String)) (value : Number)
      (timestamp : Option ℤ)
  deriving DecidableEq, Repr, Inhabited

namespace Entry

/-- Which header it is, and of which metric.  A page may hold it once. -/
def header : Entry → Option (String × String)
  | .help name _ => some ("HELP", name)
  | .type name _ => some ("TYPE", name)
  | _ => none

/-- The name and the labels of a sample.  A page may hold them once. -/
def series : Entry → Option (String × List (String × String))
  | .sample name labels _ _ => some (name, labels)
  | _ => none

/-- The labels and the value of a sample of one name. -/
def sampleOf (name : String) : Entry → Option (List (String × String) × Number)
  | .sample other labels value _ => if other = name then some (labels, value) else none
  | _ => none

end Entry

/-- The kinds of metrics. -/
def kinds : List (List Char) :=
  ["counter".toList, "gauge".toList, "histogram".toList, "summary".toList, "untyped".toList]

/-- A line whose first token is a number sign.  Only two keywords make it a header, and what
follows the name in a `HELP` line is kept as it is written. -/
def parseComment (chars : List Char) : Option Entry :=
  let (keyword, rest) := readToken (skipBlanks chars)
  let (name, rest) := readToken (skipBlanks rest)
  if keyword = "HELP".toList then
    if isName true name then
      some (.help (String.ofList name) (String.ofList (skipBlanks rest)))
    else none
  else if keyword = "TYPE".toList then
    let (kind, rest) := readToken (skipBlanks rest)
    if isName true name ∧ kind ∈ kinds ∧ skipBlanks rest = [] then
      some (.type (String.ofList name) (String.ofList kind))
    else none
  else some .comment

/-- The labels of a sample in braces, if it has any, and the rest. -/
def readBraces (chars : List Char) : Option (List (List Char × List Char) × List Char) :=
  match skipBlanks chars with
  | '{' :: rest => readLabels rest
  | rest => some ([], rest)

/-- The timestamp at the end of a sample, if there is one. -/
def readTimestamp (chars : List Char) : Option (Option ℤ) :=
  let (token, rest) := readToken (skipBlanks chars)
  if token = [] then some none
  else if skipBlanks rest = [] then (integer token).map some
  else none

/-- A sample: name, labels, value and timestamp. -/
def parseSample (chars : List Char) : Option Entry :=
  match readName true chars with
  | none => none
  | some (name, rest) =>
      match readBraces rest with
      | none => none
      | some (labels, rest) =>
          let (token, rest) := readToken (skipBlanks rest)
          match number token, readTimestamp rest with
          | some value, some timestamp =>
              some (.sample (String.ofList name)
                (labels.map fun label => (String.ofList label.1, String.ofList label.2))
                value timestamp)
          | _, _ => none

/-- A line without its line feed. -/
def parseLine (line : List Char) : Option Entry :=
  match skipBlanks line with
  | [] => some .blank
  | '#' :: rest => parseComment rest
  | chars => parseSample chars

/-- The lines that are ended by a line feed, and what follows the last of them. -/
def splitLines : List Char → List (List Char) × List Char
  | [] => ([], [])
  | c :: rest =>
      let (lines, last) := splitLines rest
      if c = '\n' then ([] :: lines, last)
      else
        match lines with
        | [] => ([], c :: last)
        | line :: lines => ((c :: line) :: lines, last)

/-- The entries of a page, whose last line is ended by a line feed too. -/
def parseLines (chars : List Char) : Option (List Entry) :=
  let (lines, last) := splitLines chars
  if last = [] then lines.mapM parseLine else none

/-- The entries of a page. -/
def parse (page : String) : Option (List Entry) := parseLines page.toList

end DaemonChoir.Foundation.Exposition
