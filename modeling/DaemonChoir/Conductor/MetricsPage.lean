import DaemonChoir.Foundation.Rendering
import DaemonChoir.Conductor.Scrape
set_option autoImplicit false

/-!
# Conductor: the text of the metrics page (`conductor/src/control_api.rs`)

`handle_metrics` inserts the name of each probe into a label as it is.  The names come
from the configuration file, where any string may stand.

The page is a list of lines (`MetricsLine`), formatted as the source formats them; a reader
of the exposition format (`Foundation.Exposition`) stands on the other side, and
`Foundation.Rendering` says what it makes of lines of each kind.  The fixed part of the
page reads as it should whatever the counters are.  What is left is the family with the
probe names: a name that is closed by a quote of its own, or ends its line, is not read
back, and two equal names give one series twice.  The page is faithful exactly when every
name reads back as itself and no two are the same.
-/

namespace DaemonChoir.Conductor

open DaemonChoir.Common DaemonChoir.Foundation DaemonChoir.Foundation.Exposition

/-! ## The text -/

/-- `{}` of an `f64`. -/
class Display (F : Type) [Float64 F] where
  display : F → String
  /-- The sums are finite and not negative, and are written without an exponent. -/
  isDecimal_sum : ∀ us : UInt64,
    IsDecimal (display (Float64.div (Float64.ofNat us.toNat) (Float64.lit 1000))).toList

/-- The digits after the point, without the zeros at the end. -/
def fractionDigits (thousandths : ℕ) : List Char :=
  let digits := [thousandths % 10, thousandths / 10 % 10, thousandths / 100 % 10].map Nat.digitChar
  (digits.dropWhile (· == '0')).reverse

/-- The shortest decimal that stands for a number of thousandths. -/
def displayThousandths (thousandths : ℕ) : List Char :=
  let whole := Nat.toDigits 10 (thousandths / 1000)
  let fraction := fractionDigits thousandths
  if fraction = [] then whole else whole ++ '.' :: fraction

theorem isDigit_of_mem_fractionDigits {thousandths : ℕ} :
    ∀ c ∈ fractionDigits thousandths, c.isDigit = true := by
  intro c hmem
  have hdigits := (List.dropWhile_suffix _).subset (List.mem_reverse.mp hmem)
  obtain ⟨digit, hdigit, rfl⟩ := List.mem_map.mp hdigits
  have hsmall : digit < 10 := by
    simp only [List.mem_cons, List.not_mem_nil, or_false] at hdigit
    omega
  rw [Nat.isDigit_digitChar, decide_eq_true hsmall]

theorem isDecimal_displayThousandths (thousandths : ℕ) :
    IsDecimal (displayThousandths thousandths) := by
  refine ⟨Nat.toDigits 10 (thousandths / 1000), fractionDigits thousandths,
    Nat.toDigits_ne_nil, ?_, isDigit_of_mem_fractionDigits, ?_⟩
  · intro c hmem
    exact Nat.isDigit_of_mem_toDigits (by decide) (by decide) hmem
  · dsimp only [displayThousandths]
    split
    · exact .inl rfl
    · exact .inr rfl

/-- Rational numbers are written exactly as far as thousandths go. -/
instance : Display ℚ where
  display q := String.ofList (displayThousandths ⌊q * 1000⌋.toNat)
  isDecimal_sum us := by
    rw [String.toList_ofList]
    exact isDecimal_displayThousandths _

/-- Labels in braces, their values inserted as they are. -/
def formatLabels (labels : List (String × String)) : String :=
  if labels = [] then ""
  else
    "\x7b" ++ String.intercalate "," (labels.map fun label =>
      label.1 ++ "=\"" ++ label.2 ++ "\"") ++ "\x7d"

section Text

variable {F : Type} [Float64 F] [Display F]

/-- A line without its line feed. -/
def MetricsLine.format : MetricsLine F → String
  | .text line => line
  | .sample family labels value =>
      family ++ formatLabels labels ++ " " ++ Nat.repr value.toNat
  | .sampleMs family value => family ++ " " ++ Display.display value

/-- The lines pushed one after the other. -/
def pushLines (lines : List (MetricsLine F)) : String :=
  lines.foldl (fun response line => response ++ line.format ++ "\n") ""

variable (F) in
/-- The body of the response as text. -/
def metricsPage (probesStats : List ProbeStats) (value : Counter → UInt64) : String :=
  pushLines (metricsBody (F := F) probesStats value)

theorem toList_pushLines (lines : List (MetricsLine F)) :
    (pushLines lines).toList = joinLines (lines.map fun line => line.format.toList) := by
  have hpush : ∀ response : String,
      (lines.foldl (fun response line => response ++ line.format ++ "\n") response).toList =
        response.toList ++ joinLines (lines.map fun line => line.format.toList) := by
    induction lines with
    | nil =>
        intro response
        simp [joinLines]
    | cons line rest ih =>
        intro response
        rw [List.foldl_cons, ih, List.map_cons, joinLines_cons]
        simp
  rw [pushLines, hpush]
  rfl

/-! ## What a line says -/

/-- The line says the entry. -/
def MetricsLine.Says (line : MetricsLine F) (entry : Entry) : Prop :=
  Reads line.format.toList entry

theorem isDecimal_counter (value : UInt64) : IsDecimal (Nat.toDigits 10 value.toNat) := by
  refine ⟨_, [], Nat.toDigits_ne_nil, ?_, nofun, .inl rfl⟩
  intro c hmem
  exact Nat.isDigit_of_mem_toDigits (by decide) (by decide) hmem

theorem number_counter (value : UInt64) :
    number (Nat.toDigits 10 value.toNat) = some (.decimal value.toNat 0) := by
  rw [number_digits Nat.toDigits_ne_nil, Nat.ofDigitChars_ten_toDigits]
  intro c hmem
  exact Nat.isDigit_of_mem_toDigits (by decide) (by decide) hmem

theorem toList_format_labelled (family key name : String) (value : UInt64) :
    (MetricsLine.sample (F := F) family [(key, name)] value).format.toList =
      labelledLine family.toList key.toList name.toList (Nat.toDigits 10 value.toNat) := by
  simp [MetricsLine.format, formatLabels, labelledLine, Nat.toList_repr]

theorem says_sample {family : String} (hfamily : isName true family.toList = true)
    (value : UInt64) :
    (MetricsLine.sample (F := F) family [] value).Says
      (.sample family [] (.decimal value.toNat 0) none) := by
  have hformat : (MetricsLine.sample (F := F) family [] value).format.toList =
      bareLine family.toList (Nat.toDigits 10 value.toNat) := by
    simp [MetricsLine.format, formatLabels, bareLine, Nat.toList_repr]
  rw [MetricsLine.Says, hformat]
  exact reads_bareLine hfamily (isDecimal_counter value) (number_counter value)

theorem says_labelled {family key name : String} (hfamily : isName true family.toList = true)
    (hkey : isName false key.toList = true) (hname : IsPlain name.toList) (value : UInt64) :
    (MetricsLine.sample (F := F) family [(key, name)] value).Says
      (.sample family [(key, name)] (.decimal value.toNat 0) none) := by
  rw [MetricsLine.Says, toList_format_labelled]
  exact reads_labelledLine hfamily hkey hname (isDecimal_counter value) (number_counter value)

variable (F) in
/-- What the page says of a sum. -/
def sumNumber (us : UInt64) : Number :=
  (number (Display.display
    (Float64.div (Float64.ofNat us.toNat) (Float64.lit 1000) : F)).toList).getD .nan

theorem says_sum {family : String} (hfamily : isName true family.toList = true)
    (us : UInt64) :
    (MetricsLine.sampleMs (F := F) family
      (Float64.div (Float64.ofNat us.toNat) (Float64.lit 1000))).Says
        (.sample family [] (sumNumber F us) none) := by
  have hdecimal := Display.isDecimal_sum (F := F) us
  obtain ⟨x, hx⟩ := number_of_isDecimal hdecimal
  have hformat : (MetricsLine.sampleMs (F := F) family
      (Float64.div (Float64.ofNat us.toNat) (Float64.lit 1000))).format.toList =
        bareLine family.toList (Display.display
          (Float64.div (Float64.ofNat us.toNat) (Float64.lit 1000) : F)).toList := by
    simp [MetricsLine.format, bareLine]
  rw [MetricsLine.Says, hformat, sumNumber, hx]
  exact reads_bareLine hfamily hdecimal hx

theorem says_help {family docs line : String} (hfamily : isName true family.toList = true)
    (hdocs : docs.toList.head?.any isBlank = false) (hfeed : '\n' ∉ docs.toList)
    (hline : line = "# HELP " ++ family ++ " " ++ docs) :
    (MetricsLine.text (F := F) line).Says (.help family docs) := by
  have hformat : line.toList = headerLine "HELP".toList family.toList docs.toList := by
    simp [hline, headerLine]
  rw [MetricsLine.Says, MetricsLine.format, hformat]
  exact reads_help hfamily hdocs hfeed

theorem says_type {family kind line : String} (hfamily : isName true family.toList = true)
    (hkind : kind.toList ∈ kinds) (hline : line = "# TYPE " ++ family ++ " " ++ kind) :
    (MetricsLine.text (F := F) line).Says (.type family kind) := by
  have hformat : line.toList = headerLine "TYPE".toList family.toList kind.toList := by
    simp [hline, headerLine]
  rw [MetricsLine.Says, MetricsLine.format, hformat]
  exact reads_type hfamily hkind

theorem says_blank : (MetricsLine.text (F := F) "").Says .blank := reads_blank

theorem reads_format {lines : List (MetricsLine F)} {entries : List Entry}
    (h : List.Forall₂ MetricsLine.Says lines entries) :
    List.Forall₂ Reads (lines.map fun line => line.format.toList) entries :=
  List.forall₂_map_left_iff.mpr h

end Text

/-! ## What the page says -/

/-- A counter of the page. -/
def counterEntry (family : String) (labels : List (String × String)) (value : UInt64) : Entry :=
  .sample family labels (.decimal value.toNat 0) none

/-- The section of the two counters of the dispatcher. -/
def dispatchEntries (value : Counter → UInt64) : List Entry :=
  [.help "osc_dispatch_total" "Total OSC dispatches attempted",
    .type "osc_dispatch_total" "counter",
    counterEntry "osc_dispatch_total" [("backend", "osc")] (value .oscDispatchTotal),
    .blank,
    .help "osc_dispatch_success_total" "Successful OSC dispatches",
    .type "osc_dispatch_success_total" "counter",
    counterEntry "osc_dispatch_success_total" [("backend", "osc")]
      (value .oscDispatchSuccessTotal),
    .blank]

/-- The headers of the lost events. -/
def eventsLostHeaders : List Entry :=
  [.help "events_lost_total" "Ring buffer events lost due to overflow",
    .type "events_lost_total" "counter"]

/-- The pairs of name and lost events that the page is about. -/
def lostPairs (names : List String) (value : Counter → UInt64) : List (String × UInt64) :=
  names.zipIdx.map fun (name, index) => (name, value (.eventsLost index))

/-- The sample of a pair. -/
def lostEntry (pair : String × UInt64) : Entry :=
  counterEntry "events_lost_total" [("probe", pair.1)] pair.2

section Entries

variable (F : Type) [Float64 F] [Display F]

/-- The section of a histogram. -/
def histogramEntries (family help : String) (value : HistogramCell → UInt64) : List Entry :=
  [.help family help,
    .type family "histogram",
    counterEntry (family ++ "_bucket") [("le", "5")] (value .bucketLe5),
    counterEntry (family ++ "_bucket") [("le", "10")] (value .bucketLe10),
    counterEntry (family ++ "_bucket") [("le", "20")] (value .bucketLe20),
    counterEntry (family ++ "_bucket") [("le", "+Inf")] (value .count),
    .sample (family ++ "_sum") [] (sumNumber F (value .sumUs)) none,
    counterEntry (family ++ "_count") [] (value .count),
    .blank]

/-- What follows the lost events. -/
def laterEntries (value : Counter → UInt64) : List Entry :=
  .blank ::
    histogramEntries F "dispatch_latency_ms" "Ring buffer to OSC dispatch latency"
      (fun cell => value (.dispatchLatency cell)) ++
    histogramEntries F "api_response_ms" "Control API response latency"
      (fun cell => value (.apiResponse cell)) ++
    [.help "probe_load_errors_total" "eBPF probe load failures",
      .type "probe_load_errors_total" "counter",
      counterEntry "probe_load_errors_total" [] (value .probeLoadErrorsTotal)]

/-- The page, when every name can stand in a label as it is. -/
def metricsEntries (names : List String) (value : Counter → UInt64) : List Entry :=
  dispatchEntries value ++ eventsLostHeaders ++ (lostPairs names value).map lostEntry ++
    laterEntries F value

end Entries

/-! ## The page line by line -/

section Lines

variable {F : Type} [Float64 F] [Display F]

/-- The line of a pair. -/
def lostLine (pair : String × UInt64) : MetricsLine F :=
  .sample "events_lost_total" [("probe", pair.1)] pair.2

/-- The lines in front of the lost events. -/
def frontLines (value : Counter → UInt64) : List (MetricsLine F) :=
  dispatchLines value ++
    [.text "# HELP events_lost_total Ring buffer events lost due to overflow",
      .text "# TYPE events_lost_total counter"]

/-- The lines after the lost events. -/
def laterLines (value : Counter → UInt64) : List (MetricsLine F) :=
  .text "" ::
    histogramLines "dispatch_latency_ms" "Ring buffer to OSC dispatch latency"
      (fun cell => value (.dispatchLatency cell)) ++
    histogramLines "api_response_ms" "Control API response latency"
      (fun cell => value (.apiResponse cell)) ++
    probeLoadErrorLines value

omit [Display F] in
theorem metricsBody_eq (probesStats : List ProbeStats) (value : Counter → UInt64) :
    metricsBody (F := F) probesStats value =
      frontLines value ++ ((lostPairs (probesStats.map ProbeStats.name) value).map lostLine ++
        laterLines value) := by
  have hlost : (lostPairs (probesStats.map ProbeStats.name) value).map (lostLine (F := F)) =
      probesStats.zipIdx.map fun entry =>
        .sample "events_lost_total" [("probe", entry.1.name)] (value (.eventsLost entry.2)) := by
    simp [lostPairs, List.zipIdx_map, lostLine]
  rw [hlost]
  simp [metricsBody, eventsLostLines, frontLines, laterLines]

theorem frontLines_entries (value : Counter → UInt64) :
    List.Forall₂ MetricsLine.Says (frontLines (F := F) value)
      (dispatchEntries value ++ eventsLostHeaders) := by
  have hname : isName true "osc_dispatch_total".toList = true := by decide
  refine .cons ?_ (.cons ?_ (.cons ?_ (.cons ?_ (.cons ?_ (.cons ?_ (.cons ?_ (.cons ?_
    (.cons ?_ (.cons ?_ .nil)))))))))
  · exact says_help hname (by decide) (by decide) rfl
  · exact says_type hname (by decide) rfl
  · exact says_labelled hname (by decide) (by decide) _
  · exact says_blank
  · exact says_help (by decide) (by decide) (by decide) rfl
  · exact says_type (by decide) (by decide) rfl
  · exact says_labelled (by decide) (by decide) (by decide) _
  · exact says_blank
  · exact says_help (by decide) (by decide) (by decide) rfl
  · exact says_type (by decide) (by decide) rfl

/-- The names of the samples of a histogram are names as well. -/
theorem histogramLines_entries {family help : String} (hfamily : isName true family.toList = true)
    (hhelp : help.toList.head?.any isBlank = false) (hfeed : '\n' ∉ help.toList)
    (value : HistogramCell → UInt64) :
    List.Forall₂ MetricsLine.Says (histogramLines (F := F) family help value)
      (histogramEntries F family help value) := by
  have hsuffix : ∀ suffix : String, suffix.toList.all (isNameChar true) = true →
      isName true (family ++ suffix).toList = true := by
    intro suffix hchars
    rw [String.toList_append]
    exact isName_append hfamily hchars
  have hbucket := hsuffix "_bucket" (by decide)
  have htype : "# TYPE " ++ family ++ " histogram" =
      "# TYPE " ++ family ++ " " ++ "histogram" := by
    have hword : " histogram" = " " ++ "histogram" := rfl
    rw [hword, ← String.append_assoc]
  refine .cons ?_ (.cons ?_ (.cons ?_ (.cons ?_ (.cons ?_ (.cons ?_ (.cons ?_ (.cons ?_
    (.cons ?_ .nil))))))))
  · exact says_help hfamily hhelp hfeed rfl
  · exact says_type hfamily (by decide) htype
  · exact says_labelled hbucket (by decide) (by decide) _
  · exact says_labelled hbucket (by decide) (by decide) _
  · exact says_labelled hbucket (by decide) (by decide) _
  · exact says_labelled hbucket (by decide) (by decide) _
  · exact says_sum (hsuffix "_sum" (by decide)) _
  · exact says_sample (hsuffix "_count" (by decide)) _
  · exact says_blank

theorem probeLoadErrorLines_entries (value : Counter → UInt64) :
    List.Forall₂ (MetricsLine.Says (F := F)) (probeLoadErrorLines value)
      [.help "probe_load_errors_total" "eBPF probe load failures",
        .type "probe_load_errors_total" "counter",
        counterEntry "probe_load_errors_total" [] (value .probeLoadErrorsTotal)] := by
  have hname : isName true "probe_load_errors_total".toList = true := by decide
  refine .cons ?_ (.cons ?_ (.cons ?_ .nil))
  · exact says_help hname (by decide) (by decide) rfl
  · exact says_type hname (by decide) rfl
  · exact says_sample hname _

theorem laterLines_entries (value : Counter → UInt64) :
    List.Forall₂ MetricsLine.Says (laterLines (F := F) value) (laterEntries F value) := by
  refine List.rel_append (List.rel_append (.cons says_blank ?_) ?_) ?_
  · exact histogramLines_entries (by decide) (by decide) (by decide) _
  · exact histogramLines_entries (by decide) (by decide) (by decide) _
  · exact probeLoadErrorLines_entries value

theorem lostLines_entries {pairs : List (String × UInt64)}
    (h : ∀ pair ∈ pairs, IsPlain pair.1.toList) :
    List.Forall₂ (MetricsLine.Says (F := F)) (pairs.map lostLine) (pairs.map lostEntry) := by
  induction pairs with
  | nil => exact .nil
  | cons pair rest ih =>
      refine .cons ?_ (ih fun other hmem => h other (List.mem_cons_of_mem pair hmem))
      exact says_labelled (by decide) (by decide) (h pair List.mem_cons_self) pair.2

end Lines

/-! ## What is read back -/

/-- The labels and the value that stand for a pair. -/
def lostSample (pair : String × UInt64) : List (String × String) × Number :=
  ([("probe", pair.1)], .decimal pair.2.toNat 0)

/-- The entries are those of one page, and their lost events are the pairs. -/
structure Faithful (entries : List Entry) (pairs : List (String × UInt64)) : Prop where
  headers : (entries.filterMap Entry.header).Nodup
  series : (entries.filterMap Entry.series).Nodup
  lost : entries.filterMap (Entry.sampleOf "events_lost_total") = pairs.map lostSample

/-- The series of a probe. -/
def lostSeries (name : String) : String × List (String × String) :=
  ("events_lost_total", [("probe", name)])

/-- The series in front of those of the probes. -/
def frontSeries : List (String × List (String × String)) :=
  [("osc_dispatch_total", [("backend", "osc")]),
    ("osc_dispatch_success_total", [("backend", "osc")])]

/-- The series of a histogram. -/
def histogramSeries (family : String) : List (String × List (String × String)) :=
  [(family ++ "_bucket", [("le", "5")]), (family ++ "_bucket", [("le", "10")]),
    (family ++ "_bucket", [("le", "20")]), (family ++ "_bucket", [("le", "+Inf")]),
    (family ++ "_sum", []), (family ++ "_count", [])]

/-- The series after those of the probes. -/
def laterSeries : List (String × List (String × String)) :=
  histogramSeries "dispatch_latency_ms" ++ histogramSeries "api_response_ms" ++
    [("probe_load_errors_total", [])]

/-- The headers of the page. -/
def pageHeaders : List (String × String) :=
  ["osc_dispatch_total", "osc_dispatch_success_total", "events_lost_total",
    "dispatch_latency_ms", "api_response_ms", "probe_load_errors_total"].flatMap
      fun family => [("HELP", family), ("TYPE", family)]

/-- The other series are distinct, and none is that of a probe. -/
theorem series_nodup_iff (names : List String) :
    (frontSeries ++ (names.map lostSeries ++ laterSeries)).Nodup ↔ names.Nodup := by
  have hinjective : Function.Injective lostSeries := by
    intro name other heq
    cases heq
    rfl
  have hfront : ∀ series ∈ frontSeries, series.1 ≠ "events_lost_total" := by decide
  have hlater : ∀ series ∈ laterSeries, series.1 ≠ "events_lost_total" := by decide
  have hapart : ∀ series ∈ frontSeries, ∀ other ∈ laterSeries, series ≠ other := by decide
  rw [List.nodup_append, List.nodup_append, List.nodup_map_iff hinjective]
  constructor
  · rintro ⟨_, ⟨hnames, _⟩, _⟩
    exact hnames
  · intro hnames
    refine ⟨by decide, ⟨hnames, by decide, ?_⟩, ?_⟩
    · intro series hseries other hother heq
      obtain ⟨name, _, rfl⟩ := List.mem_map.mp hseries
      exact hlater other hother (congrArg Prod.fst heq).symm
    · intro series hseries other hother heq
      rcases List.mem_append.mp hother with hmine | hmine
      · obtain ⟨name, _, rfl⟩ := List.mem_map.mp hmine
        exact hfront series hseries (congrArg Prod.fst heq)
      · exact hapart series hseries other hmine heq

theorem map_fst_lostPairs (names : List String) (value : Counter → UInt64) :
    (lostPairs names value).map Prod.fst = names := by
  have hfst := List.zipIdx_map_fst 0 names
  rw [lostPairs, List.map_map]
  exact hfst

theorem forall_lostPairs_iff (names : List String) (value : Counter → UInt64)
    {p : String → Prop} : (∀ pair ∈ lostPairs names value, p pair.1) ↔ ∀ name ∈ names, p name := by
  have hmap : (∀ name ∈ (lostPairs names value).map Prod.fst, p name) ↔
      ∀ pair ∈ lostPairs names value, p pair.1 := List.forall_mem_map
  rw [← hmap, map_fst_lostPairs]

/-- The page is well formed, and gives back the pairs. -/
def PageFaithful (page : String) (pairs : List (String × UInt64)) : Prop :=
  ∃ entries, parse page = some entries ∧ Faithful entries pairs

section ReadBack

theorem filterMap_lostEntry (pairs : List (String × UInt64)) :
    (pairs.map lostEntry).filterMap Entry.header = [] ∧
      (pairs.map lostEntry).filterMap Entry.series =
        (pairs.map Prod.fst).map lostSeries ∧
      (pairs.map lostEntry).filterMap (Entry.sampleOf "events_lost_total") =
        pairs.map lostSample := by
  induction pairs with
  | nil => exact ⟨rfl, rfl, rfl⟩
  | cons pair rest ih =>
      obtain ⟨hheader, hseries, hlost⟩ := ih
      refine ⟨hheader, ?_, ?_⟩
      · exact congrArg (List.cons _) hseries
      · exact congrArg (List.cons _) hlost

theorem lost_of_front (value : Counter → UInt64) :
    (dispatchEntries value ++ eventsLostHeaders).filterMap
      (Entry.sampleOf "events_lost_total") = [] := rfl

variable (F : Type) [Float64 F] [Display F]

/-- The page of names that can stand in a label as they are. -/
theorem metricsEntries_faithful_iff (names : List String) (value : Counter → UInt64) :
    Faithful (metricsEntries F names value) (lostPairs names value) ↔ names.Nodup := by
  obtain ⟨hheader, hseries, hlost⟩ := filterMap_lostEntry (lostPairs names value)
  have hall : (metricsEntries F names value).filterMap Entry.series =
      frontSeries ++ (names.map lostSeries ++ laterSeries) := by
    rw [metricsEntries, List.filterMap_append, List.filterMap_append, hseries,
      map_fst_lostPairs, List.append_assoc]
    rfl
  rw [← series_nodup_iff names, ← hall]
  constructor
  · intro h
    exact h.series
  · intro h
    refine ⟨?_, h, ?_⟩
    · rw [metricsEntries, List.filterMap_append, List.filterMap_append, hheader, List.append_nil]
      have hfixed : (dispatchEntries value ++ eventsLostHeaders).filterMap Entry.header ++
          (laterEntries F value).filterMap Entry.header = pageHeaders := rfl
      rw [hfixed]
      decide
    · rw [metricsEntries, List.filterMap_append, List.filterMap_append, hlost]
      exact List.append_nil _

/-- Lines of lost events are only read back as their pairs when the names can stand in a
label as they are. -/
theorem plain_of_lost {pairs : List (String × UInt64)} {rest : List Char}
    {entries : List Entry} {more : List (List (String × String) × Number)}
    (h : parseLines (joinLines ((pairs.map (lostLine (F := F))).map fun line =>
      line.format.toList) ++ rest) = some entries)
    (hlost : entries.filterMap (Entry.sampleOf "events_lost_total") =
      pairs.map lostSample ++ more) :
    ∀ pair ∈ pairs, IsPlain pair.1.toList := by
  induction pairs generalizing entries with
  | nil => exact nofun
  | cons pair others ih =>
      obtain ⟨name, lost⟩ := pair
      have hfamily : isName true "events_lost_total".toList = true := by decide
      have hkey : isName false "probe".toList = true := by decide
      rw [List.map_cons, List.map_cons, joinLines_cons, List.append_assoc, List.cons_append,
        lostLine] at h
      have hplain : IsPlain name.toList := by
        rw [toList_format_labelled] at h
        rcases plain_or_shorter hfamily hkey (isDecimal_counter lost) h with
          hplain | ⟨shorter, labels, x, timestamp, later, rfl, hshorter⟩
        · exact hplain
        · -- the first sample would have to say the whole name
          have hlabels := congrArg Prod.fst (List.cons.inj hlost).1
          have hname : shorter = name := congrArg Prod.snd (List.cons.inj hlabels).1
          rw [hname] at hshorter
          exact absurd hshorter (Nat.lt_irrefl _)
      have hreads := says_labelled (F := F) hfamily hkey hplain lost
      obtain ⟨entry, later, hentry, hlater, rfl⟩ := exists_first_entry hreads.noFeed h
      rw [hreads.parsed] at hentry
      cases hentry
      have hrest := ih hlater (List.cons.inj hlost).2
      intro other hmem
      rcases List.mem_cons.mp hmem with rfl | hmem
      · exact hplain
      · exact hrest other hmem

theorem parse_metricsPage {probesStats : List ProbeStats}
    (h : ∀ name ∈ probesStats.map ProbeStats.name, IsPlain name.toList)
    (value : Counter → UInt64) :
    parse (metricsPage F probesStats value) =
      some (metricsEntries F (probesStats.map ProbeStats.name) value) := by
  have hpairs := (forall_lostPairs_iff _ value).mpr h
  have hlines := List.rel_append (frontLines_entries (F := F) value)
    (List.rel_append (lostLines_entries hpairs) (laterLines_entries value))
  rw [parse, metricsPage, toList_pushLines, metricsBody_eq, metricsEntries, List.append_assoc]
  exact parseLines_of_reads (reads_format hlines)

/-- A page that is read back faithfully is one of names that can stand in a label as they
are. -/
theorem plain_of_faithful {probesStats : List ProbeStats} {value : Counter → UInt64}
    {entries : List Entry}
    (hparse : parse (metricsPage F probesStats value) = some entries)
    (h : Faithful entries (lostPairs (probesStats.map ProbeStats.name) value)) :
    ∀ name ∈ probesStats.map ProbeStats.name, IsPlain name.toList := by
  have hfront := reads_format (frontLines_entries (F := F) value)
  rw [parse, metricsPage, toList_pushLines, metricsBody_eq, List.map_append,
    joinLines_append, parseLines_append hfront] at hparse
  obtain ⟨later, hlater, rfl⟩ := Option.map_eq_some_iff.mp hparse
  rw [List.map_append, joinLines_append] at hlater
  have hlost := h.lost
  rw [List.filterMap_append, lost_of_front, List.nil_append, ← List.append_nil
    (List.map _ _)] at hlost
  exact (forall_lostPairs_iff _ value).mp (plain_of_lost F hlater hlost)

end ReadBack

/-! ## The enabled probes -/

theorem startProbe_name (ebpfFeature simulate : Bool) (loadFile : Option Bpf)
    (probe : ProbeStats) :
    (startProbe ebpfFeature simulate loadFile probe).1.name = probe.name := by
  unfold startProbe
  split
  · rfl
  · rfl

theorem map_name_probesInfo (ebpfFeature simulate : Bool) (loadFile : ℕ → Option Bpf)
    (enabledProbes : List String) :
    (probesInfo ebpfFeature simulate loadFile enabledProbes).map ProbeStats.name =
      enabledProbes := by
  apply List.ext_getElem?
  intro position
  simp only [probesInfo, start, newProbes, List.getElem?_map, List.getElem?_mapIdx,
    Option.map_map]
  cases enabledProbes[position]? with
  | none => rfl
  | some name => exact congrArg some (startProbe_name ..)

section Enabled

variable (F : Type) [Float64 F] [Display F]

theorem pageFaithful_iff (probesStats : List ProbeStats) (value : Counter → UInt64) :
    PageFaithful (metricsPage F probesStats value)
        (lostPairs (probesStats.map ProbeStats.name) value) ↔
      (∀ name ∈ probesStats.map ProbeStats.name, IsPlain name.toList) ∧
        (probesStats.map ProbeStats.name).Nodup := by
  constructor
  · rintro ⟨entries, hparse, hfaithful⟩
    have hplain := plain_of_faithful F hparse hfaithful
    rw [parse_metricsPage F hplain] at hparse
    cases hparse
    exact ⟨hplain, (metricsEntries_faithful_iff F _ value).mp hfaithful⟩
  · rintro ⟨hplain, hnames⟩
    exact ⟨_, parse_metricsPage F hplain value,
      (metricsEntries_faithful_iff F _ value).mpr hnames⟩

/-- For any counters and however the probes were started, the page is well formed and gives
back the lost events exactly when the enabled names are distinct and none holds a double
quote, a backslash or a line feed. -/
theorem metricsPage_faithful_iff (ebpfFeature simulate : Bool) (loadFile : ℕ → Option Bpf)
    (enabledProbes : List String) (value : Counter → UInt64) :
    PageFaithful (metricsPage F (probesInfo ebpfFeature simulate loadFile enabledProbes) value)
        (lostPairs enabledProbes value) ↔
      (∀ name ∈ enabledProbes, IsPlain name.toList) ∧ enabledProbes.Nodup := by
  have hpage := pageFaithful_iff F (probesInfo ebpfFeature simulate loadFile enabledProbes) value
  rw [map_name_probesInfo] at hpage
  exact hpage

end Enabled

/-- A probe that is enabled twice has two samples with the same labels. -/
theorem metricsPage_not_always_faithful :
    ¬ ∀ (enabledProbes : List String) (value : Counter → UInt64),
      PageFaithful (metricsPage ℚ (probesInfo true false (fun _ => none) enabledProbes) value)
        (lostPairs enabledProbes value) := by
  intro h
  have htwice := h ["cpu_sched", "cpu_sched"] fun _ => 0
  have hpage := pageFaithful_iff ℚ
    (probesInfo true false (fun _ => none) ["cpu_sched", "cpu_sched"]) fun _ => 0
  rw [map_name_probesInfo] at hpage
  exact absurd (hpage.mp htwice).2 (by decide)

/-! ## The response of a scrape -/

namespace Scrape

variable {F : Type} [Float64 F] [Display F] {probesStats : List ProbeStats} {responseMs : F}
  {tasks : List (MetricsTask F)} {trace : List (Threads Scrape MetricsOp × ℕ)}
  {final : Threads Scrape MetricsOp}

theorem probesStats_perform (scrape : Scrape) (operation : MetricsOp) :
    (scrape.perform operation).metrics.probesStats = scrape.metrics.probesStats := by
  cases operation <;> rfl

omit [Display F] in
/-- No thread changes the list of the probes. -/
theorem probesStats_of_run
    (run : Run (Threads.step perform) (started probesStats responseMs tasks) trace final) :
    final.memory.metrics.probesStats = probesStats := by
  apply run.state_invariant (fun threads => threads.memory.metrics.probesStats = probesStats) rfl
  intro threads next thread h taken
  obtain ⟨operation, rest, _, _, hmemory, _⟩ := Threads.step_cases taken
  rw [hmemory, probesStats_perform]
  exact h

/-- Whatever the other threads do meanwhile, the response is well formed, and gives back
the lost events that were loaded, for the same lists of names. -/
theorem response_faithful_iff
    (run : Run (Threads.step perform) (started probesStats responseMs tasks) trace final)
    {response : List (MetricsLine F)} (answered : final.memory.response? = some response) :
    PageFaithful (pushLines response) (lostPairs (probesStats.map ProbeStats.name)
        fun counter => (final.memory.local? counter).getD 0) ↔
      (∀ name ∈ probesStats.map ProbeStats.name, IsPlain name.toList) ∧
        (probesStats.map ProbeStats.name).Nodup := by
  unfold response? at answered
  dsimp only at answered
  split at answered
  · cases answered
    rw [probesStats_of_run run]
    exact pageFaithful_iff F probesStats _
  · cases answered

end Scrape

end DaemonChoir.Conductor
