import KayobeConfig.Smartmon.Lines

/-!
`write_metrics_to_textfile`: the writer takes each formatted line apart again with
unescaped splits and stores its value in a gauge of a fresh registry. It gives back
what was formatted exactly when no label value holds a separator of the format.
-/

namespace Smartmon

open Library

def validMetricName (name : String) : Bool :=
  match name.toList with
  | [] => false
  | first :: rest =>
      let start := fun char : Char => char.isAlpha || char == '_' || char == ':'
      start first && rest.all fun char => start char || char.isDigit

def validLabelName (name : String) : Bool :=
  match name.toList with
  | [] => false
  | first :: rest =>
      let start := fun char : Char => char.isAlpha || char == '_'
      start first && rest.all (fun char => start char || char.isDigit) && !startswith name "__"

/-- What `Gauge(name, help, labelnames)` takes. Names of the classic data model are accepted. -/
structure PrometheusClient where
  accepts : String → List String → Bool
  accepts_valid : ∀ name labelNames, validMetricName name = true →
    (∀ labelName ∈ labelNames, validLabelName labelName = true) → accepts name labelNames = true

def classicClient : PrometheusClient where
  accepts name labelNames := validMetricName name && labelNames.all validLabelName
  accepts_valid name labelNames validName validLabels := by
    simp only [Bool.and_eq_true, List.all_eq_true]
    exact ⟨validName, validLabels⟩

structure Gauge (Float : Type) where
  labelNames : List String
  samples : Dict (List String) Float

abbrev Registry (Float : Type) := Dict String (Gauge Float)

variable {R : PyRuntime}

def isQuote (char : Char) : Bool := char == '"'

def parseLabel (label : List Char) : Option (String × String) :=
  (splitFirst '=' label).map fun parts =>
    (String.ofList (stripOf isSpace parts.1), String.ofList (stripOf isQuote parts.2))

def parseLabels (labelStr : List Char) : List (String × String) :=
  (labelStr.splitOn ',').filterMap parseLabel

def unpackSplit (separator : Char) (text : List Char) : Except PyError (List Char × List Char) :=
  (splitFirst separator text).elim (.error .valueError) .ok

def gaugeFor (client : PrometheusClient) (registry : Registry R.Float) (metricName : String)
    (labelKeys : List String) : Except PyError (Gauge R.Float) :=
  match registry.get? metricName with
  | some gauge => .ok gauge
  | none =>
      if client.accepts metricName labelKeys then .ok ⟨labelKeys, Dict.empty⟩
      else .error .valueError

def setSample (gauge : Gauge R.Float) (labelValues : List String) (value : List Char) :
    Except PyError (Gauge R.Float) :=
  -- prometheus_client has no `labels()` on a gauge without label names.
  if gauge.labelNames = [] ∨ labelValues.length ≠ gauge.labelNames.length then .error .valueError
  else
    match R.ofText (String.ofList value) with
    | none => .error .valueError
    | some number => .ok { gauge with samples := gauge.samples.set labelValues number }

def writeMetric (client : PrometheusClient) (registry : Registry R.Float) (metric : List Char) :
    Except PyError (Registry R.Float) := do
  let (name, rest) ← unpackSplit '{' metric
  let (labelStr, value) ← unpackSplit '}' rest
  let labels := parseLabels labelStr
  let gauge ← gaugeFor client registry (String.ofList name) (labels.map Prod.fst)
  let updated ← setSample gauge (labels.map Prod.snd) (stripOf isSpace value)
  return registry.set (String.ofList name) updated

def writeMetricsToTextfile (client : PrometheusClient) (metrics : List (List Char)) :
    Except PyError (Registry R.Float) :=
  metrics.foldlM (writeMetric client) Dict.empty

def Registry.Holds {Float : Type} (registry : Registry Float) (name : String)
    (labels : List (String × String)) (value : Float) : Prop :=
  ∃ gauge values, Dict.get? registry name = some gauge ∧ gauge.samples.get? values = some value ∧
    values.length = gauge.labelNames.length ∧ (gauge.labelNames.zip values).Perm labels

def MetricValue.number (value : MetricValue R.Float) : Option R.Float :=
  match value with
  | .int value => R.ofInt value
  | .float value => some value

def MetricLine.sameSeries (line other : MetricLine R) : Bool :=
  line.name == other.name && line.labels == other.labels

def lastOfSeries (lines : List (MetricLine R)) (line : MetricLine R) : Option (MetricLine R) :=
  lines.reverse.find? fun other => line.sameSeries other

/-- The writer completes, and every line's series has the value of the last such line. -/
def RoundTrips (client : PrometheusClient) (lines : List (MetricLine R)) : Prop :=
  ∃ registry : Registry R.Float,
    writeMetricsToTextfile client (lines.map MetricLine.text) = .ok registry ∧
    ∀ line ∈ lines, ∃ last value, lastOfSeries lines line = some last ∧
      last.value.number = some value ∧ registry.Holds line.name line.labels value

theorem lastOfSeries_some {lines : List (MetricLine R)} {line last : MetricLine R}
    (found : lastOfSeries lines line = some last) :
    last ∈ lines ∧ last.name = line.name ∧ last.labels = line.labels ∧
      lastOfSeries lines last = some last := by
  have member : last ∈ lines := by simpa using List.mem_of_find?_eq_some found
  have same : line.sameSeries last = true := List.find?_some found
  simp only [MetricLine.sameSeries, Bool.and_eq_true, beq_iff_eq] at same
  refine ⟨member, same.1.symm, same.2.symm, ?_⟩
  unfold lastOfSeries MetricLine.sameSeries at found ⊢
  rw [← same.1, ← same.2]
  exact found

/-- A label value that the splits and the quote stripping leave whole. -/
def Clean (value : String) : Prop :=
  ',' ∉ value.toList ∧ '}' ∉ value.toList ∧ Trimmed isQuote value.toList

instance (value : String) : Decidable (Clean value) := inferInstanceAs (Decidable (_ ∧ _ ∧ _))

structure MetricLine.WellFormed (line : MetricLine R) : Prop where
  named : line.name ∈ metricNames
  keyed : line.labels.map Prod.fst = labelKeys line.name
  numbered : ∃ value, line.value.number = some value

theorem parseLabels_clean {labelStr : List Char} (closed : '}' ∉ labelStr) :
    ∀ label ∈ parseLabels labelStr, Clean label.2 := by
  intro label member
  obtain ⟨piece, among, parsed⟩ := List.mem_filterMap.mp member
  obtain ⟨parts, split, same⟩ := Option.map_eq_some_iff.mp parsed
  obtain ⟨commaFree, inText⟩ := splitOn_pieces among
  have value : label.2.toList = stripOf isQuote parts.2 := by
    rw [← same]
    simp
  have inPiece : ∀ char ∈ label.2.toList, char ∈ piece := by
    intro char inside
    rw [value] at inside
    rw [(splitFirst_some split).1]
    simp [mem_of_mem_stripOf inside]
  refine ⟨fun comma => commaFree (inPiece _ comma), fun brace => closed (inText (inPiece _ brace)),
    ?_⟩
  rw [value]
  exact stripOf_trimmed isQuote parts.2

def CleanRegistry (registry : Registry R.Float) : Prop :=
  ∀ name gauge, Dict.get? registry name = some gauge →
    ∀ values number, gauge.samples.get? values = some number → ∀ value ∈ values, Clean value

theorem gaugeFor_clean {client : PrometheusClient} {registry : Registry R.Float} {name : String}
    {keys : List String} {gauge : Gauge R.Float} (clean : CleanRegistry registry)
    (chosen : gaugeFor client registry name keys = .ok gauge) :
    ∀ values number, gauge.samples.get? values = some number → ∀ value ∈ values, Clean value := by
  unfold gaugeFor at chosen
  split at chosen
  · rename_i found
    cases chosen
    exact clean name gauge found
  · split at chosen
    · cases chosen
      intro values number stored
      simp at stored
    · cases chosen

theorem setSample_ok {gauge updated : Gauge R.Float} {labelValues : List String}
    {value : List Char} (stored : setSample gauge labelValues value = .ok updated) :
    ∃ number, updated = { gauge with samples := gauge.samples.set labelValues number } := by
  unfold setSample at stored
  split at stored
  · cases stored
  · split at stored
    · cases stored
    · rename_i number _
      cases stored
      exact ⟨number, rfl⟩

theorem unpackSplit_of {separator : Char} {text : List Char} {parts : List Char × List Char}
    (split : splitFirst separator text = some parts) : unpackSplit separator text = .ok parts := by
  unfold unpackSplit
  rw [split, Option.elim_some]

theorem unpackSplit_ok {separator : Char} {text : List Char} {parts : List Char × List Char}
    (unpacked : unpackSplit separator text = .ok parts) : splitFirst separator text = some parts := by
  unfold unpackSplit at unpacked
  cases split : splitFirst separator text with
  | none => simp [split] at unpacked
  | some found =>
      simp only [split, Option.elim_some, Except.ok.injEq] at unpacked
      rw [unpacked]

theorem writeMetric_clean {client : PrometheusClient} {registry next : Registry R.Float}
    {metric : List Char} (clean : CleanRegistry registry)
    (written : writeMetric client registry metric = .ok next) : CleanRegistry next := by
  unfold writeMetric at written
  obtain ⟨⟨name, rest⟩, _, written⟩ := except_bind_ok.mp written
  obtain ⟨⟨labelStr, value⟩, unpacked, written⟩ := except_bind_ok.mp written
  obtain ⟨gauge, chosen, written⟩ := except_bind_ok.mp written
  obtain ⟨updated, stored, same⟩ := except_bind_ok.mp written
  cases same
  obtain ⟨number, rfl⟩ := setSample_ok stored
  have closed : '}' ∉ labelStr := (splitFirst_some (unpackSplit_ok unpacked)).2
  intro other found present values kept sample value member
  rw [Dict.get?_set] at present
  split at present
  · cases present
    rw [Dict.get?_set] at sample
    split at sample
    · rename_i same
      rw [same] at member
      obtain ⟨label, parsed, rfl⟩ := List.mem_map.mp member
      exact parseLabels_clean closed label parsed
    · exact gaugeFor_clean clean chosen values kept sample value member
  · exact clean other found present values kept sample value member

theorem writeMetrics_clean {client : PrometheusClient} {metrics : List (List Char)}
    {registry final : Registry R.Float} (clean : CleanRegistry registry)
    (written : metrics.foldlM (writeMetric client) registry = .ok final) : CleanRegistry final := by
  induction metrics generalizing registry with
  | nil =>
      cases written
      exact clean
  | cons metric metrics ih =>
      rw [List.foldlM_cons] at written
      obtain ⟨next, step, written⟩ := except_bind_ok.mp written
      exact ih (writeMetric_clean clean step) written

theorem Registry.Holds.clean {registry : Registry R.Float} (clean : CleanRegistry registry)
    {name : String} {labels : List (String × String)} {value : R.Float}
    (held : registry.Holds name labels value) : ∀ label ∈ labels, Clean label.2 := by
  obtain ⟨gauge, values, found, stored, _, assigned⟩ := held
  intro label member
  have zipped : label ∈ gauge.labelNames.zip values := assigned.mem_iff.mpr member
  exact clean name gauge found values value stored label.2 (List.of_mem_zip zipped).2

theorem RoundTrips.clean {client : PrometheusClient} {lines : List (MetricLine R)}
    (restored : RoundTrips client lines) :
    ∀ line ∈ lines, ∀ label ∈ line.labels, Clean label.2 := by
  obtain ⟨registry, written, held⟩ := restored
  have start : CleanRegistry (Dict.empty : Registry R.Float) := by
    intro name gauge present
    simp at present
  intro line member
  obtain ⟨_, _, _, _, holds⟩ := held line member
  exact holds.clean (writeMetrics_clean start written)

structure PlainKey (key : String) : Prop where
  valid : validLabelName key = true
  noEquals : '=' ∉ key.toList
  noComma : ',' ∉ key.toList
  noBrace : '}' ∉ key.toList
  trimmed : stripOf isSpace key.toList = key.toList

theorem labelKeys_plain (name : String) : ∀ key ∈ labelKeys name, PlainKey key := by
  have plain (key : String) (checked : validLabelName key = true ∧ '=' ∉ key.toList ∧
      ',' ∉ key.toList ∧ '}' ∉ key.toList ∧ stripOf isSpace key.toList = key.toList) :
      PlainKey key :=
    ⟨checked.1, checked.2.1, checked.2.2.1, checked.2.2.2.1, checked.2.2.2.2⟩
  intro key member
  apply plain
  revert key
  unfold labelKeys
  split
  · decide
  · split
    · decide
    · split
      · decide
      · split
        · decide
        · decide

theorem labelKeys_nonempty (name : String) : labelKeys name ≠ [] := by
  unfold labelKeys
  repeat' split
  all_goals simp

theorem validMetricName_append {start rest : String} (valid : validMetricName start = true)
    (validRest : validMetricName rest = true) : validMetricName (start ++ rest) = true := by
  unfold validMetricName at *
  rw [String.toList_append]
  cases startChars : start.toList with
  | nil => simp [startChars] at valid
  | cons first others =>
      cases restChars : rest.toList with
      | nil => simpa [startChars] using valid
      | cons second more =>
          simp only [startChars, restChars, Bool.and_eq_true] at valid validRest
          simp only [List.cons_append, List.all_append, List.all_cons, Bool.and_eq_true]
          exact ⟨valid.1, valid.2, by rw [validRest.1, Bool.true_or], validRest.2⟩

theorem metricNames_valid : ∀ name ∈ metricNames, validMetricName name = true := by
  have attrs : ∀ name ∈ smartmonAttrs, validMetricName name = true := by decide +kernel
  intro name member
  unfold metricNames diskMetricNames at member
  rw [List.mem_append, List.mem_append, List.mem_map] at member
  rcases member with device | disk | ⟨attr, known, rfl⟩
  · revert name
    decide +kernel
  · revert name
    decide +kernel
  · exact validMetricName_append (by decide +kernel) (attrs attr known)

theorem validMetricName_noBrace {name : String} (valid : validMetricName name = true) :
    '{' ∉ name.toList := by
  unfold validMetricName at valid
  intro member
  cases chars : name.toList with
  | nil => simp [chars] at member
  | cons first rest =>
      simp only [chars, Bool.and_eq_true, List.all_eq_true] at valid
      rw [chars, List.mem_cons] at member
      rcases member with rfl | later
      · exact absurd valid.1 (by decide)
      · exact absurd (valid.2 _ later) (by decide)

theorem parseLabel_labelText {label : String × String} (plain : PlainKey label.1)
    (clean : Clean label.2) : parseLabel (labelText label) = some label := by
  have cut : splitFirst '=' (labelText label) =
      some (label.1.toList, '"' :: label.2.toList ++ ['"']) := by
    unfold labelText
    rw [List.append_assoc]
    exact splitFirst_append plain.noEquals _
  unfold parseLabel
  rw [cut, Option.map_some, plain.trimmed, stripOf_surrounded (by decide) (by decide) clean.2.2]
  simp

theorem labelText_free {label : String × String} (plain : PlainKey label.1)
    (clean : Clean label.2) : ',' ∉ labelText label ∧ '}' ∉ labelText label := by
  unfold labelText
  simp [plain.noComma, plain.noBrace, clean.1, clean.2.1]

theorem parseLabels_text {labels : List (String × String)} (nonempty : labels ≠ [])
    (plain : ∀ label ∈ labels, PlainKey label.1) (clean : ∀ label ∈ labels, Clean label.2) :
    parseLabels ([','].intercalate (labels.map labelText)) = labels := by
  unfold parseLabels
  rw [List.splitOn_intercalate ',' _ (by simpa using nonempty)]
  · rw [List.filterMap_map]
    have parsed : ∀ label ∈ labels, (parseLabel ∘ labelText) label = some label :=
      fun label member => parseLabel_labelText (plain label member) (clean label member)
    rw [List.filterMap_congr parsed, List.filterMap_some]
  · intro text member
    obtain ⟨label, among, rfl⟩ := List.mem_map.mp member
    exact (labelText_free (plain label among) (clean label among)).1

theorem valueText_graphic (value : MetricValue R.Float) :
    ∀ char ∈ value.text.toList, isSpace char = false := by
  cases value with
  | int value => exact intText_graphic value
  | float value => exact R.repr_graphic value

theorem valueText_reads {value : MetricValue R.Float} {number : R.Float}
    (numbered : value.number = some number) : R.ofText value.text = some number := by
  cases value with
  | int value => exact R.ofText_int value number numbered
  | float value =>
      obtain rfl := Option.some.inj numbered
      exact R.ofText_repr _

theorem splitFirst_text {line : MetricLine R} (opened : '{' ∉ line.name.toList) :
    splitFirst '{' line.text = some (line.name.toList,
      [','].intercalate (line.labels.map labelText) ++ '}' :: ' ' :: line.value.text.toList) := by
  unfold MetricLine.text
  rw [List.append_assoc]
  exact splitFirst_append opened _

theorem stripOf_valueText (value : MetricValue R.Float) :
    stripOf isSpace (' ' :: value.text.toList) = value.text.toList := by
  have trimmed : Trimmed isSpace value.text.toList :=
    ⟨fun char first => valueText_graphic value char (List.mem_of_mem_head? first),
      fun char last => valueText_graphic value char (List.mem_of_mem_getLast? last)⟩
  have unspaced := stripOf_eq_self trimmed
  unfold stripOf at unspaced ⊢
  rwa [List.dropWhile_cons_of_pos (by decide)]

def KeyedRegistry (registry : Registry R.Float) : Prop :=
  ∀ name gauge, Dict.get? registry name = some gauge → gauge.labelNames = labelKeys name

theorem gaugeFor_keyed {registry : Registry R.Float} (client : PrometheusClient)
    (keyed : KeyedRegistry registry) {name : String} (known : name ∈ metricNames) :
    ∃ gauge, gaugeFor client registry name (labelKeys name) = .ok gauge ∧
      gauge.labelNames = labelKeys name ∧
      (Dict.get? registry name = some gauge ∨
        Dict.get? registry name = none ∧ gauge.samples = Dict.empty) := by
  unfold gaugeFor
  cases found : Dict.get? registry name with
  | some gauge => exact ⟨gauge, rfl, keyed name gauge found, Or.inl rfl⟩
  | none =>
      have accepted := client.accepts_valid name (labelKeys name) (metricNames_valid name known)
        fun key member => (labelKeys_plain name key member).valid
      exact ⟨⟨labelKeys name, Dict.empty⟩, by simp [accepted], rfl, Or.inr ⟨rfl, rfl⟩⟩

theorem setSample_reads {gauge : Gauge R.Float} {value : MetricValue R.Float} {number : R.Float}
    {labelValues : List String} (nonempty : gauge.labelNames ≠ [])
    (matching : labelValues.length = gauge.labelNames.length)
    (numbered : value.number = some number) :
    setSample gauge labelValues value.text.toList =
      .ok { gauge with samples := gauge.samples.set labelValues number } := by
  unfold setSample
  rw [if_neg (by simp [nonempty, matching]), String.ofList_toList, valueText_reads numbered]

/-- Writing a well-formed line of clean values sets its own series and no other. -/
theorem writeMetric_text {registry : Registry R.Float} (client : PrometheusClient)
    (keyed : KeyedRegistry registry) {line : MetricLine R} (formed : line.WellFormed)
    (clean : ∀ label ∈ line.labels, Clean label.2) {number : R.Float}
    (numbered : line.value.number = some number) :
    ∃ gauge, gauge.labelNames = labelKeys line.name ∧
      (Dict.get? registry line.name = some gauge ∨
        Dict.get? registry line.name = none ∧ gauge.samples = Dict.empty) ∧
      writeMetric client registry line.text = .ok (registry.set line.name
        { gauge with samples := gauge.samples.set (line.labels.map Prod.snd) number }) := by
  have plain : ∀ label ∈ line.labels, PlainKey label.1 := by
    intro label member
    apply labelKeys_plain line.name
    rw [← formed.keyed]
    exact List.mem_map_of_mem member
  have nonempty : line.labels ≠ [] := by
    intro empty
    apply labelKeys_nonempty line.name
    rw [← formed.keyed, empty, List.map_nil]
  have parsed := parseLabels_text nonempty plain clean
  have closed : '}' ∉ [','].intercalate (line.labels.map labelText) := by
    apply intercalate_free (by decide)
    intro text member
    obtain ⟨label, among, rfl⟩ := List.mem_map.mp member
    exact (labelText_free (plain label among) (clean label among)).2
  obtain ⟨gauge, chosen, names, stored⟩ := gaugeFor_keyed client keyed formed.named
  have sized : (line.labels.map Prod.snd).length = gauge.labelNames.length := by
    rw [names, ← formed.keyed, List.length_map, List.length_map]
  have sampled := setSample_reads (names ▸ labelKeys_nonempty line.name) sized numbered
  have unpackedName := unpackSplit_of
    (splitFirst_text (validMetricName_noBrace (metricNames_valid line.name formed.named)))
  have unpackedLabels := unpackSplit_of (splitFirst_append closed (' ' :: line.value.text.toList))
  refine ⟨gauge, names, stored, ?_⟩
  unfold writeMetric
  refine except_bind_ok.mpr ⟨_, unpackedName, except_bind_ok.mpr ⟨_, unpackedLabels, ?_⟩⟩
  simp only [parsed, String.ofList_toList, stripOf_valueText, formed.keyed]
  exact except_bind_ok.mpr ⟨gauge, chosen, except_bind_ok.mpr ⟨_, sampled, rfl⟩⟩

theorem sameSeries_iff (line other : MetricLine R) :
    line.sameSeries other = true ↔ line.name = other.name ∧ line.labels = other.labels := by
  simp [MetricLine.sameSeries]

theorem lastOfSeries_snoc (lines : List (MetricLine R)) (last line : MetricLine R) :
    lastOfSeries (lines ++ [last]) line =
      if line.sameSeries last then some last else lastOfSeries lines line := by
  unfold lastOfSeries
  rw [List.reverse_append, List.reverse_singleton, List.singleton_append, List.find?_cons]
  split <;> simp_all

def Written (lines : List (MetricLine R)) (registry : Registry R.Float) : Prop :=
  ∀ line ∈ lines, ∃ gauge last value, Dict.get? registry line.name = some gauge ∧
    lastOfSeries lines line = some last ∧ last.value.number = some value ∧
    gauge.samples.get? (line.labels.map Prod.snd) = some value

theorem labels_eq_of_values {line other : MetricLine R} (formed : line.WellFormed)
    (formedOther : other.WellFormed) (sameName : line.name = other.name)
    (sameValues : line.labels.map Prod.snd = other.labels.map Prod.snd) :
    line.labels = other.labels := by
  have sameKeys : line.labels.map Prod.fst = other.labels.map Prod.fst := by
    rw [formed.keyed, formedOther.keyed, sameName]
  exact (List.zip_of_prod sameKeys sameValues).trans (List.zip_of_prod rfl rfl).symm

theorem KeyedRegistry.set {registry : Registry R.Float} (keyed : KeyedRegistry registry)
    {name : String} {gauge : Gauge R.Float} (names : gauge.labelNames = labelKeys name) :
    KeyedRegistry (Dict.set registry name gauge) := by
  intro other found present
  rw [Dict.get?_set] at present
  split at present
  · rename_i same
    cases present
    rw [same, names]
  · exact keyed other found present

theorem Written.extend {lines : List (MetricLine R)} {registry : Registry R.Float}
    (written : Written lines registry) (formed : ∀ line ∈ lines, line.WellFormed)
    {line : MetricLine R} (formedLine : line.WellFormed) {number : R.Float}
    (numbered : line.value.number = some number) {gauge : Gauge R.Float}
    (stored : Dict.get? registry line.name = some gauge ∨
      Dict.get? registry line.name = none ∧ gauge.samples = Dict.empty) :
    Written (lines ++ [line]) (Dict.set registry line.name
      { gauge with samples := gauge.samples.set (line.labels.map Prod.snd) number }) := by
  let updated : Gauge R.Float :=
    { gauge with samples := gauge.samples.set (line.labels.map Prod.snd) number }
  intro other member
  rw [lastOfSeries_snoc]
  by_cases same : other.sameSeries line = true
  · obtain ⟨sameName, sameLabels⟩ := (sameSeries_iff other line).mp same
    refine ⟨updated, line, number, ?_, by rw [if_pos same], numbered, ?_⟩
    · rw [Dict.get?_set, if_pos sameName]
    · rw [Dict.get?_set, if_pos (by rw [sameLabels])]
  · have earlier : other ∈ lines := by
      rcases List.mem_append.mp member with earlier | isLast
      · exact earlier
      · rw [List.mem_singleton.mp isLast] at same
        exact absurd ((sameSeries_iff line line).mpr ⟨rfl, rfl⟩) same
    obtain ⟨found, last, value, present, isLast, valued, sampled⟩ := written other earlier
    rw [if_neg same]
    by_cases sameName : other.name = line.name
    · have sameGauge : gauge = found := by
        rcases stored with stored | ⟨missing, _⟩
        · rw [sameName, stored] at present
          exact Option.some.inj present
        · rw [sameName, missing] at present
          cases present
      subst sameGauge
      refine ⟨updated, last, value, by rw [Dict.get?_set, if_pos sameName], isLast, valued, ?_⟩
      rw [Dict.get?_set, if_neg]
      · exact sampled
      · intro sameValues
        apply same
        rw [sameSeries_iff]
        exact ⟨sameName, labels_eq_of_values (formed other earlier) formedLine sameName sameValues⟩
    · exact ⟨found, last, value, by rw [Dict.get?_set, if_neg sameName, present], isLast, valued,
        sampled⟩

theorem writeMetrics_written (client : PrometheusClient) {lines : List (MetricLine R)}
    (formed : ∀ line ∈ lines, line.WellFormed)
    (clean : ∀ line ∈ lines, ∀ label ∈ line.labels, Clean label.2) :
    ∃ registry : Registry R.Float,
      writeMetricsToTextfile client (lines.map MetricLine.text) = .ok registry ∧
      KeyedRegistry registry ∧ Written lines registry := by
  let holds (finished : List (MetricLine R)) (registry : Registry R.Float) : Prop :=
    (∀ line ∈ finished, line.WellFormed) ∧ KeyedRegistry registry ∧ Written finished registry
  have preserved : ∀ finished line registry, line ∈ lines → holds finished registry →
      ∃ next, writeMetric client registry line.text = .ok next ∧ holds (finished ++ [line]) next := by
    intro finished line registry member ⟨formedBefore, keyed, written⟩
    have formedLine := formed line member
    obtain ⟨number, numbered⟩ := formedLine.numbered
    obtain ⟨gauge, names, stored, wrote⟩ :=
      writeMetric_text client keyed formedLine (clean line member) numbered
    refine ⟨_, wrote, ?_, keyed.set names, written.extend formedBefore formedLine numbered stored⟩
    intro earlier among
    rcases List.mem_append.mp among with before | isLast
    · exact formedBefore earlier before
    · rw [List.mem_singleton.mp isLast]
      exact formedLine
  have start : holds [] (Dict.empty : Registry R.Float) := by
    refine ⟨by simp, ?_, by simp [Written]⟩
    intro name gauge present
    simp at present
  obtain ⟨registry, written, _, keyed, complete⟩ :=
    foldlM_rule (fun registry line => writeMetric client registry line.text) holds lines preserved
      [] Dict.empty start
  refine ⟨registry, ?_, keyed, complete⟩
  unfold writeMetricsToTextfile
  rw [List.foldlM_map]
  exact written

theorem RoundTrips.of_clean (client : PrometheusClient) {lines : List (MetricLine R)}
    (formed : ∀ line ∈ lines, line.WellFormed)
    (clean : ∀ line ∈ lines, ∀ label ∈ line.labels, Clean label.2) : RoundTrips client lines := by
  obtain ⟨registry, written, keyed, complete⟩ := writeMetrics_written client formed clean
  refine ⟨registry, written, ?_⟩
  intro line member
  obtain ⟨gauge, last, value, present, isLast, numbered, sampled⟩ := complete line member
  have names : gauge.labelNames = line.labels.map Prod.fst := by
    rw [keyed line.name gauge present, (formed line member).keyed]
  refine ⟨last, value, isLast, numbered, gauge, _, present, sampled, ?_, ?_⟩
  · rw [names, List.length_map, List.length_map]
  · rw [names, ← List.zip_of_prod rfl rfl]

end Smartmon
