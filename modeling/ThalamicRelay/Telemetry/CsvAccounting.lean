import ThalamicRelay.Telemetry.Csv

set_option autoImplicit false

namespace ThalamicRelay

open Decimal TextLines

section Lines

variable {F : Type} (float : FloatText F)

def BlankLine (line : List Char) : Prop :=
  ∀ character ∈ line, isWhitespace character = true

instance (line : List Char) : Decidable (BlankLine line) :=
  inferInstanceAs (Decidable (∀ character ∈ line, isWhitespace character = true))

/-- The format of a data line: white space around the whole line only, five fields between commas,
a timestamp and four finite readings. -/
def WellFormed (line : List Char) (row : TelemetryCsvRow F) : Prop :=
  ∃ timestamp gpuTemp gpuPower cpuTctl cpuPackagePower : List Char,
    (∀ field ∈ [timestamp, gpuTemp, gpuPower, cpuTctl, cpuPackagePower], ',' ∉ field) ∧
    trim line = [','].intercalate [timestamp, gpuTemp, gpuPower, cpuTctl, cpuPackagePower] ∧
    parseTimestamp timestamp = some row.timestampMs ∧
    FiniteField float gpuTemp row.gpuTempC ∧ FiniteField float gpuPower row.gpuPowerW ∧
    FiniteField float cpuTctl row.cpuTctlC ∧
    FiniteField float cpuPackagePower row.cpuPackagePowerW

def readRow (line : List Char) : Option (TelemetryCsvRow F) :=
  (parseDataLine float line).row?

/-- One whole line, with either line ending, that the header check accepts. -/
def HeaderText (header : List Char) : Prop :=
  Terminated header ∧ ∃ line, lines header = [line] ∧ trim line = csvHeader

def LoadResult.append (first second : LoadResult F) : LoadResult F :=
  { rows := first.rows ++ second.rows, skipped := first.skipped + second.skipped }

variable {float}

theorem parseFields_splitOn {line : List Char} {row : TelemetryCsvRow F} :
    parseFields float ((trim line).splitOn ',') = some row ↔ WellFormed float line row := by
  rw [parseFields_eq_some]
  simp only [WellFormed, splitOn_eq_iff (List.cons_ne_nil _ _), and_assoc]

theorem WellFormed.filled {line : List Char} {row : TelemetryCsvRow F}
    (formed : WellFormed float line row) : trim line ≠ [] := by
  obtain ⟨timestamp, gpuTemp, gpuPower, cpuTctl, cpuPackagePower, _, joined, _⟩ := formed
  simp [joined, List.intercalate_cons_cons]

theorem parseDataLine_empty {line : List Char} :
    parseDataLine float line = .empty ↔ BlankLine line := by
  rw [BlankLine, ← trim_eq_nil]
  simp only [parseDataLine, List.isEmpty_iff]
  split
  next blank => simp [blank]
  next filled => split <;> simp [filled]

theorem parseDataLine_ok {line : List Char} {row : TelemetryCsvRow F} :
    parseDataLine float line = .ok row ↔ WellFormed float line row := by
  simp only [← parseFields_splitOn, parseDataLine, List.isEmpty_iff]
  split
  next blank =>
    have unformed : ¬ WellFormed float line row := fun formed => formed.filled blank
    simp [parseFields_splitOn, unformed]
  next => split <;> simp_all

theorem readRow_eq_some {line : List Char} {row : TelemetryCsvRow F} :
    readRow float line = some row ↔ WellFormed float line row := by
  rw [← parseDataLine_ok, readRow]
  cases parseDataLine float line <;> simp [ParseDataLine.row?]

theorem parseDataLine_malformed {line : List Char} :
    parseDataLine float line = .malformed ↔
      ¬ BlankLine line ∧ ∀ row, ¬ WellFormed float line row := by
  have blank : parseDataLine float line = .empty ↔ BlankLine line := parseDataLine_empty
  simp only [← blank, ← parseDataLine_ok]
  cases parseDataLine float line <;> simp

theorem parseDataLine_accounts (float : FloatText F) (line : List Char) :
    ((if (parseDataLine float line).row?.isSome then 1 else 0) +
      (if (parseDataLine float line).isMalformed then 1 else 0)) +
      (if BlankLine line then 1 else 0) = 1 := by
  have blank : parseDataLine float line = .empty ↔ BlankLine line := parseDataLine_empty
  cases parsed : parseDataLine float line with
  | empty => simp [ParseDataLine.row?, ParseDataLine.isMalformed, blank.mp parsed]
  | ok | malformed =>
    have filled : ¬ BlankLine line := by simp [← blank, parsed]
    simp [ParseDataLine.row?, ParseDataLine.isMalformed, filled]

theorem collectRows_accounts (rawLines : List (List Char)) :
    (collectRows float rawLines).rows.length + (collectRows float rawLines).skipped +
      rawLines.countP (fun line => BlankLine line) = rawLines.length := by
  rw [collectRows_eq, List.length_filterMap_eq_countP]
  induction rawLines with
  | nil => rfl
  | cons line later ih =>
    have one := parseDataLine_accounts float line
    simp only [List.countP_cons, List.length_cons, decide_eq_true_eq] at ih ⊢
    omega

theorem collectRows_append (first second : List (List Char)) :
    collectRows float (first ++ second) =
      (collectRows float first).append (collectRows float second) := by
  simp [collectRows_eq, LoadResult.append]

theorem parseCsv_header {header : List Char} (canonical : HeaderText header) (data : List Char) :
    parseCsv float (header ++ data) = .ok (collectRows float (lines data)) := by
  obtain ⟨terminated, line, single, accepted⟩ := canonical
  simp only [parseCsv, lines_append terminated, single, List.singleton_append, List.head?_cons,
    validateHeader, accepted, if_true, List.tail_cons]
  rfl

theorem parseCsv_error {contents : List Char} :
    (∃ error, parseCsv float contents = .error error) ↔
      (lines contents).head? = none ∨
        ∃ line, (lines contents).head? = some line ∧ trim line ≠ csvHeader := by
  cases first : (lines contents).head? with
  | none => simp [parseCsv, first, validateHeader, Bind.bind, Except.bind]
  | some line =>
    by_cases canonical : trim line = csvHeader <;>
      simp [parseCsv, first, validateHeader, canonical, Bind.bind, Except.bind, pure, Except.pure]

end Lines

theorem csv_accounting {F : Type} (float : FloatText F) :
    (∀ contents, (∃ error, parseCsv float contents = .error error) ↔
      (lines contents).head? = none ∨
        ∃ line, (lines contents).head? = some line ∧ trim line ≠ csvHeader) ∧
    (∀ contents result, parseCsv float contents = .ok result →
      result.rows.length + result.skipped +
          (lines contents).tail.countP (fun line => BlankLine line) =
        (lines contents).tail.length ∧
      result.rows = (lines contents).tail.filterMap (readRow float)) ∧
    (∀ line row, readRow float line = some row ↔ WellFormed float line row) ∧
    (∀ header first second, HeaderText header → Terminated first →
      ∃ left right, parseCsv float (header ++ first) = .ok left ∧
        parseCsv float (header ++ second) = .ok right ∧
        parseCsv float (header ++ first ++ second) = .ok (left.append right)) ∧
    ∀ header first malformed second line, HeaderText header → Terminated first →
      Terminated malformed → lines malformed = [line] → ¬ BlankLine line →
      (∀ row, ¬ WellFormed float line row) →
      parseCsv float (header ++ first ++ malformed ++ second) =
        (parseCsv float (header ++ first ++ second)).map fun result =>
          { result with skipped := result.skipped + 1 } := by
  refine ⟨fun _ => parseCsv_error, ?_, fun _ _ => readRow_eq_some, ?_, ?_⟩
  next =>
    intro contents result accepted
    obtain rfl := parseCsv_ok accepted
    refine ⟨collectRows_accounts _, ?_⟩
    rw [collectRows_eq]
    rfl
  next =>
    intro header first second canonical terminated
    refine ⟨_, _, parseCsv_header canonical first, parseCsv_header canonical second, ?_⟩
    rw [List.append_assoc, parseCsv_header canonical, lines_append terminated, collectRows_append]
  next =>
    intro header first malformed second line canonical before terminated single filled unformed
    have read : parseDataLine float line = .malformed := parseDataLine_malformed.mpr
      ⟨filled, unformed⟩
    have counted : collectRows float [line] = { rows := [], skipped := 1 } := by
      simp [collectRows, LoadResult.push, read]
    simp only [List.append_assoc, parseCsv_header canonical, lines_append before,
      lines_append terminated, single, collectRows_append, counted, LoadResult.append, Except.map]
    simp [Nat.add_comm, Nat.add_left_comm]

example : HeaderText (csvHeader ++ "\r\n".toList) :=
  ⟨.inr (by decide +kernel), csvHeader, by decide +kernel, by decide +kernel⟩

-- A padded row, a blank line, four fields, a blank inside a field; the last has no newline.
example :
    let reading : WholeFloat := .number false 60
    let row : TelemetryCsvRow WholeFloat :=
      { timestampMs := 1000, gpuTempC := reading, gpuPowerW := reading, cpuTctlC := reading,
        cpuPackagePowerW := reading }
    let data := "\r\n 1000,60,60,60,60 \r\n\t\n1000,60,60,60\n1000, 60,60,60,60\n1000,60,60,60,60"
    (parseCsv wholeText (csvHeader ++ data.toList)).toOption =
      some { rows := [row, row], skipped := 2 } := by
  decide +kernel

end ThalamicRelay
