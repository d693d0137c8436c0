import ThalamicRelay.Shared.Decimal
import ThalamicRelay.Shared.TextLines

set_option autoImplicit false

namespace ThalamicRelay

open Decimal TextLines

/-- What the file format uses of f32: its class of finite values, Display and FromStr. -/
structure FloatText (F : Type) where
  isFinite : F → Bool
  display : F → List Char
  fromStr : List Char → Option F

def nonFiniteNames : List (List Char) := ["NaN".toList, "inf".toList, "-inf".toList]

structure FloatText.Lawful {F : Type} (float : FloatText F) : Prop where
  finite : ∀ value, float.isFinite value = true → float.fromStr (float.display value) = some value
  nonFinite : ∀ value, float.isFinite value = false → float.display value ∈ nonFiniteNames
  named : ∀ name ∈ nonFiniteNames, ∀ value, float.fromStr name = some value →
    float.isFinite value = false
  plain : ∀ value, ∀ character ∈ float.display value,
    character ≠ ',' ∧ isWhitespace character = false

def csvHeader : List Char :=
  "timestamp_ms,gpu_temp_c,gpu_power_w,cpu_tctl_c,cpu_package_power_w".toList

structure TelemetryCsvRow (F : Type) where
  timestampMs : UInt64
  gpuTempC : F
  gpuPowerW : F
  cpuTctlC : F
  cpuPackagePowerW : F
  deriving DecidableEq

inductive ParseDataLine (F : Type)
  | empty
  | ok (row : TelemetryCsvRow F)
  | malformed
  deriving DecidableEq

inductive TelemetryCsvError
  | empty (path : Option String)
  | headerMismatch (path : Option String) (actual : List Char)
  deriving DecidableEq

structure LoadResult (F : Type) where
  rows : List (TelemetryCsvRow F)
  skipped : Nat
  deriving DecidableEq

def validateHeader (headerLine : Option (List Char)) : Except TelemetryCsvError PUnit.{1} :=
  match headerLine with
  | none => .error (.empty none)
  | some line =>
    if trim line = csvHeader then .ok ⟨⟩ else .error (.headerMismatch none (trim line))

section Format

variable {F : Type} (float : FloatText F)

def TelemetryCsvRow.fields (row : TelemetryCsvRow F) : List (List Char) :=
  [Nat.toDigits 10 row.timestampMs.toNat, float.display row.gpuTempC, float.display row.gpuPowerW,
    float.display row.cpuTctlC, float.display row.cpuPackagePowerW]

def TelemetryCsvRow.toCsvLine (row : TelemetryCsvRow F) : List Char :=
  [','].intercalate (row.fields float)

def formatCsv (rows : List (TelemetryCsvRow F)) : List Char :=
  unlines (csvHeader :: rows.map fun row => row.toCsvLine float)

def parseFiniteF32 (value : List Char) : Option F :=
  (float.fromStr value).filter float.isFinite

def parseTimestamp (value : List Char) : Option UInt64 :=
  (Decimal.parse 0x10000000000000000 value).map UInt64.ofNat

-- FIELD_COUNT is five.
def parseFields : List (List Char) → Option (TelemetryCsvRow F)
  | [timestamp, gpuTemp, gpuPower, cpuTctl, cpuPackagePower] => do
    let timestampMs ← parseTimestamp timestamp
    let gpuTempC ← parseFiniteF32 float gpuTemp
    let gpuPowerW ← parseFiniteF32 float gpuPower
    let cpuTctlC ← parseFiniteF32 float cpuTctl
    let cpuPackagePowerW ← parseFiniteF32 float cpuPackagePower
    return { timestampMs, gpuTempC, gpuPowerW, cpuTctlC, cpuPackagePowerW }
  | _ => none

def parseDataLine (rawLine : List Char) : ParseDataLine F :=
  let line := trim rawLine
  if line.isEmpty then .empty
  else
    match parseFields float (line.splitOn ',') with
    | some row => .ok row
    | none => .malformed

def LoadResult.push (result : LoadResult F) (rawLine : List Char) : LoadResult F :=
  match parseDataLine float rawLine with
  | .empty => result
  | .ok row => { result with rows := result.rows ++ [row] }
  | .malformed => { result with skipped := result.skipped + 1 }

def collectRows (rawLines : List (List Char)) : LoadResult F :=
  rawLines.foldl (LoadResult.push float) { rows := [], skipped := 0 }

def parseCsv (contents : List Char) : Except TelemetryCsvError (LoadResult F) := do
  validateHeader (lines contents).head?
  return collectRows float (lines contents).tail

def TelemetryCsvRow.isFinite (row : TelemetryCsvRow F) : Bool :=
  float.isFinite row.gpuTempC && float.isFinite row.gpuPowerW && float.isFinite row.cpuTctlC &&
    float.isFinite row.cpuPackagePowerW

def FiniteField (field : List Char) (value : F) : Prop :=
  float.fromStr field = some value ∧ float.isFinite value = true

end Format

section Lines

variable {F : Type} {float : FloatText F}

def ParseDataLine.row? : ParseDataLine F → Option (TelemetryCsvRow F)
  | .ok row => some row
  | .empty | .malformed => none

def ParseDataLine.isMalformed : ParseDataLine F → Bool
  | .malformed => true
  | .empty | .ok _ => false

theorem collectRows_eq (rawLines : List (List Char)) :
    collectRows float rawLines =
      { rows := rawLines.filterMap fun line => (parseDataLine float line).row?
        skipped := rawLines.countP fun line => (parseDataLine float line).isMalformed } := by
  have general (start : LoadResult F) :
      rawLines.foldl (LoadResult.push float) start =
        { rows := start.rows ++ rawLines.filterMap fun line => (parseDataLine float line).row?
          skipped := start.skipped +
            rawLines.countP fun line => (parseDataLine float line).isMalformed } := by
    induction rawLines generalizing start with
    | nil => simp
    | cons line later ih =>
      rw [List.foldl_cons, ih]
      cases parsed : parseDataLine float line <;>
        simp [LoadResult.push, parsed, ParseDataLine.row?, ParseDataLine.isMalformed,
          Nat.add_assoc, Nat.add_comm]
  simpa [collectRows] using general { rows := [], skipped := 0 }

theorem parseFields_eq_some {fields : List (List Char)} {row : TelemetryCsvRow F} :
    parseFields float fields = some row ↔
      ∃ timestamp gpuTemp gpuPower cpuTctl cpuPackagePower : List Char,
        fields = [timestamp, gpuTemp, gpuPower, cpuTctl, cpuPackagePower] ∧
        parseTimestamp timestamp = some row.timestampMs ∧
        FiniteField float gpuTemp row.gpuTempC ∧ FiniteField float gpuPower row.gpuPowerW ∧
        FiniteField float cpuTctl row.cpuTctlC ∧
        FiniteField float cpuPackagePower row.cpuPackagePowerW := by
  constructor
  next =>
    intro read
    unfold parseFields at read
    split at read
    next timestamp gpuTemp gpuPower cpuTctl cpuPackagePower =>
      simp only [Option.bind_eq_bind, Option.bind_eq_some_iff] at read
      obtain ⟨_, time, _, temp, _, power, _, tctl, _, package, made⟩ := read
      obtain rfl := Option.some.inj made
      exact ⟨timestamp, gpuTemp, gpuPower, cpuTctl, cpuPackagePower, rfl, time,
        Option.filter_eq_some_iff.mp temp, Option.filter_eq_some_iff.mp power,
        Option.filter_eq_some_iff.mp tctl, Option.filter_eq_some_iff.mp package⟩
    next => simp at read
  next =>
    rintro ⟨timestamp, gpuTemp, gpuPower, cpuTctl, cpuPackagePower, rfl, time, temp, power, tctl,
      package⟩
    simp [parseFields, parseFiniteF32, time, Option.filter_eq_some_iff.mpr temp,
      Option.filter_eq_some_iff.mpr power, Option.filter_eq_some_iff.mpr tctl,
      Option.filter_eq_some_iff.mpr package]

theorem parseFields_finite {fields : List (List Char)} {row : TelemetryCsvRow F}
    (read : parseFields float fields = some row) : row.isFinite float = true := by
  obtain ⟨_, _, _, _, _, _, _, temp, power, tctl, package⟩ := parseFields_eq_some.mp read
  simp [TelemetryCsvRow.isFinite, temp.2, power.2, tctl.2, package.2]

theorem parseDataLine_finite {rawLine : List Char} {row : TelemetryCsvRow F}
    (read : (parseDataLine float rawLine).row? = some row) : row.isFinite float = true := by
  simp only [parseDataLine] at read
  split at read
  next => simp [ParseDataLine.row?] at read
  next =>
    split at read
    next parsed fields =>
      obtain rfl := Option.some.inj read
      exact parseFields_finite fields
    next => simp [ParseDataLine.row?] at read

theorem parseCsv_ok {contents : List Char} {result : LoadResult F}
    (accepted : parseCsv float contents = .ok result) :
    result = collectRows float (lines contents).tail := by
  simp only [parseCsv] at accepted
  cases header : validateHeader (lines contents).head? with
  | error _ => simp [header, Bind.bind, Except.bind] at accepted
  | ok _ =>
    simp only [header, Bind.bind, Except.bind, pure, Except.pure, Except.ok.injEq] at accepted
    exact accepted.symm

theorem parseCsv_finite {contents : List Char} {result : LoadResult F}
    (accepted : parseCsv float contents = .ok result) :
    ∀ row ∈ result.rows, row.isFinite float = true := by
  intro row member
  rw [parseCsv_ok accepted, collectRows_eq] at member
  obtain ⟨line, _, read⟩ := List.mem_filterMap.mp member
  exact parseDataLine_finite read

end Lines

section RoundTrip

variable {F : Type} {float : FloatText F}

theorem parse_finite_display (lawful : float.Lawful) (value : F) :
    parseFiniteF32 float (float.display value) =
      if float.isFinite value then some value else none := by
  by_cases number : float.isFinite value = true
  · simp [parseFiniteF32, lawful.finite value number, number]
  · have name := lawful.nonFinite value (by simpa using number)
    have refused := lawful.named _ name
    cases parsed : float.fromStr (float.display value) with
    | none => simp [parseFiniteF32, parsed, number]
    | some other => simp [parseFiniteF32, parsed, number, refused other parsed]

theorem parse_timestamp_display (timestampMs : UInt64) :
    parseTimestamp (Nat.toDigits 10 timestampMs.toNat) = some timestampMs := by
  simp [parseTimestamp, parse_toDigits timestampMs.toNat_lt]

theorem csvHeader_solid : ∀ character ∈ csvHeader, isWhitespace character = false := by
  have solid : csvHeader.all (fun character => !isWhitespace character) = true := by decide
  simpa using solid

theorem fields_plain (lawful : float.Lawful) (row : TelemetryCsvRow F) :
    ∀ field ∈ row.fields float, ∀ character ∈ field,
      character ≠ ',' ∧ isWhitespace character = false := by
  intro field member
  simp only [TelemetryCsvRow.fields, List.mem_cons, List.not_mem_nil, or_false] at member
  rcases member with rfl | rfl | rfl | rfl | rfl
  next =>
    intro character member
    have digit := toDigits_digit member
    constructor
    next =>
      rintro rfl
      exact absurd digit (by decide)
    next => exact digit_not_whitespace digit
  all_goals exact lawful.plain _

theorem toCsvLine_plain (lawful : float.Lawful) (row : TelemetryCsvRow F) :
    ∀ character ∈ row.toCsvLine float, isWhitespace character = false := by
  intro character member
  rcases mem_intercalate member with rfl | ⟨field, among, inside⟩
  next => decide
  next => exact (fields_plain lawful row field among character inside).2

theorem toCsvLine_split (lawful : float.Lawful) (row : TelemetryCsvRow F) :
    (row.toCsvLine float).splitOn ',' = row.fields float := by
  apply List.splitOn_intercalate
  next =>
    intro field among comma
    exact (fields_plain lawful row field among ',' comma).1 rfl
  next => simp [TelemetryCsvRow.fields]

theorem parseFields_fields (lawful : float.Lawful) (row : TelemetryCsvRow F) :
    parseFields float (row.fields float) = if row.isFinite float then some row else none := by
  simp only [TelemetryCsvRow.fields, parseFields, parse_timestamp_display,
    parse_finite_display lawful, TelemetryCsvRow.isFinite]
  by_cases temp : float.isFinite row.gpuTempC = true <;>
    by_cases power : float.isFinite row.gpuPowerW = true <;>
    by_cases tctl : float.isFinite row.cpuTctlC = true <;>
    by_cases package : float.isFinite row.cpuPackagePowerW = true <;>
    simp [temp, power, tctl, package]

theorem parseDataLine_toCsvLine (lawful : float.Lawful) (row : TelemetryCsvRow F) :
    parseDataLine float (row.toCsvLine float) =
      if row.isFinite float then .ok row else .malformed := by
  have filled : (row.toCsvLine float).isEmpty = false := by
    simp [TelemetryCsvRow.toCsvLine, TelemetryCsvRow.fields, List.intercalate_cons_cons]
  simp only [parseDataLine, trim_solid (toCsvLine_plain lawful row), filled, toCsvLine_split lawful,
    parseFields_fields lawful]
  cases row.isFinite float <;> rfl

theorem collectRows_toCsvLine (lawful : float.Lawful) (rows : List (TelemetryCsvRow F)) :
    collectRows float (rows.map fun row => row.toCsvLine float) =
      { rows := rows.filter fun row => row.isFinite float
        skipped := rows.countP fun row => !row.isFinite float } := by
  rw [collectRows_eq]
  induction rows with
  | nil => rfl
  | cons row later ih =>
    simp only [LoadResult.mk.injEq] at ih
    have read := parseDataLine_toCsvLine lawful row
    simp only [List.map_cons, List.filterMap_cons, List.filter_cons, List.countP_cons, ih.1, ih.2]
    by_cases number : row.isFinite float = true
    next =>
      rw [if_pos number] at read
      simp [read, number, ParseDataLine.row?, ParseDataLine.isMalformed]
    next =>
      rw [if_neg number] at read
      simp [read, number, ParseDataLine.row?, ParseDataLine.isMalformed]

theorem lines_formatCsv (lawful : float.Lawful) (rows : List (TelemetryCsvRow F)) :
    lines (formatCsv float rows) = csvHeader :: rows.map fun row => row.toCsvLine float := by
  apply lines_unlines
  intro line member
  have solid : ∀ character ∈ line, isWhitespace character = false := by
    rcases List.mem_cons.mp member with rfl | written
    next => exact csvHeader_solid
    next =>
      obtain ⟨row, _, rfl⟩ := List.mem_map.mp written
      exact toCsvLine_plain lawful row
  constructor
  next =>
    intro newline
    exact absurd (solid '\n' newline) (by decide)
  next =>
    intro carriage
    exact absurd (solid '\r' carriage) (by decide)

theorem parseCsv_formatCsv (lawful : float.Lawful) (rows : List (TelemetryCsvRow F)) :
    parseCsv float (formatCsv float rows) =
      .ok
        { rows := rows.filter fun row => row.isFinite float
          skipped := rows.countP fun row => !row.isFinite float } := by
  simp only [parseCsv, lines_formatCsv lawful, List.head?_cons, List.tail_cons, validateHeader,
    trim_solid csvHeader_solid, if_true, collectRows_toCsvLine lawful]
  rfl

end RoundTrip

theorem csv_round_trip {F : Type} (float : FloatText F) (lawful : float.Lawful) :
    (∀ rows : List (TelemetryCsvRow F),
      parseCsv float (formatCsv float rows) =
        .ok
          { rows := rows.filter fun row => row.isFinite float
            skipped := rows.countP fun row => !row.isFinite float }) ∧
    ∀ (contents : List Char) (result : LoadResult F), parseCsv float contents = .ok result →
      parseCsv float (formatCsv float result.rows) = .ok { rows := result.rows, skipped := 0 } := by
  constructor
  next => exact parseCsv_formatCsv lawful
  next =>
    intro contents result accepted
    have finite := parseCsv_finite accepted
    have kept : result.rows.filter (fun row => row.isFinite float) = result.rows :=
      List.filter_eq_self.mpr finite
    have none : result.rows.countP (fun row => !row.isFinite float) = 0 := by
      rw [List.countP_eq_zero]
      intro row member
      simp [finite row member]
    rw [parseCsv_formatCsv lawful, kept, none]

/-- The whole numbers up to 2 ^ 24, which f32 holds exactly, and its values that are no numbers. -/
inductive WholeFloat
  | number (negative : Bool) (magnitude : Fin 16777216)
  | nan
  | infinite (negative : Bool)
  deriving DecidableEq

def wholeText : FloatText WholeFloat where
  isFinite
    | .number _ _ => true
    | .nan | .infinite _ => false
  display
    | .number true magnitude => '-' :: Nat.toDigits 10 magnitude
    | .number false magnitude => Nat.toDigits 10 magnitude
    | .nan => "NaN".toList
    | .infinite true => "-inf".toList
    | .infinite false => "inf".toList
  fromStr text :=
    if text = "NaN".toList then some .nan
    else if text = "inf".toList then some (.infinite false)
    else if text = "-inf".toList then some (.infinite true)
    else
      match text with
      | '-' :: digits => (Decimal.parse 16777216 digits).map fun n => .number true (.ofNat _ n)
      | digits => (Decimal.parse 16777216 digits).map fun n => .number false (.ofNat _ n)

theorem toDigits_ne_name (number : Nat) {name : List Char} (letter : Char) (member : letter ∈ name)
    (other : letter.isDigit = false) : Nat.toDigits 10 number ≠ name := by
  rintro rfl
  simp [toDigits_digit member] at other

theorem plain_name {name : List Char} {character : Char}
    (plain : name.all (fun letter => letter ≠ ',' && !isWhitespace letter) = true)
    (member : character ∈ name) : character ≠ ',' ∧ isWhitespace character = false := by
  simpa using List.all_eq_true.mp plain character member

theorem wholeText_lawful : wholeText.Lawful where
  finite := by
    intro value number
    cases value with
    | number negative magnitude =>
      have parsed := parse_toDigits magnitude.isLt
      have inf : Nat.toDigits 10 magnitude ≠ ['i', 'n', 'f'] :=
        toDigits_ne_name magnitude 'i' (by decide) (by decide)
      have nan : Nat.toDigits 10 magnitude ≠ ['N', 'a', 'N'] :=
        toDigits_ne_name magnitude 'N' (by decide) (by decide)
      cases negative with
      | true => simp [wholeText, parsed, inf]
      | false =>
        have signed (rest : List Char) : Nat.toDigits 10 magnitude ≠ '-' :: rest :=
          toDigits_ne_name magnitude '-' (by simp) (by decide)
        simp [wholeText, inf, nan, signed, parsed]
    | nan | infinite _ => exact absurd number Bool.false_ne_true
  nonFinite := by
    intro value other
    cases value with
    | number negative magnitude => exact absurd other.symm Bool.false_ne_true
    | nan => decide
    | infinite negative => cases negative <;> decide
  named := by
    intro name member value read
    simp only [nonFiniteNames, List.mem_cons, List.not_mem_nil, or_false] at member
    rcases member with rfl | rfl | rfl
    · obtain rfl : WholeFloat.nan = value := Option.some.inj read
      rfl
    · obtain rfl : WholeFloat.infinite false = value := Option.some.inj read
      rfl
    · obtain rfl : WholeFloat.infinite true = value := Option.some.inj read
      rfl
  plain := by
    intro value character member
    have digits (magnitude : Nat) (digit : character ∈ Nat.toDigits 10 magnitude) :
        character ≠ ',' ∧ isWhitespace character = false := by
      have numeral := toDigits_digit digit
      refine ⟨?_, digit_not_whitespace numeral⟩
      rintro rfl
      exact absurd numeral (by decide)
    cases value with
    | number negative magnitude =>
      cases negative with
      | true =>
        rcases List.mem_cons.mp member with rfl | digit
        next => decide
        next => exact digits magnitude digit
      | false => exact digits magnitude member
    | nan => exact plain_name (by decide) member
    | infinite negative => cases negative <;> exact plain_name (by decide) member

-- The last row has the greatest u64 and a negative zero; the one before it has no power reading.
theorem csv_round_trip_three_rows :
    let sixty : WholeFloat := .number false 60
    let first : TelemetryCsvRow WholeFloat :=
      { timestampMs := 1000, gpuTempC := sixty, gpuPowerW := .number false 250,
        cpuTctlC := .number false 70, cpuPackagePowerW := .number false 120 }
    let broken := { first with timestampMs := 2000, gpuPowerW := .nan, cpuTctlC := .infinite true }
    let last := { first with timestampMs := 0xFFFFFFFFFFFFFFFF, gpuTempC := .number true 0 }
    parseCsv wholeText (formatCsv wholeText [first, broken, last]) =
        .ok { rows := [first, last], skipped := 1 } ∧
      parseCsv wholeText (formatCsv wholeText [first, last]) =
        .ok { rows := [first, last], skipped := 0 } := by
  intro sixty first broken last
  have trip := csv_round_trip wholeText wholeText_lawful
  have kept : [first, broken, last].filter (fun row => row.isFinite wholeText) = [first, last] :=
    rfl
  have skipped : [first, broken, last].countP (fun row => !row.isFinite wholeText) = 1 := rfl
  have read := trip.1 [first, broken, last]
  rw [kept, skipped] at read
  have again := trip.2 (formatCsv wholeText [first, broken, last])
    { rows := [first, last], skipped := 1 } read
  exact ⟨read, again⟩

end ThalamicRelay
