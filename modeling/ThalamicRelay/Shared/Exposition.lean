import ThalamicRelay.Shared.Decimal
import ThalamicRelay.Shared.TextLines

set_option autoImplicit false

namespace Exposition

open TextLines

abbrev Sample := List Char × Nat

def commentLine (text : String) : List Char :=
  '#' :: ' ' :: text.toList ++ ['\n']

def sampleLine (sample : Sample) : List Char :=
  sample.1 ++ ' ' :: Decimal.line sample.2

def family (help kind : String) (samples : List Sample) : List Char :=
  commentLine help ++ commentLine kind ++ samples.flatMap sampleLine

def labelled (metric label value : String) : List Char :=
  metric.toList ++ '\x7b' :: label.toList ++ '=' :: '"' :: value.toList ++ ['"', '\x7d']

def unbroken (character : Char) : Bool :=
  character ≠ ' '

-- A label may hold a blank; a value cannot, so it is what follows the last one.
def readSample (line : List Char) : Option Sample :=
  let digits := line.rtakeWhile unbroken
  if digits.isEmpty || !digits.all Char.isDigit then none
  else some ((line.rdropWhile unbroken).dropLast, Nat.ofDigitChars 10 digits 0)

def isComment (line : List Char) : Bool :=
  line.head? = some '#'

def scrape (text : List Char) : Option (List Sample) :=
  ((lines text).filter fun line => !isComment line).mapM readSample

structure Reads (text : List Char) (samples : List Sample) : Prop where
  terminated : Terminated text
  scraped : scrape text = some samples

def PlainSeries (series : List Char) : Prop :=
  isComment series = false ∧ '\n' ∉ series ∧ '\r' ∉ series

instance (series : List Char) : Decidable (PlainSeries series) :=
  inferInstanceAs (Decidable (_ ∧ _))

def PlainComment (text : String) : Prop :=
  '\n' ∉ text.toList ∧ '\r' ∉ text.toList

instance (text : String) : Decidable (PlainComment text) :=
  inferInstanceAs (Decidable (_ ∧ _))

theorem Reads.nil : Reads [] [] where
  terminated := .inl rfl
  scraped := rfl

theorem Reads.append {first second : List Char} {early late : List Sample}
    (before : Reads first early) (after : Reads second late) :
    Reads (first ++ second) (early ++ late) where
  terminated := before.terminated.append after.terminated
  scraped := by
    have early := before.scraped
    have late := after.scraped
    simp only [scrape] at early late
    simp [scrape, lines_append before.terminated, early, late]

theorem scrape_line (line : List Char) (single : '\n' ∉ line) (unreturned : '\r' ∉ line) :
    scrape (line ++ ['\n']) = ([line].filter fun line => !isComment line).mapM readSample := by
  have read := lines_line single unreturned []
  simp only [scrape, read]
  rfl

theorem Reads.comment {text : String} (plain : PlainComment text) :
    Reads (commentLine text) [] where
  terminated := .line ('#' :: ' ' :: text.toList)
  scraped := by
    have line := scrape_line ('#' :: ' ' :: text.toList) (by simp [plain.1])
      (by simp [plain.2])
    simpa [commentLine, isComment] using line

theorem digit_unbroken {character : Char} (digit : character.isDigit = true) :
    unbroken character = true := by
  simp only [unbroken, decide_eq_true_eq]
  rintro rfl
  contradiction

theorem readSample_sample (series : List Char) (value : Nat) :
    readSample (series ++ ' ' :: Nat.toDigits 10 value) = some (series, value) := by
  have digits (character : Char) (member : character ∈ Nat.toDigits 10 value) :
      character.isDigit = true := Decimal.toDigits_digit member
  have solid : ∀ character ∈ (Nat.toDigits 10 value).reverse, unbroken character = true := by
    intro character member
    exact digit_unbroken (digits character (List.mem_reverse.mp member))
  have split : (series ++ ' ' :: Nat.toDigits 10 value).reverse =
      (Nat.toDigits 10 value).reverse ++ ' ' :: series.reverse := by simp
  have taken : (series ++ ' ' :: Nat.toDigits 10 value).rtakeWhile unbroken =
      Nat.toDigits 10 value := by
    rw [List.rtakeWhile, split, List.takeWhile_append_of_pos solid]
    simp [unbroken]
  have left : (series ++ ' ' :: Nat.toDigits 10 value).rdropWhile unbroken = series ++ [' '] := by
    rw [List.rdropWhile, split, List.dropWhile_append_of_pos solid]
    simp [unbroken]
  have all : (Nat.toDigits 10 value).all Char.isDigit = true := by simpa using digits
  simp [readSample, taken, left, all, Nat.ofDigitChars_ten_toDigits]

theorem Reads.sample {series : List Char} (plain : PlainSeries series) (value : Nat) :
    Reads (sampleLine (series, value)) [(series, value)] where
  terminated := by
    simpa [sampleLine, Decimal.line] using Terminated.line (series ++ ' ' :: Nat.toDigits 10 value)
  scraped := by
    obtain ⟨named, single, unreturned⟩ := plain
    have digit (character : Char) (member : character ∈ Nat.toDigits 10 value) :=
      Decimal.toDigits_digit member
    have line := scrape_line (series ++ ' ' :: Nat.toDigits 10 value)
      (by
        simp only [List.mem_append, List.mem_cons, not_or]
        exact ⟨single, by decide, fun member => absurd (digit _ member) (by decide)⟩)
      (by
        simp only [List.mem_append, List.mem_cons, not_or]
        exact ⟨unreturned, by decide, fun member => absurd (digit _ member) (by decide)⟩)
    have sampled : isComment (series ++ ' ' :: Nat.toDigits 10 value) = false := by
      cases series with
      | nil => rfl
      | cons first rest => simpa [isComment] using named
    simpa [sampleLine, Decimal.line, sampled, readSample_sample] using line

theorem Reads.samples {samples : List Sample} (plain : ∀ sample ∈ samples, PlainSeries sample.1) :
    Reads (samples.flatMap sampleLine) samples := by
  induction samples with
  | nil => exact .nil
  | cons sample later ih =>
    have first := Reads.sample (plain sample (by simp)) sample.2
    have rest := ih fun sample member => plain sample (by simp [member])
    rw [List.flatMap_cons]
    exact first.append rest

theorem Reads.family {help kind : String} (explained : PlainComment help)
    (typed : PlainComment kind) {samples : List Sample}
    (plain : ∀ sample ∈ samples, PlainSeries sample.1) :
    Reads (family help kind samples) samples :=
  ((Reads.comment explained).append (.comment typed)).append (.samples plain)

end Exposition
