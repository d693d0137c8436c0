import Mathlib.Data.List.Basic

set_option autoImplicit false

namespace TextLines

-- Each piece keeps its newline; only the last can be without one.
def splitInclusive : List Char → List (List Char)
  | [] => []
  | character :: rest =>
    if character = '\n' then [character] :: splitInclusive rest
    else
      match splitInclusive rest with
      | [] => [[character]]
      | piece :: pieces => (character :: piece) :: pieces

def stripSuffix (suffix : Char) (text : List Char) : Option (List Char) :=
  if text.getLast? = some suffix then some text.dropLast else none

/-- The return before a newline goes with it; one at the very end of the text stays. -/
def trimLine (piece : List Char) : List Char :=
  match stripSuffix '\n' piece with
  | none => piece
  | some line => (stripSuffix '\r' line).getD line

def lines (text : List Char) : List (List Char) :=
  (splitInclusive text).map trimLine

def unlines (text : List (List Char)) : List Char :=
  text.flatMap fun line => line ++ ['\n']

theorem splitInclusive_line {line : List Char} (single : '\n' ∉ line) (rest : List Char) :
    splitInclusive (line ++ '\n' :: rest) = (line ++ ['\n']) :: splitInclusive rest := by
  induction line with
  | nil => simp [splitInclusive]
  | cons character line ih =>
    simp only [List.mem_cons, not_or] at single
    simp [splitInclusive, Ne.symm single.1, ih single.2]

theorem trimLine_newline {line : List Char} (unreturned : '\r' ∉ line) :
    trimLine (line ++ ['\n']) = line := by
  have stripped : stripSuffix '\n' (line ++ ['\n']) = some line := by
    simp [stripSuffix]
  have kept : stripSuffix '\r' line = none := by
    have last : line.getLast? ≠ some '\r' := fun last => unreturned (List.mem_of_getLast? last)
    simp [stripSuffix, last]
  simp [trimLine, stripped, kept]

theorem lines_line {line : List Char} (single : '\n' ∉ line) (unreturned : '\r' ∉ line)
    (rest : List Char) : lines (line ++ '\n' :: rest) = line :: lines rest := by
  simp [lines, splitInclusive_line single, trimLine_newline unreturned]

theorem lines_unlines {text : List (List Char)}
    (single : ∀ line ∈ text, '\n' ∉ line ∧ '\r' ∉ line) : lines (unlines text) = text := by
  induction text with
  | nil => rfl
  | cons line later ih =>
    have first := single line (by simp)
    have rest := ih fun line member => single line (by simp [member])
    have split : unlines (line :: later) = line ++ '\n' :: unlines later := by simp [unlines]
    rw [split, lines_line first.1 first.2, rest]

example : lines "a\r\nb\n\nc\r".toList = ["a".toList, "b".toList, [], "c\r".toList] := by decide

def Terminated (text : List Char) : Prop :=
  text = [] ∨ text.getLast? = some '\n'

theorem splitInclusive_filled {text : List Char} (filled : text ≠ []) :
    splitInclusive text ≠ [] := by
  cases text with
  | nil => contradiction
  | cons character rest =>
    unfold splitInclusive
    split
    next => simp
    next => split <;> simp

theorem Terminated.tail {character : Char} {rest : List Char}
    (terminated : Terminated (character :: rest)) : Terminated rest := by
  cases rest with
  | nil => exact .inl rfl
  | cons next later =>
    right
    simpa [Terminated, List.getLast?_cons_cons] using terminated

theorem Terminated.append {first second : List Char} (before : Terminated first)
    (after : Terminated second) : Terminated (first ++ second) := by
  rcases after with rfl | ended
  next => simpa using before
  next =>
    right
    simp [List.getLast?_append, ended]

theorem Terminated.line (line : List Char) : Terminated (line ++ ['\n']) := by
  right
  simp

theorem splitInclusive_append {first : List Char} (terminated : Terminated first)
    (second : List Char) :
    splitInclusive (first ++ second) = splitInclusive first ++ splitInclusive second := by
  induction first with
  | nil => rfl
  | cons character rest ih =>
    rw [List.cons_append, splitInclusive, splitInclusive, ih terminated.tail]
    by_cases newline : character = '\n'
    next => simp [newline]
    next =>
      -- The last character is a newline, so this one is not the last.
      have filled : rest ≠ [] := by
        rintro rfl
        simp [Terminated, newline] at terminated
      obtain ⟨piece, pieces, split⟩ := List.exists_cons_of_ne_nil (splitInclusive_filled filled)
      simp [newline, split]

theorem lines_append {first : List Char} (terminated : Terminated first) (second : List Char) :
    lines (first ++ second) = lines first ++ lines second := by
  simp [lines, splitInclusive_append terminated]

theorem mem_splitOn {separator : Char} {text field : List Char}
    (member : field ∈ text.splitOn separator) : separator ∉ field := by
  induction text generalizing field with
  | nil =>
    obtain rfl : field = [] := by simpa using member
    simp
  | cons character rest ih =>
    rw [List.splitOn_cons_eq_if_modifyHead] at member
    obtain ⟨first, later, split⟩ := List.exists_cons_of_ne_nil (List.splitOn_ne_nil separator rest)
    by_cases same : character = separator
    next =>
      simp only [same, beq_self_eq_true, if_true, List.mem_cons] at member
      rcases member with rfl | among
      next => simp
      next => exact ih among
    next =>
      simp only [beq_iff_eq, same, if_false, split, List.modifyHead_cons, List.mem_cons] at member
      rcases member with rfl | among
      next =>
        have kept : separator ∉ first := ih (by simp [split])
        simp [kept, Ne.symm same]
      next => exact ih (by simp [split, among])

theorem splitOn_eq_iff {separator : Char} {text : List Char} {fields : List (List Char)}
    (filled : fields ≠ []) :
    text.splitOn separator = fields ↔
      (∀ field ∈ fields, separator ∉ field) ∧ text = [separator].intercalate fields := by
  constructor
  next =>
    rintro rfl
    exact ⟨fun _ member => mem_splitOn member, (List.intercalate_splitOn separator).symm⟩
  next =>
    rintro ⟨plain, rfl⟩
    exact List.splitOn_intercalate separator plain filled

theorem mem_intercalate {separator character : Char} {fields : List (List Char)}
    (member : character ∈ [separator].intercalate fields) :
    character = separator ∨ ∃ field ∈ fields, character ∈ field := by
  induction fields with
  | nil => simp at member
  | cons field later ih =>
    cases later with
    | nil =>
      rw [List.intercalate_singleton] at member
      exact .inr ⟨field, by simp, member⟩
    | cons next rest =>
      rw [List.intercalate_cons_cons] at member
      simp only [List.mem_append, List.mem_singleton] at member
      rcases member with (first | same) | rest
      · exact .inr ⟨field, by simp, first⟩
      · exact .inl same
      · rcases ih rest with same | ⟨other, among, inside⟩
        · exact .inl same
        · exact .inr ⟨other, by simp [List.mem_cons.mp among], inside⟩

end TextLines
