import Mathlib

/-! Comma-separated values in the dialect of spreadsheets. A cell is put between quotes when it
holds a comma, a quote or part of a line end, and quotes inside it are doubled; every line ends
with CR LF. -/

namespace Csv

abbrev Cell := List Char

def special (character : Char) : Bool :=
  character == ',' || character == '"' || character == '\r' || character == '\n'

def doubled (text : Cell) : List Char :=
  text.flatMap (fun character => if character = '"' then ['"', '"'] else [character])

def field (text : Cell) : List Char :=
  if text.any special then '"' :: doubled text ++ ['"'] else text

def lineEnd : List Char := ['\r', '\n']

def fields : List Cell → List Char
  | [] => []
  | [last] => field last
  | first :: second :: rest => field first ++ ',' :: fields (second :: rest)

/-- One empty cell alone is quoted, as a line of nothing has no cells. -/
def writerow (cells : List Cell) : List Char :=
  if cells = [[]] then '"' :: '"' :: lineEnd else fields cells ++ lineEnd

def write (rows : List (List Cell)) : List Char := rows.flatMap writerow

/-- Where a reader is: before a line, before a cell, in a cell, in a quoted cell, behind a quote
in such a cell, or between the two characters of a line end. -/
inductive Mode where
  | line
  | cell
  | plain
  | quoted
  | closing
  | ended

/-- The rows of a text, with the cells and the part of a cell that were read of the line so far. -/
def readFrom : Mode → List Cell → Cell → List Char → Option (List (List Cell))
  | .line, _, _, [] => some []
  | _, _, _, [] => none
  | .line, cells, _, character :: rest =>
      if character = '"' then readFrom .quoted cells [] rest
      else if character = ',' then readFrom .cell (cells ++ [[]]) [] rest
      else if character = '\r' then readFrom .ended cells [] rest
      else if character = '\n' then none
      else readFrom .plain cells [character] rest
  | .cell, cells, _, character :: rest =>
      if character = '"' then readFrom .quoted cells [] rest
      else if character = ',' then readFrom .cell (cells ++ [[]]) [] rest
      else if character = '\r' then readFrom .ended (cells ++ [[]]) [] rest
      else if character = '\n' then none
      else readFrom .plain cells [character] rest
  | .plain, cells, text, character :: rest =>
      if character = ',' then readFrom .cell (cells ++ [text]) [] rest
      else if character = '\r' then readFrom .ended (cells ++ [text]) [] rest
      else if character = '"' ∨ character = '\n' then none
      else readFrom .plain cells (text ++ [character]) rest
  | .quoted, cells, text, character :: rest =>
      if character = '"' then readFrom .closing cells text rest
      else readFrom .quoted cells (text ++ [character]) rest
  | .closing, cells, text, character :: rest =>
      if character = '"' then readFrom .quoted cells (text ++ ['"']) rest
      else if character = ',' then readFrom .cell (cells ++ [text]) [] rest
      else if character = '\r' then readFrom .ended (cells ++ [text]) [] rest
      else none
  | .ended, cells, _, character :: rest =>
      if character = '\n' then (readFrom .line [] [] rest).map (cells :: ·) else none

def read (text : List Char) : Option (List (List Cell)) := readFrom .line [] [] text

section Cells

variable (cells : List Cell)

theorem read_quoted (text part rest : List Char) :
    readFrom .quoted cells part (doubled text ++ '"' :: rest) =
      readFrom .closing cells (part ++ text) rest := by
  induction text generalizing part with
  | nil => simp [doubled, readFrom]
  | cons character text ih =>
      rw [doubled, List.flatMap_cons, List.append_assoc, ← doubled]
      by_cases isQuote : character = '"'
      · subst isQuote
        have twice := ih (part ++ ['"'])
        simpa [readFrom] using twice
      · have once := ih (part ++ [character])
        simpa [readFrom, isQuote] using once

theorem read_plain (text part rest : List Char) (harmless : text.any special = false) :
    readFrom .plain cells part (text ++ rest) = readFrom .plain cells (part ++ text) rest := by
  induction text generalizing part with
  | nil => simp
  | cons character text ih =>
      rw [List.any_cons, Bool.or_eq_false_iff] at harmless
      obtain ⟨first, others⟩ := harmless
      have next := ih (part ++ [character]) others
      simp only [special, Bool.or_eq_false_iff, beq_eq_false_iff_ne] at first
      simpa [readFrom, first] using next

theorem read_cell_comma (mode : Mode) (starts : mode = .line ∨ mode = .cell) (text : Cell)
    (rest : List Char) :
    readFrom mode cells [] (field text ++ ',' :: rest) =
      readFrom .cell (cells ++ [text]) [] rest := by
  by_cases quotes : text.any special = true
  · have closed := read_quoted cells text [] (',' :: rest)
    rw [field, if_pos quotes]
    rcases starts with rfl | rfl <;> simp [readFrom, closed]
  · rw [Bool.not_eq_true] at quotes
    rw [field, if_neg (Bool.eq_false_iff.mp quotes)]
    cases text with
    | nil => rcases starts with rfl | rfl <;> simp [readFrom]
    | cons character text =>
        rw [List.any_cons, Bool.or_eq_false_iff] at quotes
        obtain ⟨first, others⟩ := quotes
        have through := read_plain cells text [character] (',' :: rest) others
        simp only [special, Bool.or_eq_false_iff, beq_eq_false_iff_ne] at first
        rcases starts with rfl | rfl <;> simp [readFrom, first, through]

theorem read_cell_end (mode : Mode) (text : Cell) (rest : List Char)
    (starts : mode = .line ∧ text ≠ [] ∨ mode = .cell) :
    readFrom mode cells [] (field text ++ lineEnd ++ rest) =
      (read rest).map ((cells ++ [text]) :: ·) := by
  by_cases quotes : text.any special = true
  · have closed := read_quoted cells text [] ('\r' :: '\n' :: rest)
    rw [field, if_pos quotes, lineEnd]
    rcases starts with ⟨rfl, _⟩ | rfl <;> simp [read, readFrom, closed]
  · rw [Bool.not_eq_true] at quotes
    rw [field, if_neg (Bool.eq_false_iff.mp quotes), lineEnd]
    cases text with
    | nil =>
        rcases starts with ⟨_, full⟩ | rfl
        · exact absurd rfl full
        · simp [read, readFrom]
    | cons character text =>
        rw [List.any_cons, Bool.or_eq_false_iff] at quotes
        obtain ⟨first, others⟩ := quotes
        have through := read_plain cells text [character] ('\r' :: '\n' :: rest) others
        simp only [special, Bool.or_eq_false_iff, beq_eq_false_iff_ne] at first
        rcases starts with ⟨rfl, _⟩ | rfl <;> simp [read, readFrom, first, through]

end Cells

theorem read_fields (cells : List Cell) (mode : Mode) (first : Cell) (others : List Cell)
    (rest : List Char) (starts : mode = .line ∧ first :: others ≠ [[]] ∨ mode = .cell) :
    readFrom mode cells [] (fields (first :: others) ++ lineEnd ++ rest) =
      (read rest).map ((cells ++ first :: others) :: ·) := by
  induction others generalizing cells mode first with
  | nil =>
      refine read_cell_end cells mode first rest (starts.imp_left (fun line => ⟨line.1, ?_⟩))
      intro none
      exact line.2 (by rw [none])
  | cons second others ih =>
      have comma := read_cell_comma cells mode (starts.imp_left And.left) first
        (fields (second :: others) ++ lineEnd ++ rest)
      have later := ih (cells ++ [first]) .cell second (.inr rfl)
      rw [fields, List.append_assoc, List.append_assoc, List.cons_append, ← List.append_assoc,
        comma, later, List.append_assoc, List.singleton_append]

theorem read_writerow (cells : List Cell) (rest : List Char) :
    read (writerow cells ++ rest) = (read rest).map (cells :: ·) := by
  by_cases alone : cells = [[]]
  · subst alone
    simp [writerow, lineEnd, read, readFrom]
  · rw [writerow, if_neg alone]
    cases cells with
    | nil => simp [fields, lineEnd, read, readFrom]
    | cons first others => exact read_fields [] .line first others rest (.inl ⟨rfl, alone⟩)

/-- What is written is read again, whatever characters the cells hold. -/
theorem read_write (rows : List (List Cell)) : read (write rows) = some rows := by
  induction rows with
  | nil => rfl
  | cons cells rows ih =>
      rw [write, List.flatMap_cons, ← write, read_writerow, ih]
      rfl

example : String.ofList (write [["day".toList, "a,\"b\"".toList], [[]]]) =
    "day,\"a,\"\"b\"\"\"\r\n\"\"\r\n" := by decide

end Csv
