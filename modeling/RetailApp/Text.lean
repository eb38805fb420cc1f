import RetailApp.Exceptions

namespace RetailApp

/-- The characters `str.strip` removes: those for which `str.isspace` holds. -/
def isSpace (character : Char) : Bool :=
  let code := character.toNat
  (9 ≤ code && code ≤ 13) || (28 ≤ code && code ≤ 32) || code == 0x85 || code == 0xA0 ||
    code == 0x1680 || (0x2000 ≤ code && code ≤ 0x200A) || code == 0x2028 || code == 0x2029 ||
    code == 0x202F || code == 0x205F || code == 0x3000

def strip (text : String) : String :=
  String.ofList (((text.toList.dropWhile isSpace).reverse.dropWhile isSpace).reverse)

/-- A VARCHAR(width) column drops excess spaces at the end and refuses any other excess. -/
def varchar (column : String) (width : Nat) (text : String) : Except Raised String :=
  if text.length ≤ width then .ok text
  else if (text.toList.drop width).all (· == ' ') then .ok (String.ofList (text.toList.take width))
  else .error (.dataError column)

def nullableVarchar (column : String) (width : Nat) : Option String → Except Raised (Option String)
  | none => .ok none
  | some text => (varchar column width text).map some

def integer (column : String) (value : Int) : Except Raised Int :=
  if -2 ^ 31 ≤ value ∧ value < 2 ^ 31 then .ok value else .error (.dataError column)

abbrev Varchar (width : Nat) := {text : String // text.length ≤ width}

/-- A request field with `min_length` and `max_length`. -/
abbrev BoundedText (low high : Nat) :=
  {text : String // low ≤ text.length ∧ text.length ≤ high}

theorem strip_length (text : String) : (strip text).length ≤ text.length := by
  have front := text.toList.length_dropWhile_le isSpace
  have back := (text.toList.dropWhile isSpace).reverse.length_dropWhile_le isSpace
  rw [List.length_reverse] at back
  rw [strip, String.length_ofList, List.length_reverse, ← String.length_toList]
  exact back.trans front

theorem strip_fits (low high : Nat) (text : BoundedText low high) :
    (strip text.1).length ≤ high := (strip_length text.1).trans text.2.2

/-- Stripping never lengthens, so a bounded field fits the column of its width. -/
def stripped {low high : Nat} (text : BoundedText low high) : Varchar high :=
  ⟨strip text.1, strip_fits low high text⟩

theorem strip_strip (text : String) : strip (strip text) = strip text := by
  have front (characters : List Char) :
      ((characters.dropWhile isSpace).rdropWhile isSpace).dropWhile isSpace =
        (characters.dropWhile isSpace).rdropWhile isSpace := by
    obtain ⟨rest, split⟩ := List.rdropWhile_prefix isSpace (characters.dropWhile isSpace)
    cases kept : (characters.dropWhile isSpace).rdropWhile isSpace with
    | nil => rfl
    | cons first others =>
        have starts : characters.dropWhile isSpace = first :: (others ++ rest) := by
          rw [← split, kept, List.cons_append]
        have again := List.dropWhile_idempotent isSpace characters
        rw [starts, List.dropWhile_cons] at again
        rw [List.dropWhile_cons]
        split at again
        · have shorter := congrArg List.length again
          have bound := List.length_dropWhile_le isSpace (others ++ rest)
          simp only [List.length_cons] at shorter
          omega
        · rename_i keeps
          rw [if_neg keeps]
  have back (characters : List Char) :
      (characters.rdropWhile isSpace).reverse.dropWhile isSpace =
        (characters.rdropWhile isSpace).reverse := by
    rw [List.rdropWhile, List.reverse_reverse]
    exact List.dropWhile_idempotent isSpace _
  have kept := front text.toList
  have ends := back (text.toList.dropWhile isSpace)
  rw [List.rdropWhile] at kept ends
  rw [strip, strip, String.toList_ofList, kept, ends, List.reverse_reverse]

def fitsVarchar (width : Nat) (text : String) : Prop :=
  text.length ≤ width ∨ ∀ character ∈ text.toList.drop width, character = ' '

theorem varchar_ok_iff (column : String) (width : Nat) (text : String) :
    (∃ stored, varchar column width text = .ok stored) ↔ fitsVarchar width text := by
  unfold varchar fitsVarchar
  by_cases short : text.length ≤ width
  · simp [short]
  · by_cases blank : (text.toList.drop width).all (· == ' ') = true
    · simp only [short, blank, if_false, if_true]
      simpa using blank
    · simp only [short, blank, if_false]
      simpa using blank

theorem varchar_length (column : String) (width : Nat) (text stored : String)
    (fits : varchar column width text = .ok stored) : stored.length = min text.length width := by
  unfold varchar at fits
  split at fits
  · rename_i short
    obtain rfl := Except.ok.inj fits
    exact (min_eq_left short).symm
  · rename_i long
    split at fits
    · obtain rfl := Except.ok.inj fits
      rw [String.length_ofList, List.length_take, String.length_toList, min_comm]
    · cases fits

theorem nullableVarchar_ok_iff (column : String) (width : Nat) (text : Option String) :
    (∃ stored, nullableVarchar column width text = .ok stored) ↔
      ∀ given, text = some given → fitsVarchar width given := by
  cases text with
  | none => simp [nullableVarchar]
  | some given =>
      have given_ok := varchar_ok_iff column width given
      simp only [nullableVarchar, Option.some.injEq, forall_eq']
      rw [← given_ok]
      cases varchar column width given <;> simp [Except.map]

end RetailApp
