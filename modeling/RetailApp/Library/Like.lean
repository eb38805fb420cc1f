import Mathlib

/-! The LIKE patterns of SQL: `%` stands for any text, `_` for any one character, and some
dialects have a character that lets the one after it stand for itself. -/

namespace Like

inductive Token where
  | literal (character : Char)
  | anyOne
  | anyRun
  deriving DecidableEq, Repr

/-- How a dialect with this escape character, if it has one, reads a pattern; `escaped` says
that the character before was its escape character. A pattern that ends there has nothing to
escape: PostgreSQL refuses it, and here the end stands for nothing. -/
def read (escape : Option Char) : Bool → List Char → List Token
  | _, [] => []
  | true, character :: rest => .literal character :: read escape false rest
  | false, character :: rest =>
      if escape = some character then read escape true rest
      else if character = '%' then .anyRun :: read escape false rest
      else if character = '_' then .anyOne :: read escape false rest
      else .literal character :: read escape false rest

def tokens (escape : Option Char) (pattern : String) : List Token :=
  read escape false pattern.toList

def accepts : List Token → List Char → Bool
  | [], text => text.isEmpty
  | .literal _ :: _, [] => false
  | .literal character :: pattern, first :: rest => first == character && accepts pattern rest
  | .anyOne :: _, [] => false
  | .anyOne :: pattern, _ :: rest => accepts pattern rest
  | .anyRun :: pattern, text => text.tails.any (accepts pattern)

def like (escape : Option Char) (text pattern : String) : Bool :=
  accepts (tokens escape pattern) text.toList

def language : Token → Language Char
  | .literal character => {[character]}
  | .anyOne => {text | ∃ character, text = [character]}
  | .anyRun => {_text | True}

def texts (pattern : List Token) : Language Char := (pattern.map language).prod

/-- A character that every dialect with this escape character takes as itself. -/
def Plain (escape : Option Char) (character : Char) : Prop :=
  character ≠ '%' ∧ character ≠ '_' ∧ escape ≠ some character

theorem texts_nil : texts [] = 1 := rfl

theorem texts_cons (token : Token) (pattern : List Token) :
    texts (token :: pattern) = language token * texts pattern := by
  rw [texts, List.map_cons, List.prod_cons, texts]

theorem texts_append (first second : List Token) :
    texts (first ++ second) = texts first * texts second := by
  rw [texts, List.map_append, List.prod_append, texts, texts]

theorem accepts_iff (pattern : List Token) (text : List Char) :
    accepts pattern text = true ↔ text ∈ texts pattern := by
  induction pattern generalizing text with
  | nil => rw [accepts, List.isEmpty_iff, texts_nil, Language.mem_one]
  | cons token pattern ih =>
      rw [texts_cons, Language.mem_mul]
      cases token with
      | literal character =>
          constructor
          · intro accepted
            cases text with
            | nil => cases accepted
            | cons first rest =>
                obtain ⟨same, others⟩ := Bool.and_eq_true_iff.mp accepted
                obtain rfl := eq_of_beq same
                exact ⟨[first], rfl, rest, (ih rest).mp others, rfl⟩
          · rintro ⟨_, rfl, rest, member, rfl⟩
            exact Bool.and_eq_true_iff.mpr ⟨beq_self_eq_true character, (ih rest).mpr member⟩
      | anyOne =>
          constructor
          · intro accepted
            cases text with
            | nil => cases accepted
            | cons first rest => exact ⟨[first], ⟨first, rfl⟩, rest, (ih rest).mp accepted, rfl⟩
          · rintro ⟨_, ⟨first, rfl⟩, rest, member, rfl⟩
            exact (ih rest).mpr member
      | anyRun =>
          rw [accepts, List.any_eq_true]
          constructor
          · rintro ⟨rest, tail, accepted⟩
            obtain ⟨skipped, split⟩ := (List.mem_tails rest text).mp tail
            exact ⟨skipped, trivial, rest, (ih rest).mp accepted, split⟩
          · rintro ⟨skipped, _, rest, member, rfl⟩
            exact ⟨rest, (List.mem_tails rest _).mpr (List.suffix_append skipped rest),
              (ih rest).mpr member⟩

theorem texts_literals (word : List Char) : texts (word.map Token.literal) = {word} := by
  induction word with
  | nil => rfl
  | cons character word ih =>
      apply Language.ext
      intro text
      rw [List.map_cons, texts_cons, ih, Language.mem_mul]
      constructor
      · rintro ⟨_, rfl, _, rfl, rfl⟩
        rfl
      · rintro rfl
        exact ⟨[character], rfl, word, rfl, rfl⟩

theorem mem_texts_contains (word text : List Char) :
    text ∈ texts (.anyRun :: (word.map Token.literal ++ [.anyRun])) ↔ word <:+: text := by
  rw [texts_cons, texts_append, texts_literals, Language.mem_mul]
  constructor
  · rintro ⟨before, _, _, ⟨_, rfl, after, _, rfl⟩, rfl⟩
    exact ⟨before, after, List.append_assoc _ _ _⟩
  · rintro ⟨before, after, rfl⟩
    refine ⟨before, trivial, word ++ after, ⟨word, rfl, after, ?_, rfl⟩,
      (List.append_assoc _ _ _).symm⟩
    rw [texts_cons, texts_nil, mul_one]
    trivial

theorem read_plain (escape : Option Char) (word rest : List Char)
    (plain : ∀ character ∈ word, Plain escape character) :
    read escape false (word ++ rest) = word.map Token.literal ++ read escape false rest := by
  induction word with
  | nil => rfl
  | cons character word ih =>
      obtain ⟨⟨noRun, noOne, noEscape⟩, others⟩ := List.forall_mem_cons.mp plain
      rw [List.cons_append, read, if_neg noEscape, if_neg noRun, if_neg noOne, ih others,
        List.map_cons, List.cons_append]

def sample : List Token → List Char
  | [] => []
  | .literal character :: pattern => character :: sample pattern
  | .anyOne :: pattern => 'a' :: sample pattern
  | .anyRun :: pattern => sample pattern

theorem sample_mem (pattern : List Token) : sample pattern ∈ texts pattern := by
  induction pattern with
  | nil => rfl
  | cons token pattern ih =>
      rw [texts_cons]
      cases token with
      | literal character => exact Language.append_mem_mul (a := [character]) rfl ih
      | anyOne => exact Language.append_mem_mul (a := ['a']) ⟨'a', rfl⟩ ih
      | anyRun => exact Language.append_mem_mul (a := []) trivial ih

theorem read_run (escape : Option Char) (noEscape : escape ≠ some '%') (rest : List Char) :
    read escape false ('%' :: rest) = .anyRun :: read escape false rest := by
  rw [read, if_neg noEscape, if_pos rfl]

theorem sample_read (escape : Option Char) (noEscape : escape ≠ some '%') (word : List Char) :
    ((sample (read escape false (word ++ ['%']))).length ≤ word.length ∧
      (sample (read escape false (word ++ ['%'])) = word →
        ∀ character ∈ word, Plain escape character)) ∧
    ((sample (read escape true (word ++ ['%']))).length ≤ word.length + 1 ∧
      ∀ escaping, escape = some escaping →
        sample (read escape true (word ++ ['%'])) ≠ escaping :: word) := by
  induction word with
  | nil =>
      rw [List.nil_append, read_run escape noEscape]
      refine ⟨⟨le_rfl, fun _ character member => (List.not_mem_nil member).elim⟩, le_rfl, ?_⟩
      rintro escaping rfl same
      exact noEscape (congrArg some (List.head_eq_of_cons_eq same).symm)
  | cons character word ih =>
      obtain ⟨⟨short, whole⟩, escapedShort, escapedDiffers⟩ := ih
      constructor
      · rw [List.cons_append, read, List.length_cons]
        by_cases escapes : escape = some character
        · rw [if_pos escapes]
          exact ⟨escapedShort, fun same => (escapedDiffers character escapes same).elim⟩
        rw [if_neg escapes]
        by_cases run : character = '%'
        · rw [if_pos run, sample]
          refine ⟨short.trans (Nat.le_succ _), fun same => ?_⟩
          rw [same, List.length_cons] at short
          omega
        rw [if_neg run]
        by_cases one : character = '_'
        · rw [if_pos one, sample, List.length_cons]
          refine ⟨Nat.succ_le_succ short, fun same => ?_⟩
          have letter : 'a' = '_' := (List.head_eq_of_cons_eq same).trans one
          exact absurd letter (by decide)
        · rw [if_neg one, sample, List.length_cons]
          refine ⟨Nat.succ_le_succ short, fun same => List.forall_mem_cons.mpr ⟨?_, ?_⟩⟩
          · exact ⟨run, one, escapes⟩
          · exact whole (List.tail_eq_of_cons_eq same)
      · rw [List.cons_append, read, sample, List.length_cons, List.length_cons]
        refine ⟨by omega, ?_⟩
        intro escaping _ same
        have longer := congrArg List.length same
        simp only [List.length_cons] at longer
        omega

/-- A word between two runs means "contains the word" exactly when every character of the
word stands for itself. -/
theorem contains_iff (escape : Option Char) (noEscape : escape ≠ some '%') (word : List Char) :
    (∀ text, accepts (read escape false ('%' :: (word ++ ['%']))) text = true ↔ word <:+: text) ↔
      ∀ character ∈ word, Plain escape character := by
  rw [read_run escape noEscape]
  constructor
  · intro means
    have inside := sample_mem (.anyRun :: read escape false (word ++ ['%']))
    have found := (means _).mp ((accepts_iff _ _).mpr inside)
    obtain ⟨short, whole⟩ := (sample_read escape noEscape word).1
    rw [sample] at found
    exact whole (found.eq_of_length_le short).symm
  · intro plain text
    have final : read escape false ['%'] = [.anyRun] := read_run escape noEscape []
    rw [accepts_iff, read_plain escape word ['%'] plain, final]
    exact mem_texts_contains word text

end Like
