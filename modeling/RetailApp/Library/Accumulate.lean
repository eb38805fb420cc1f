import Mathlib
import RetailApp.Library.Transaction

/-! Loops that gather what their inputs contribute: a loop that stops at the first input it
refuses, and totals kept in a dictionary with default 0. -/

namespace Accumulate

variable {ε ι α κ M : Type}

/-- A loop that refuses some inputs, whatever it has gathered, and takes in the rest. -/
theorem foldlM_guarded (step : α → ι → Except ε α) (add : α → ι → α) (refuses : ι → Bool)
    (raised : ι → ε) (inputs : List ι)
    (each : ∀ input ∈ inputs, ∀ gathered, step gathered input =
      if refuses input then .error (raised input) else .ok (add gathered input)) (gathered : α) :
    inputs.foldlM step gathered =
      match inputs.find? refuses with
      | some input => .error (raised input)
      | none => .ok (inputs.foldl add gathered) := by
  induction inputs generalizing gathered with
  | nil => rfl
  | cons input inputs ih =>
      have first := each input List.mem_cons_self gathered
      have rest := ih (fun other member => each other (List.mem_cons_of_mem input member))
      rw [List.foldlM_cons, first, List.find?_cons]
      cases refused : refuses input with
      | true => rfl
      | false =>
          simp only [Bool.false_eq_true, if_false]
          exact rest (add gathered input)

theorem mapM_guarded (each : ι → Except ε α) (make : ι → α) (accepts : ι → Prop)
    (inputs : List ι) (outputs : List α)
    (one : ∀ input output, each input = .ok output ↔ accepts input ∧ make input = output) :
    inputs.mapM each = .ok outputs ↔
      (∀ input ∈ inputs, accepts input) ∧ inputs.map make = outputs := by
  rw [Transaction.mapM_except_ok]
  simp only [one]
  rw [List.forall₂_and_left, ← List.forall₂_eq_eq_eq, List.forall₂_map_left_iff]

theorem related_origin (relation : ι → α → Prop) (inputs : List ι) (outputs : List α)
    (related : List.Forall₂ relation inputs outputs) (output : α) (member : output ∈ outputs) :
    ∃ input ∈ inputs, relation input output := by
  induction related with
  | nil => cases member
  | @cons input first inputs outputs head tail ih =>
      rcases List.mem_cons.mp member with rfl | later
      · exact ⟨input, List.mem_cons_self, head⟩
      · obtain ⟨origin, inside, relates⟩ := ih later
        exact ⟨origin, List.mem_cons_of_mem input inside, relates⟩

theorem related_singleton (relation : ι → α → Prop) (input : ι) (outputs : List α)
    (related : List.Forall₂ relation [input] outputs) :
    ∃ output, relation input output ∧ outputs = [output] := by
  obtain ⟨output, others, head, rest, rfl⟩ := List.forall₂_cons_left_iff.mp related
  obtain rfl := List.forall₂_nil_left_iff.mp rest
  exact ⟨output, head, rfl⟩

theorem related_trans (first : ι → α → Prop) (second : α → κ → Prop) (both : ι → κ → Prop)
    (compose : ∀ input middle output, first input middle → second middle output →
      both input output) (inputs : List ι) (middles : List α) (outputs : List κ)
    (left : List.Forall₂ first inputs middles) (right : List.Forall₂ second middles outputs) :
    List.Forall₂ both inputs outputs := by
  induction left generalizing outputs with
  | nil =>
      cases right with
      | nil => exact List.Forall₂.nil
  | cons head _ ih =>
      cases right with
      | cons head' tail' => exact List.Forall₂.cons (compose _ _ _ head head') (ih _ tail')

theorem related_map (relation : ι → α → Prop) (first : ι → M) (second : α → M)
    (agree : ∀ input output, relation input output → second output = first input)
    (inputs : List ι) (outputs : List α) (related : List.Forall₂ relation inputs outputs) :
    outputs.map second = inputs.map first := by
  induction related with
  | nil => rfl
  | cons head _ ih => rw [List.map_cons, List.map_cons, agree _ _ head, ih]

theorem exists_related (relation : ι → α → Prop) (inputs : List ι)
    (each : ∀ input ∈ inputs, ∃ output, relation input output) :
    ∃ outputs, List.Forall₂ relation inputs outputs := by
  induction inputs with
  | nil => exact ⟨[], List.Forall₂.nil⟩
  | cons input inputs ih =>
      obtain ⟨output, head⟩ := each input List.mem_cons_self
      obtain ⟨outputs, tail⟩ := ih (fun other member => each other (List.mem_cons_of_mem input member))
      exact ⟨output :: outputs, List.Forall₂.cons head tail⟩

section Tally

variable [DecidableEq κ]

def under (entries : List (κ × ι)) (key : κ) : List ι :=
  (entries.filter (fun entry => entry.1 = key)).map Prod.snd

theorem under_cons (entry : κ × ι) (entries : List (κ × ι)) (key : κ) :
    under (entry :: entries) key =
      if entry.1 = key then entry.2 :: under entries key else under entries key := by
  by_cases here : entry.1 = key
  · simp [under, here]
  · simp [under, here]

theorem mem_under (entries : List (κ × ι)) (key : κ) (item : ι) :
    item ∈ under entries key ↔ (key, item) ∈ entries := by
  simp only [under, List.mem_map, List.mem_filter, decide_eq_true_eq]
  constructor
  · rintro ⟨⟨_, _⟩, ⟨member, rfl⟩, rfl⟩
    exact member
  · intro member
    exact ⟨(key, item), ⟨member, rfl⟩, rfl⟩

variable [AddCommMonoid M]

/-- The total of each key. -/
def tally (entries : List (κ × M)) (key : κ) : M := (under entries key).sum

@[simp] theorem tally_nil (key : κ) : tally ([] : List (κ × M)) key = 0 := rfl

theorem tally_cons (entry : κ × M) (entries : List (κ × M)) (key : κ) :
    tally (entry :: entries) key = (if entry.1 = key then entry.2 else 0) + tally entries key := by
  rw [tally, under_cons]
  by_cases here : entry.1 = key
  · rw [if_pos here, if_pos here, List.sum_cons, tally]
  · rw [if_neg here, if_neg here, zero_add, tally]

theorem foldl_update (totals : κ → M) (entries : List (κ × M)) :
    entries.foldl (fun totals entry =>
        Function.update totals entry.1 (totals entry.1 + entry.2)) totals =
      fun key => totals key + tally entries key := by
  induction entries generalizing totals with
  | nil => simp
  | cons entry entries ih =>
      rw [List.foldl_cons, ih]
      funext key
      rw [tally_cons]
      by_cases here : entry.1 = key
      · subst here
        rw [Function.update_self, if_pos rfl, add_assoc]
      · rw [Function.update_of_ne (Ne.symm here), if_neg here, zero_add]

theorem tally_perm (entries entries' : List (κ × M)) (perm : entries.Perm entries') :
    tally entries = tally entries' := by
  funext key
  exact ((perm.filter _).map _).sum_eq

theorem tally_zero (keys : List ι) (key : ι → κ) (at_key : κ) :
    tally (keys.map (fun input => (key input, (0 : M)))) at_key = 0 := by
  induction keys with
  | nil => rfl
  | cons input keys ih =>
      rw [List.map_cons, tally_cons, ih, add_zero]
      exact ite_self 0

theorem tally_absent (entries : List (κ × M)) (key : κ) (absent : key ∉ entries.map Prod.fst) :
    tally entries key = 0 := by
  induction entries with
  | nil => rfl
  | cons entry entries ih =>
      rw [List.map_cons, List.mem_cons, not_or] at absent
      rw [tally_cons, if_neg (Ne.symm absent.1), zero_add, ih absent.2]

theorem tally_of_distinct (entries : List (κ × M)) (distinct : (entries.map Prod.fst).Nodup)
    (entry : κ × M) (member : entry ∈ entries) : tally entries entry.1 = entry.2 := by
  induction entries with
  | nil => cases member
  | cons head entries ih =>
      obtain ⟨fresh, distinct⟩ := List.nodup_cons.mp distinct
      rw [tally_cons]
      rcases List.mem_cons.mp member with rfl | later
      · rw [if_pos rfl, tally_absent entries _ fresh, add_zero]
      · have other : head.1 ≠ entry.1 := by
          intro same
          exact fresh (same ▸ List.mem_map_of_mem later)
        rw [if_neg other, zero_add, ih distinct later]

theorem sum_over_keys (weigh : κ → ι → M) (entries : List (κ × ι)) (keys : Finset κ)
    (covers : ∀ entry ∈ entries, entry.1 ∈ keys) :
    (entries.map (fun entry => weigh entry.1 entry.2)).sum =
      ∑ key ∈ keys, ((under entries key).map (weigh key)).sum := by
  induction entries with
  | nil => simp [under]
  | cons entry entries ih =>
      have inside := covers entry List.mem_cons_self
      have rest := ih (fun other member => covers other (List.mem_cons_of_mem entry member))
      have one : ∑ key ∈ keys, (if entry.1 = key then weigh key entry.2 else 0) =
          weigh entry.1 entry.2 := by
        rw [Finset.sum_ite_eq, if_pos inside]
      have more (key : κ) : ((under (entry :: entries) key).map (weigh key)).sum =
          (if entry.1 = key then weigh key entry.2 else 0) +
            ((under entries key).map (weigh key)).sum := by
        rw [under_cons]
        by_cases here : entry.1 = key
        · rw [if_pos here, if_pos here, List.map_cons, List.sum_cons]
        · rw [if_neg here, if_neg here, zero_add]
      calc
        ((entry :: entries).map (fun entry => weigh entry.1 entry.2)).sum =
            weigh entry.1 entry.2 + ∑ key ∈ keys, ((under entries key).map (weigh key)).sum := by
          rw [List.map_cons, List.sum_cons, rest]
        _ = ∑ key ∈ keys, ((if entry.1 = key then weigh key entry.2 else 0) +
              ((under entries key).map (weigh key)).sum) := by rw [Finset.sum_add_distrib, one]
        _ = ∑ key ∈ keys, ((under (entry :: entries) key).map (weigh key)).sum := by
          simp only [more]

/-- A total over a list depends only on the total that each key contributes. -/
theorem sum_by_key (weigh : κ → ι → M) (entries entries' : List (κ × ι))
    (same : ∀ key, ((under entries key).map (weigh key)).sum =
      ((under entries' key).map (weigh key)).sum) :
    (entries.map (fun entry => weigh entry.1 entry.2)).sum =
      (entries'.map (fun entry => weigh entry.1 entry.2)).sum := by
  let keys := ((entries ++ entries').map Prod.fst).toFinset
  have covers (entry : κ × ι) (member : entry ∈ entries ++ entries') : entry.1 ∈ keys :=
    List.mem_toFinset.mpr (List.mem_map_of_mem member)
  rw [sum_over_keys weigh entries keys, sum_over_keys weigh entries' keys]
  · exact Finset.sum_congr rfl (fun key _ => same key)
  · intro entry member
    exact covers entry (List.mem_append_right entries member)
  · intro entry member
    exact covers entry (List.mem_append_left entries' member)

end Tally

end Accumulate
