import Mathlib

/-! Of the items that come in under one key the first is kept, and the others are dropped. -/

namespace FirstWins

variable {α κ : Type} [DecidableEq κ] (key : α → κ)

def keep (kept : List α) (item : α) : List α :=
  if key item ∈ kept.map key then kept else kept ++ [item]

def firsts (items : List α) : List α := items.foldl (keep key) []

theorem firsts_append (items others : List α) :
    firsts key (items ++ others) = others.foldl (keep key) (firsts key items) :=
  List.foldl_append

theorem prefix_keep (kept : List α) (item : α) : kept <+: keep key kept item := by
  unfold keep
  split
  · exact List.prefix_rfl
  · exact List.prefix_append kept [item]

theorem prefix_firsts (items others : List α) :
    firsts key items <+: firsts key (items ++ others) := by
  induction others using List.reverseRecOn with
  | nil => rw [List.append_nil]
  | append_singleton others item ih =>
      rw [← List.append_assoc, firsts_append]
      exact ih.trans (prefix_keep key _ item)

theorem mem_keys_keep (kept : List α) (item : α) (sought : κ) :
    sought ∈ (keep key kept item).map key ↔ sought ∈ kept.map key ∨ sought = key item := by
  unfold keep
  split
  · rename_i taken
    constructor
    · exact Or.inl
    · rintro (old | rfl)
      · exact old
      · exact taken
  · rw [List.map_append, List.mem_append, List.map_singleton, List.mem_singleton]

theorem mem_keys_firsts (items : List α) (sought : κ) :
    sought ∈ (firsts key items).map key ↔ sought ∈ items.map key := by
  induction items using List.reverseRecOn with
  | nil => rfl
  | append_singleton items item ih =>
      rw [firsts_append, List.foldl_cons, List.foldl_nil, mem_keys_keep, ih, List.map_append,
        List.mem_append, List.map_singleton, List.mem_singleton]

end FirstWins
