import Mathlib

/-! A database table under a serial primary key. The row inserted n-th has key n,
so keys are unique and dense by construction; the rows a rolled-back insert would
have numbered leave no gap, which no reader of a key can tell. -/

structure Table (ρ : Type) where
  rows : List ρ
  deriving DecidableEq, Repr

/-- The order in which the database returns the rows of a SELECT without ORDER BY. -/
structure RowOrder (ρ : Type) where
  arrange : List ρ → List ρ
  perm : ∀ rows, (arrange rows).Perm rows

def RowOrder.byKey {ρ : Type} : RowOrder ρ := ⟨id, fun _ => List.Perm.refl _⟩

def RowOrder.front {ρ : Type} [DecidableEq ρ] (first : ρ) : RowOrder ρ where
  arrange := fun rows => rows.filter (fun row => decide (row = first)) ++
    rows.filter (fun row => !decide (row = first))
  perm := fun rows => List.filter_append_perm _ rows

theorem RowOrder.front_arrange {ρ : Type} [DecidableEq ρ] (first : ρ) (rows : List ρ) :
    (RowOrder.front first).arrange rows =
      rows.filter (fun row => decide (row = first)) ++
        rows.filter (fun row => !decide (row = first)) := rfl

namespace Table

variable {ρ K : Type}

theorem ascending_orderBy [LinearOrder K] (column : ρ → K) (rows : List ρ) :
    (rows.mergeSort (fun first second => column first ≤ column second)).Pairwise
      (fun first second => column first ≤ column second) := by
  have sorted : (rows.mergeSort (fun first second => column first ≤ column second)).Pairwise
      (fun first second => decide (column first ≤ column second) = true) := by
    apply List.pairwise_mergeSort
    · intro first second third before after
      exact decide_eq_true ((of_decide_eq_true before).trans (of_decide_eq_true after))
    · intro first second
      rw [Bool.or_eq_true, decide_eq_true_eq, decide_eq_true_eq]
      exact le_total _ _
  exact sorted.imp of_decide_eq_true

def empty : Table ρ := ⟨[]⟩

def nextKey (table : Table ρ) : Nat := table.rows.length + 1

def get? (table : Table ρ) : Nat → Option ρ
  | 0 => none
  | index + 1 => table.rows[index]?

def insert (table : Table ρ) (row : ρ) : Table ρ := ⟨table.rows ++ [row]⟩

def insertAll (table : Table ρ) (rows : List ρ) : Table ρ := ⟨table.rows ++ rows⟩

def numbered (table : Table ρ) (rows : List ρ) : List (Nat × ρ) :=
  (rows.zipIdx table.nextKey).map Prod.swap

def modify (table : Table ρ) (key : Nat) (update : ρ → ρ) : Table ρ :=
  match key with
  | 0 => table
  | index + 1 => ⟨table.rows.modify index update⟩

def entries (table : Table ρ) : List (Nat × ρ) :=
  (table.rows.zipIdx 1).map Prod.swap

def select (table : Table ρ) (order : RowOrder (Nat × ρ)) (selects : ρ → Bool) :
    List (Nat × ρ) :=
  order.arrange (table.entries.filter (fun entry => selects entry.2))

/-- The first row that a condition on a unique column selects. -/
def find? (table : Table ρ) (selects : ρ → Bool) : Option (Nat × ρ) :=
  table.entries.find? (fun entry => selects entry.2)

/-- `SELECT sum(column) WHERE selects`, with 0 for no rows. -/
def total [AddCommMonoid K] (selects : ρ → Bool) (column : ρ → K) (table : Table ρ) : K :=
  ((table.rows.filter selects).map column).sum

theorem get?_key (table : Table ρ) (key : Nat) (row : ρ) (found : table.get? key = some row) :
    0 < key ∧ key < table.nextKey := by
  cases key with
  | zero => cases found
  | succ index =>
      have inside := (List.getElem?_eq_some_iff.mp found).1
      exact ⟨Nat.succ_pos index, Nat.succ_lt_succ inside⟩

theorem nextKey_le (table : Table ρ) (key : Nat) (positive : 0 < key)
    (missing : table.get? key = none) : table.nextKey ≤ key := by
  cases key with
  | zero => exact absurd positive (Nat.lt_irrefl 0)
  | succ index => exact Nat.succ_le_succ (List.getElem?_eq_none_iff.mp missing)

@[simp] theorem get?_empty (key : Nat) : (empty : Table ρ).get? key = none := by
  cases key <;> rfl

@[simp] theorem get?_nextKey (table : Table ρ) : table.get? table.nextKey = none := by
  simp [nextKey, get?]

theorem get?_insert (table : Table ρ) (row : ρ) (key : Nat) :
    (table.insert row).get? key = if key = table.nextKey then some row else table.get? key := by
  cases key with
  | zero => simp [get?, nextKey]
  | succ index =>
      simp only [get?, insert, nextKey, Nat.add_right_cancel_iff, List.getElem?_append]
      by_cases before : index < table.rows.length
      · have distinct : index ≠ table.rows.length := by omega
        simp [before, distinct]
      · by_cases last : index = table.rows.length
        · simp [last]
        · have beyond : index - table.rows.length ≠ 0 := by omega
          simp [before, last, beyond]

@[simp] theorem get?_insert_self (table : Table ρ) (row : ρ) :
    (table.insert row).get? table.nextKey = some row := by
  rw [get?_insert, if_pos rfl]

theorem get?_insert_of_some (table : Table ρ) (row found : ρ) (key : Nat)
    (present : table.get? key = some found) : (table.insert row).get? key = some found := by
  have bound := (get?_key table key found present).2
  rw [get?_insert, if_neg bound.ne, present]

theorem get?_modify (table : Table ρ) (target : Nat) (update : ρ → ρ) (key : Nat) :
    (table.modify target update).get? key =
      if key = target then (table.get? key).map update else table.get? key := by
  cases target with
  | zero =>
      cases key with
      | zero => rfl
      | succ index => rfl
  | succ position =>
      cases key with
      | zero => rfl
      | succ index =>
          simp only [get?, modify, List.getElem?_modify, Nat.add_right_cancel_iff, eq_comm]
          split <;> simp

@[simp] theorem get?_modify_self (table : Table ρ) (key : Nat) (update : ρ → ρ) :
    (table.modify key update).get? key = (table.get? key).map update := by
  rw [get?_modify, if_pos rfl]

theorem get?_modify_of_some (table : Table ρ) (target : Nat) (update : ρ → ρ) (row : ρ)
    (present : table.get? target = some row) (key : Nat) :
    (table.modify target update).get? key =
      if key = target then some (update row) else table.get? key := by
  rw [get?_modify]
  by_cases here : key = target
  · rw [if_pos here, if_pos here, here, present, Option.map_some]
  · rw [if_neg here, if_neg here]

@[simp] theorem nextKey_insert (table : Table ρ) (row : ρ) :
    (table.insert row).nextKey = table.nextKey + 1 := by
  simp [nextKey, insert]

@[simp] theorem insertAll_nil (table : Table ρ) : table.insertAll [] = table := by
  simp [insertAll]

theorem insertAll_cons (table : Table ρ) (row : ρ) (rows : List ρ) :
    table.insertAll (row :: rows) = (table.insert row).insertAll rows := by
  simp [insertAll, insert]

theorem get?_insertAll_of_some (table : Table ρ) (rows : List ρ) (key : Nat) (row : ρ)
    (present : table.get? key = some row) : (table.insertAll rows).get? key = some row := by
  induction rows generalizing table with
  | nil => rwa [insertAll_nil]
  | cons head rows ih =>
      rw [insertAll_cons]
      exact ih _ (get?_insert_of_some table head row key present)

@[simp] theorem numbered_nil (table : Table ρ) : table.numbered [] = [] := rfl

theorem numbered_cons (table : Table ρ) (row : ρ) (rows : List ρ) :
    table.numbered (row :: rows) = (table.nextKey, row) :: (table.insert row).numbered rows := by
  simp [numbered, List.zipIdx_cons]

@[simp] theorem nextKey_modify (table : Table ρ) (key : Nat) (update : ρ → ρ) :
    (table.modify key update).nextKey = table.nextKey := by
  cases key <;> simp [nextKey, modify]

theorem insertAll_modify_nextKey (table : Table ρ) (row : ρ) (rows : List ρ) (update : ρ → ρ) :
    (table.insertAll (row :: rows)).modify table.nextKey update =
      table.insertAll (update row :: rows) := by
  simp only [insertAll, modify, nextKey, mk.injEq]
  generalize table.rows = before
  induction before with
  | nil => rfl
  | cons head tail ih => simpa using ih

theorem insert_modify_nextKey (table : Table ρ) (row : ρ) (update : ρ → ρ) :
    (table.insert row).modify table.nextKey update = table.insert (update row) :=
  insertAll_modify_nextKey table row [] update

theorem numbered_insert (table : Table ρ) (row row' : ρ) (rows : List ρ) :
    (table.insert row).numbered rows = (table.insert row').numbered rows := by
  simp [numbered]

theorem numbered_rows (table : Table ρ) (rows : List ρ) :
    (table.numbered rows).map Prod.snd = rows := by
  simp [numbered, List.map_map, Function.comp_def]

theorem numbered_keys (table : Table ρ) (rows : List ρ) :
    ((table.numbered rows).map Prod.fst).Nodup := by
  have keys : (table.numbered rows).map Prod.fst = List.range' table.nextKey rows.length := by
    simp only [numbered, List.map_map]
    exact List.zipIdx_map_snd table.nextKey rows
  rw [keys]
  exact List.nodup_range'

theorem mem_entries (table : Table ρ) (key : Nat) (row : ρ) :
    (key, row) ∈ table.entries ↔ table.get? key = some row := by
  have swapped : (key, row) ∈ table.entries ↔ (row, key) ∈ table.rows.zipIdx 1 := by
    simp [entries]
  rw [swapped, List.mk_mem_zipIdx_iff_le_and_getElem?_sub]
  cases key with
  | zero => simp [get?]
  | succ index => simp [get?]

theorem mem_rows (table : Table ρ) (row : ρ) :
    row ∈ table.rows ↔ ∃ key, table.get? key = some row := by
  constructor
  · intro member
    obtain ⟨index, found⟩ := List.mem_iff_getElem?.mp member
    exact ⟨index + 1, found⟩
  · rintro ⟨key, found⟩
    cases key with
    | zero => cases found
    | succ index => exact List.mem_iff_getElem?.mpr ⟨index, found⟩

theorem mem_select (table : Table ρ) (order : RowOrder (Nat × ρ)) (selects : ρ → Bool) (key : Nat)
    (row : ρ) :
    (key, row) ∈ table.select order selects ↔ table.get? key = some row ∧ selects row = true := by
  rw [select, (order.perm _).mem_iff, List.mem_filter, mem_entries]

theorem find?_some (table : Table ρ) (selects : ρ → Bool) (entry : Nat × ρ)
    (found : table.find? selects = some entry) :
    table.get? entry.1 = some entry.2 ∧ selects entry.2 = true := by
  rw [find?] at found
  have chosen := List.find?_some found
  exact ⟨(mem_entries table entry.1 entry.2).mp (List.mem_of_find?_eq_some found), chosen⟩

theorem find?_none (table : Table ρ) (selects : ρ → Bool) :
    table.find? selects = none ↔ ∀ key row, table.get? key = some row → selects row = false := by
  rw [find?, List.find?_eq_none]
  constructor
  · intro none key row present
    exact Bool.eq_false_iff.mpr (none (key, row) ((mem_entries table key row).mpr present))
  · intro none entry member
    exact Bool.eq_false_iff.mp (none entry.1 entry.2 ((mem_entries table _ _).mp member))

/-- Whatever the order, one row comes first exactly when no other row is selected. -/
theorem select_head_iff [DecidableEq ρ] (table : Table ρ) (selects : ρ → Bool) (key : Nat) (row : ρ)
    (present : table.get? key = some row) (selected : selects row = true) :
    (∀ order, (table.select order selects).head? = some (key, row)) ↔
      ∀ otherKey other, table.get? otherKey = some other → selects other = true →
        otherKey = key := by
  constructor
  · intro always otherKey other found admitted
    have first := always (RowOrder.front (otherKey, other))
    have member := (mem_select table RowOrder.byKey selects _ _).mpr ⟨found, admitted⟩
    have inside : (otherKey, other) ∈ (table.entries.filter (fun entry => selects entry.2)).filter
        (fun row => decide (row = (otherKey, other))) :=
      List.mem_filter.mpr ⟨member, decide_eq_true rfl⟩
    obtain ⟨head, tail, starts⟩ := List.exists_cons_of_ne_nil (List.ne_nil_of_mem inside)
    have isHead : head = (otherKey, other) := by
      have member := List.mem_cons_self (a := head) (l := tail)
      rw [← starts] at member
      exact of_decide_eq_true (List.mem_filter.mp member).2
    rw [select, RowOrder.front_arrange, starts, List.cons_append, List.head?_cons, isHead] at first
    exact (Prod.mk.inj (Option.some.inj first)).1
  · intro alone order
    cases first : table.select order selects with
    | nil =>
        have member := (mem_select table order selects _ _).mpr ⟨present, selected⟩
        rw [first] at member
        cases member
    | cons head tail =>
        have member : head ∈ table.select order selects := by
          rw [first]
          exact List.mem_cons_self
        obtain ⟨found, admitted⟩ := (mem_select table order selects _ _).mp member
        have sameKey := alone head.1 head.2 found admitted
        rw [sameKey] at found
        have sameRow := Option.some.inj (found.symm.trans present)
        rw [List.head?_cons, ← sameKey, ← sameRow]

theorem map_snd_entries (table : Table ρ) : table.entries.map Prod.snd = table.rows := by
  simp [entries, List.map_map, Function.comp_def]

theorem filter_entries_rows (table : Table ρ) (selects : ρ → Bool) :
    (table.entries.filter (fun entry => selects entry.2)).map Prod.snd =
      table.rows.filter selects := by
  rw [← map_snd_entries table, List.filter_map]
  rfl

theorem entries_ascending (table : Table ρ) :
    table.entries.Pairwise (fun older newer => older.1 < newer.1) := by
  have keys : table.entries.map Prod.fst = List.range' 1 table.rows.length := by
    simp only [entries, List.map_map]
    exact List.zipIdx_map_snd 1 table.rows
  rw [← List.pairwise_map, keys]
  exact List.pairwise_lt_range'

theorem length_filter_entries (table : Table ρ) (selects : ρ → Bool) :
    (table.entries.filter (fun entry => selects entry.2)).length = table.rows.countP selects := by
  rw [← map_snd_entries table, List.countP_map, ← List.countP_eq_length_filter]
  rfl

theorem entries_insert (table : Table ρ) (row : ρ) :
    (table.insert row).entries = table.entries ++ [(table.nextKey, row)] := by
  simp [entries, insert, nextKey, List.zipIdx_append, Nat.add_comm]

theorem entries_insertAll (table : Table ρ) (rows : List ρ) :
    (table.insertAll rows).entries = table.entries ++ table.numbered rows := by
  simp [entries, insertAll, numbered, nextKey, List.zipIdx_append, Nat.add_comm]

theorem entries_modify (table : Table ρ) (key : Nat) (update : ρ → ρ) :
    (table.modify key update).entries =
      table.entries.map (fun entry => if entry.1 = key then (entry.1, update entry.2) else entry) := by
  apply List.ext_getElem?
  intro index
  have numbered (rows : List ρ) :
      ((rows.zipIdx 1).map Prod.swap)[index]? = rows[index]?.map (fun row => (index + 1, row)) := by
    rw [List.getElem?_map, List.getElem?_zipIdx, Option.map_map]
    simp [Function.comp_def, Nat.add_comm]
  cases key with
  | zero =>
      rw [List.getElem?_map, modify, entries, numbered, Option.map_map]
      simp [Function.comp_def]
  | succ target =>
      rw [List.getElem?_map, modify, entries, entries, numbered, numbered, List.getElem?_modify]
      by_cases here : target = index
      · cases table.rows[index]? <;> simp [here]
      · cases table.rows[index]? <;> simp [here, Ne.symm here]

theorem find?_modify (table : Table ρ) (key : Nat) (update : ρ → ρ) (selects : ρ → Bool)
    (same : ∀ row, selects (update row) = selects row) :
    ((table.modify key update).find? selects).map (·.1) = (table.find? selects).map (·.1) := by
  have kept : (fun entry : Nat × ρ => selects entry.2) ∘
      (fun entry => if entry.1 = key then (entry.1, update entry.2) else entry) =
        fun entry => selects entry.2 := by
    funext entry
    by_cases here : entry.1 = key <;> simp [here, same]
  rw [find?, find?, entries_modify, List.find?_map, kept, Option.map_map]
  congr 1
  funext entry
  by_cases here : entry.1 = key <;> simp [here]

theorem find?_modify_of_some (table : Table ρ) (target key : Nat) (update : ρ → ρ)
    (selects : ρ → Bool) (row : ρ) (same : ∀ row, selects (update row) = selects row)
    (found : table.find? selects = some (key, row)) :
    (table.modify target update).find? selects =
      some (key, if key = target then update row else row) := by
  have keys := find?_modify table target update selects same
  rw [found, Option.map_some] at keys
  obtain ⟨entry, found', here⟩ := Option.map_eq_some_iff.mp keys
  have present := (find?_some table selects (key, row) found).1
  have present' := (find?_some _ selects entry found').1
  rw [here, get?_modify, present, Option.map_some, ← apply_ite some, Option.some.injEq] at present'
  subst here
  rw [found']
  exact congrArg some (Prod.ext rfl present'.symm)

theorem map_modify (table : Table ρ) (key : Nat) (update : ρ → ρ) (column : ρ → K)
    (kept : ∀ row, column (update row) = column row) :
    (table.modify key update).rows.map column = table.rows.map column := by
  cases key with
  | zero => rfl
  | succ position =>
      apply List.ext_getElem?
      intro index
      rw [modify, List.getElem?_map, List.getElem?_map, List.getElem?_modify, Option.map_eq_map,
        Option.map_map]
      congr 1
      funext row
      by_cases here : position = index <;> simp [here, kept]

theorem map_foldl_modify (table : Table ρ) (keys : List Nat) (update : ρ → ρ) (column : ρ → K)
    (kept : ∀ row, column (update row) = column row) :
    (keys.foldl (fun table key => table.modify key update) table).rows.map column =
      table.rows.map column := by
  induction keys generalizing table with
  | nil => rfl
  | cons key keys ih => rw [List.foldl_cons, ih, map_modify table key update column kept]

theorem rows_map (table table' : Table ρ) (update : ρ → ρ)
    (each : ∀ key, table'.get? key = (table.get? key).map update) :
    table'.rows = table.rows.map update := by
  apply List.ext_getElem?
  intro index
  rw [List.getElem?_map]
  exact each (index + 1)

theorem forall_rows_insert (table : Table ρ) (row : ρ) (holds : ρ → Prop) :
    (∀ other ∈ (table.insert row).rows, holds other) ↔
      (∀ other ∈ table.rows, holds other) ∧ holds row := by
  simp [insert, or_imp, forall_and]

theorem forall_rows_modify (table : Table ρ) (key : Nat) (update : ρ → ρ) (row : ρ)
    (holds : ρ → Prop) (present : table.get? key = some row)
    (all : ∀ other ∈ table.rows, holds other) :
    (∀ other ∈ (table.modify key update).rows, holds other) ↔ holds (update row) := by
  constructor
  · intro kept
    apply kept
    exact (mem_rows _ _).mpr ⟨key, by rw [get?_modify_self, present, Option.map_some]⟩
  · intro new other member
    obtain ⟨otherKey, found⟩ := (mem_rows _ other).mp member
    rw [get?_modify_of_some table key update row present] at found
    split at found
    · exact Option.some.inj found ▸ new
    · exact all other ((mem_rows _ other).mpr ⟨otherKey, found⟩)

theorem get?_foldl_modify (table : Table ρ) (keys : List Nat) (update : ρ → ρ)
    (idempotent : ∀ row, update (update row) = update row) (key : Nat) :
    (keys.foldl (fun table key => table.modify key update) table).get? key =
      if key ∈ keys then (table.get? key).map update else table.get? key := by
  induction keys generalizing table with
  | nil => simp
  | cons head keys ih =>
      rw [List.foldl_cons, ih, get?_modify]
      by_cases here : key = head
      · subst here
        by_cases again : key ∈ keys
        · simp [again, idempotent, Function.comp_def]
        · simp [again]
      · simp [here]

theorem key_unique (table : Table ρ) (column : ρ → K) (distinct : (table.rows.map column).Nodup)
    (first second : Nat) (row row' : ρ) (here : table.get? first = some row)
    (there : table.get? second = some row') (same : column row = column row') :
    first = second := by
  cases first with
  | zero => cases here
  | succ index =>
      cases second with
      | zero => cases there
      | succ position =>
          have inside : index < (table.rows.map column).length := by
            rw [List.length_map]
            exact (List.getElem?_eq_some_iff.mp here).1
          have equal : (table.rows.map column)[index]? = (table.rows.map column)[position]? := by
            rw [List.getElem?_map, List.getElem?_map]
            exact (congrArg (Option.map column) here).trans
              ((congrArg some same).trans (congrArg (Option.map column) there).symm)
          rw [(List.getElem?_inj inside distinct).mp equal]

theorem key_unique_some (table : Table (Option K)) (distinct : (table.rows.filterMap id).Nodup)
    (first second : Nat) (value : K) (one : table.get? first = some (some value))
    (other : table.get? second = some (some value)) : first = second := by
  have apart := List.pairwise_iff_getElem.mp (List.pairwise_filterMap.mp distinct)
  have never (early late : Nat) (before : early < late)
      (one : table.rows[early]? = some (some value))
      (other : table.rows[late]? = some (some value)) : False := by
    obtain ⟨firstBound, firstValue⟩ := List.getElem?_eq_some_iff.mp one
    obtain ⟨secondBound, secondValue⟩ := List.getElem?_eq_some_iff.mp other
    exact apart early late firstBound secondBound before value firstValue value secondValue rfl
  cases first with
  | zero => cases one
  | succ first =>
      cases second with
      | zero => cases other
      | succ second =>
          rcases Nat.lt_trichotomy first second with before | rfl | after
          · exact (never first second before one other).elim
          · rfl
          · exact (never second first after other one).elim

theorem find?_unique (table : Table ρ) (selects : ρ → Bool) (column : ρ → K) (value : K)
    (pins : ∀ row, selects row = true → column row = value)
    (distinct : (table.rows.map column).Nodup) (key : Nat) (row : ρ)
    (present : table.get? key = some row) (selected : selects row = true) :
    table.find? selects = some (key, row) := by
  cases found : table.find? selects with
  | none =>
      have missed := (find?_none table selects).mp found key row present
      exact absurd selected (Bool.eq_false_iff.mp missed)
  | some entry =>
      obtain ⟨there, chosen⟩ := find?_some table selects entry found
      have same : key = entry.1 := key_unique table column distinct key entry.1 row entry.2
        present there ((pins row selected).trans (pins entry.2 chosen).symm)
      have equal := Option.some.inj (present.symm.trans (same ▸ there))
      rw [same, equal]

theorem entries_keys (table : Table ρ) : (table.entries.map Prod.fst).Nodup := by
  have keys : table.entries.map Prod.fst = List.range' 1 table.rows.length := by
    simp only [entries, List.map_map]
    exact List.zipIdx_map_snd 1 table.rows
  rw [keys]
  exact List.nodup_range'

theorem lookup_eq_some (entries : List (Nat × ρ)) (key : Nat) (row : ρ)
    (distinct : (entries.map Prod.fst).Nodup) :
    entries.lookup key = some row ↔ (key, row) ∈ entries := by
  induction entries with
  | nil => simp
  | cons entry rest ih =>
      obtain ⟨fresh, distinct⟩ := List.nodup_cons.mp distinct
      by_cases here : key = entry.1
      · have hit : (entry :: rest).lookup key = some entry.2 := by
          simp [List.lookup, here]
        have absent : (key, row) ∉ rest :=
          fun member => fresh (here ▸ List.mem_map_of_mem member)
        rw [hit, List.mem_cons, or_iff_left absent, Prod.ext_iff]
        simp [here, eq_comm]
      · have miss : (entry :: rest).lookup key = rest.lookup key := by
          simp [List.lookup, beq_false_of_ne here]
        have other : (key, row) ≠ entry := fun same => here (congrArg Prod.fst same)
        rw [miss, ih distinct, List.mem_cons, or_iff_right other]

theorem select_keys (table : Table ρ) (order : RowOrder (Nat × ρ)) (selects : ρ → Bool) :
    ((table.select order selects).map Prod.fst).Nodup :=
  ((order.perm _).map Prod.fst).nodup_iff.mpr
    ((entries_keys table).sublist (List.filter_sublist.map Prod.fst))

theorem lookup_select (table : Table ρ) (order : RowOrder (Nat × ρ)) (selects : ρ → Bool)
    (key : Nat) : (table.select order selects).lookup key = (table.get? key).filter selects := by
  apply Option.ext
  intro row
  rw [lookup_eq_some _ key row (select_keys table order selects), mem_select,
    Option.filter_eq_some_iff]

theorem lookup_entries (table : Table ρ) (key : Nat) : table.entries.lookup key = table.get? key := by
  apply Option.ext
  intro row
  rw [lookup_eq_some _ key row (entries_keys table), mem_entries]

theorem related_lookup {ρ' : Type} (relation : ρ → ρ' → Prop) (entries : List (Nat × ρ))
    (entries' : List (Nat × ρ'))
    (related : List.Forall₂ (fun entry entry' => entry.1 = entry'.1 ∧ relation entry.2 entry'.2)
      entries entries') (key : Nat) :
    Option.Rel relation (entries.lookup key) (entries'.lookup key) := by
  induction related with
  | nil => exact .none
  | cons first _ ih =>
      rename_i entry entry' _ _
      obtain ⟨same, shown⟩ := first
      rw [List.lookup_cons, List.lookup_cons, ← same]
      split
      · exact .some shown
      · exact ih

theorem total_insert [AddCommMonoid K] (selects : ρ → Bool) (column : ρ → K)
    (table : Table ρ) (row : ρ) :
    total selects column (table.insert row) =
      total selects column table + if selects row then column row else 0 := by
  simp only [total, insert, List.filter_append, List.map_append, List.sum_append,
    List.filter_singleton]
  cases selects row <;> simp

theorem total_insertAll [AddCommMonoid K] (selects : ρ → Bool) (column : ρ → K)
    (table : Table ρ) (rows : List ρ) :
    total selects column (table.insertAll rows) =
      total selects column table + ((rows.filter selects).map column).sum := by
  simp [total, insertAll]

end Table
