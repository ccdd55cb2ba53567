/-!
# Ordered pairs

Lists of named values in which a name occurs at most once and the order of the pairs is kept. A
document, an object of a payload and a table of collections are all such lists.

A look-up reads the first pair of a name. Writing replaces a value where it stands, or appends a
new pair at the end. There are two ways to take a pair away: `erase` closes the gap, and
`swapErase` moves the last pair into it.

## References

- SPEC_FULL.md, section 3, Document: an ordered mapping from names
-/

namespace KeyedStore.Pairs

variable {κ α β : Type} [DecidableEq κ]

/-- The value of the first pair named `name`. -/
def get? (name : κ) : List (κ × α) → Option α
  | [] => none
  | (other, value) :: rest => if other = name then some value else get? name rest

/-- Whether some pair is named `name`. -/
def contains (name : κ) (pairs : List (κ × α)) : Bool :=
  (get? name pairs).isSome

/-- The names of the pairs, in order. -/
def names (pairs : List (κ × α)) : List κ :=
  pairs.map Prod.fst

/-- Write `value` under `name`: in place if the name is present, at the end otherwise. -/
def insert (name : κ) (value : α) : List (κ × α) → List (κ × α)
  | [] => [(name, value)]
  | (other, old) :: rest =>
    if other = name then (name, value) :: rest else (other, old) :: insert name value rest

/-- Take the first pair named `name` away and close the gap. -/
def erase (name : κ) : List (κ × α) → List (κ × α)
  | [] => []
  | (other, value) :: rest => if other = name then rest else (other, value) :: erase name rest

/-- Take the first pair named `name` away and move the last pair into the gap. -/
def swapErase (name : κ) : List (κ × α) → List (κ × α)
  | [] => []
  | (other, value) :: rest =>
    if other = name then
      -- The last pair fills the gap; if there is none behind it, the list only becomes shorter.
      match rest.getLast? with
      | none => []
      | some last => last :: rest.dropLast
    else (other, value) :: swapErase name rest

/-- Write the pairs of `added` in turn over `pairs`. -/
def insertAll (added : List (κ × α)) (pairs : List (κ × α)) : List (κ × α) :=
  added.foldl (fun acc pair => insert pair.1 pair.2 acc) pairs

/-- The pairs left when each is written in turn: a repeated name keeps its first place and its
last value. -/
def ofList (pairs : List (κ × α)) : List (κ × α) :=
  insertAll pairs []

/-- No name occurs twice. -/
def Distinct (pairs : List (κ × α)) : Prop :=
  (names pairs).Nodup

/-- Distinctness of the names is decidable. -/
instance (pairs : List (κ × α)) : Decidable (Distinct pairs) :=
  inferInstanceAs (Decidable (names pairs).Nodup)

/-- What was written under a name is read back. -/
theorem get?_insert_self (name : κ) (value : α) (pairs : List (κ × α)) :
    get? name (insert name value pairs) = some value := by
  induction pairs with
  | nil => simp [insert, get?]
  | cons pair rest ih =>
    obtain ⟨other, old⟩ := pair
    by_cases h : other = name <;> simp [insert, get?, h, ih]

/-- Writing under one name leaves every other name as it was. -/
theorem get?_insert_of_ne {name other : κ} (h : other ≠ name) (value : α) (pairs : List (κ × α)) :
    get? other (insert name value pairs) = get? other pairs := by
  induction pairs with
  | nil => simp [insert, get?, Ne.symm h]
  | cons pair rest ih =>
    obtain ⟨found, old⟩ := pair
    by_cases hn : found = name
    · subst hn
      simp [insert, get?, Ne.symm h]
    · simp [insert, get?, hn, ih]

/-- The names after a write: the same ones, or one more at the end. -/
theorem names_insert (name : κ) (value : α) (pairs : List (κ × α)) :
    names (insert name value pairs) =
      if name ∈ names pairs then names pairs else names pairs ++ [name] := by
  induction pairs with
  | nil => simp [insert, names]
  | cons pair rest ih =>
    obtain ⟨other, old⟩ := pair
    by_cases h : other = name
    -- The name stands in front, so the write ends there and the names stay as they were.
    · subst h
      simp [insert, names]
    · simp only [insert, h, if_false, names, List.map_cons, List.mem_cons] at ih ⊢
      rw [ih]
      by_cases hm : name ∈ rest.map Prod.fst <;> simp [hm, Ne.symm h]

/-- Writing keeps the names distinct. -/
theorem Distinct.insert {pairs : List (κ × α)} (h : Distinct pairs) (name : κ) (value : α) :
    Distinct (insert name value pairs) := by
  unfold Distinct at *
  rw [names_insert]
  split
  · exact h
  · rename_i hn
    -- A name that is new is appended once, behind names that all differ from it.
    exact List.nodup_append.mpr ⟨h, by simp, by
      intro a ha b hb hab
      simp only [List.mem_singleton] at hb
      subst hab hb
      exact hn ha⟩

/-- Erasing a name leaves every other name as it was. -/
theorem get?_erase_of_ne {name other : κ} (h : other ≠ name) (pairs : List (κ × α)) :
    get? other (erase name pairs) = get? other pairs := by
  induction pairs with
  | nil => rfl
  | cons pair rest ih =>
    obtain ⟨found, value⟩ := pair
    by_cases hn : found = name
    · subst hn
      simp [erase, get?, Ne.symm h]
    · simp [erase, get?, hn, ih]

/-- A name that is not among the names has no value. -/
theorem get?_eq_none_of_not_mem {name : κ} {pairs : List (κ × α)} (h : name ∉ names pairs) :
    get? name pairs = none := by
  induction pairs with
  | nil => rfl
  | cons pair rest ih =>
    obtain ⟨other, value⟩ := pair
    simp only [names, List.map_cons, List.mem_cons, not_or] at h
    simp [get?, Ne.symm h.1, ih h.2]

/-- The names after an erasure are some of the names before it, in the same order. -/
theorem names_erase_sublist (name : κ) (pairs : List (κ × α)) :
    (names (erase name pairs)).Sublist (names pairs) := by
  induction pairs with
  | nil => exact List.Sublist.refl _
  | cons pair rest ih =>
    obtain ⟨other, value⟩ := pair
    by_cases h : other = name
    · simp only [erase, h, if_true, names, List.map_cons]
      exact List.Sublist.cons _ (List.Sublist.refl _)
    · simp only [erase, h, if_false, names, List.map_cons]
      exact ih.cons_cons _

/-- Erasing keeps the names distinct. -/
theorem Distinct.erase {pairs : List (κ × α)} (h : Distinct pairs) (name : κ) :
    Distinct (erase name pairs) :=
  h.sublist (names_erase_sublist name pairs)

/-- Among distinct names an erased name is gone. -/
theorem get?_erase_self {pairs : List (κ × α)} (h : Distinct pairs) (name : κ) :
    get? name (erase name pairs) = none := by
  induction pairs with
  | nil => rfl
  | cons pair rest ih =>
    obtain ⟨other, value⟩ := pair
    -- The pair in front is the only one of its name.
    have hd : other ∉ names rest ∧ Distinct rest := by
      simpa [Distinct, names] using h
    by_cases hn : other = name
    · subst hn
      simpa [erase] using get?_eq_none_of_not_mem hd.1
    · simpa [erase, get?, hn] using ih hd.2

end KeyedStore.Pairs
