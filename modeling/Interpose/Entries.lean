/-! # Ordered entries

A list of pairs in which each key stands once. A later value for a key takes the place of the
earlier one; new keys come last.
-/
namespace Interpose.Entries

set_option autoImplicit false

variable {Key Item : Type} [DecidableEq Key]

def insert (key : Key) (item : Item) : List (Key × Item) → List (Key × Item)
  | [] => [(key, item)]
  | entry :: rest =>
    if entry.1 = key then (key, item) :: rest else entry :: insert key item rest

def insertIfNew (key : Key) (item : Item) (entries : List (Key × Item)) : List (Key × Item) :=
  if (entries.lookup key).isSome then entries else entries ++ [(key, item)]

def erase (key : Key) (entries : List (Key × Item)) : List (Key × Item) :=
  entries.filter fun entry => entry.1 ≠ key

/-- The entries of a list of pairs that may repeat keys. -/
def ofList (pairs : List (Key × Item)) : List (Key × Item) :=
  pairs.foldl (fun entries pair => insert pair.1 pair.2 entries) []

section Lookup

variable [BEq Key] [LawfulBEq Key]

theorem lookup_insert_self (key : Key) (item : Item) (entries : List (Key × Item)) :
    (insert key item entries).lookup key = some item := by
  induction entries with
  | nil => simp [insert]
  | cons entry rest ih =>
    obtain ⟨first, _⟩ := entry
    by_cases h : first = key
    · simp [insert, h]
    · have : (key == first) = false := by simp [Ne.symm h]
      simp [insert, h, List.lookup_cons, this, ih]

theorem lookup_insert_of_ne {key other : Key} (h : other ≠ key) (item : Item)
    (entries : List (Key × Item)) :
    (insert key item entries).lookup other = entries.lookup other := by
  induction entries with
  | nil =>
    have : (other == key) = false := by simp [h]
    simp [insert, List.lookup_cons, this]
  | cons entry rest ih =>
    obtain ⟨first, _⟩ := entry
    by_cases hKey : first = key
    · have : (other == key) = false := by simp [h]
      simp [insert, List.lookup_cons, hKey, this]
    · simp [insert, hKey, List.lookup_cons, ih]

theorem erase_eq_self {key : Key} {entries : List (Key × Item)}
    (h : entries.lookup key = none) : erase key entries = entries := by
  apply List.filter_eq_self.mpr
  intro entry hEntry
  have hOther : key ≠ entry.1 := bne_iff_ne.mp (List.lookup_eq_none_iff.mp h entry hEntry)
  exact decide_eq_true hOther.symm

theorem lookup_erase_self (key : Key) (entries : List (Key × Item)) :
    (erase key entries).lookup key = none := by
  rw [List.lookup_eq_none_iff]
  intro entry hEntry
  have hOther := (List.mem_filter.mp hEntry).2
  rw [bne_iff_ne]
  exact Ne.symm (of_decide_eq_true hOther)

theorem lookup_erase_of_ne {key other : Key} (h : other ≠ key) (entries : List (Key × Item)) :
    (erase key entries).lookup other = entries.lookup other := by
  induction entries with
  | nil => rfl
  | cons entry rest ih =>
    obtain ⟨first, item⟩ := entry
    rw [erase] at ih ⊢
    by_cases hKey : first = key
    · have hOther : (other == first) = false := by simp [hKey, h]
      rw [List.filter_cons_of_neg (by simp [hKey]), ih, List.lookup_cons, hOther]
    · rw [List.filter_cons_of_pos (by simp [hKey]), List.lookup_cons, List.lookup_cons, ih]

end Lookup

theorem lookup_insertIfNew_self (key : Key) (item : Item) (entries : List (Key × Item)) :
    (insertIfNew key item entries).lookup key = some ((entries.lookup key).getD item) := by
  rw [insertIfNew]
  split
  next h =>
    obtain ⟨found, hFound⟩ := Option.isSome_iff_exists.mp h
    rw [hFound, Option.getD_some]
  next h => simp [List.lookup_append, Option.not_isSome_iff_eq_none.mp h]

theorem lookup_insertIfNew_of_ne {key other : Key} (h : other ≠ key) (item : Item)
    (entries : List (Key × Item)) :
    (insertIfNew key item entries).lookup other = entries.lookup other := by
  have hOther : (other == key) = false := by simp [h]
  rw [insertIfNew]
  split
  · rfl
  · simp [List.lookup_append, List.lookup_cons, hOther]

theorem erase_insert (key : Key) (item : Item) (entries : List (Key × Item)) :
    erase key (insert key item entries) = erase key entries := by
  induction entries with
  | nil => simp [insert, erase]
  | cons entry rest ih =>
    simp only [erase] at ih ⊢
    by_cases h : entry.1 = key
    · simp [insert, h]
    · rw [insert, if_neg h, List.filter_cons, ih, List.filter_cons]

theorem insert_insert (key : Key) (first item : Item) (entries : List (Key × Item)) :
    insert key item (insert key first entries) = insert key item entries := by
  induction entries with
  | nil => simp [insert]
  | cons entry rest ih =>
    by_cases h : entry.1 = key
    · simp [insert, h]
    · rw [insert, if_neg h, insert, if_neg h, ih, insert, if_neg h]

end Interpose.Entries
