/-!
Entries in order of their keys, one for each key. Texts are ordered by code
points.
-/

namespace NamedSql.Keyed

variable {α : Type}

/-- Replaces the entry of a key by what `change` makes of it, or adds one. -/
def update (key : String) (change : Option α → α) :
    List (String × α) → List (String × α)
  | [] => [(key, change none)]
  | (other, value) :: rest =>
      if key = other then (key, change (some value)) :: rest
      else if key < other then (key, change none) :: (other, value) :: rest
      else (other, value) :: update key change rest

def insert (key : String) (value : α) (entries : List (String × α)) :
    List (String × α) :=
  update key (fun _ => value) entries

theorem lookup_update_of_ne {key other : String} (change : Option α → α)
    (entries : List (String × α)) (h : other ≠ key) :
    (update key change entries).lookup other = entries.lookup other := by
  have hne : (other == key) = false := beq_false_of_ne h
  induction entries with
  | nil => simp only [update, List.lookup_cons, hne, List.lookup_nil]
  | cons entry rest ih =>
    obtain ⟨found, value⟩ := entry
    rw [update]
    split
    · rename_i heq
      subst heq
      simp only [List.lookup_cons, hne]
    · split
      · simp only [List.lookup_cons, hne]
      · simp only [List.lookup_cons, ih]

theorem lookup_insert_self (key : String) (value : α)
    (entries : List (String × α)) :
    (insert key value entries).lookup key = some value := by
  have hself : (key == key) = true := beq_self_eq_true key
  induction entries with
  | nil => simp only [insert, update, List.lookup_cons, hself]
  | cons entry rest ih =>
    obtain ⟨found, kept⟩ := entry
    rw [insert, update]
    split
    · simp only [List.lookup_cons, hself]
    · rename_i hne
      split
      · simp only [List.lookup_cons, hself]
      · have hfound : (key == found) = false := beq_false_of_ne hne
        rw [List.lookup_cons, hfound]
        exact ih

/-- Of several entries with one key the last counts. -/
def ofList (entries : List (String × α)) : List (String × α) :=
  entries.foldl (fun kept (key, value) => insert key value kept) []

end NamedSql.Keyed
