import Mathlib.Data.String.Basic
import NamedSql.Keyed

/-!
Entries of distinct keys are found by them. Keys that ascend are distinct, and
they stay so when the entry of a key is changed or added: the key is then found
with what the change has made of it. Changes of different keys may come in
either order.
-/

namespace NamedSql.Keyed

variable {α : Type} {key : String} {entries : List (String × α)}

theorem lookup_of_notMem (h : key ∉ entries.map Prod.fst) :
    entries.lookup key = none := by
  rw [List.lookup_eq_none_iff]
  intro entry hentry
  have hkey : entry.1 ∈ entries.map Prod.fst := List.mem_map_of_mem hentry
  exact bne_iff_ne.mpr fun heq => h (heq ▸ hkey)

/-- Among distinct keys, an entry is found by its key. -/
theorem lookup_of_mem {value : α} (hkeys : (entries.map Prod.fst).Nodup)
    (h : (key, value) ∈ entries) : entries.lookup key = some value := by
  obtain ⟨before, after, rfl⟩ := List.append_of_mem h
  refine List.lookup_eq_some_iff.mpr ⟨before, after, rfl, ?_⟩
  intro earlier hearlier
  rw [List.map_append, List.map_cons, List.nodup_append] at hkeys
  have hne :=
    hkeys.2.2 earlier.1 (List.mem_map_of_mem hearlier) key List.mem_cons_self
  exact bne_iff_ne.mpr hne.symm

/-- The keys ascend, so that none occurs twice. -/
def Ascending (entries : List (String × α)) : Prop :=
  entries.Pairwise fun earlier later => earlier.1 < later.1

theorem lookup_eq_none_of_lt (h : ∀ entry ∈ entries, key < entry.1) :
    entries.lookup key = none := by
  rw [List.lookup_eq_none_iff]
  intro entry hentry
  exact bne_iff_ne.mpr (h entry hentry).ne

theorem lt_of_mem_update {bound : String} (change : Option α → α)
    (hkey : bound < key) (h : ∀ entry ∈ entries, bound < entry.1) :
    ∀ entry ∈ update key change entries,
      bound < entry.1 := by
  induction entries with
  | nil => simpa [update] using hkey
  | cons first rest ih =>
      obtain ⟨hfirst, hrest⟩ := List.forall_mem_cons.mp h
      rw [update]
      split
      · exact List.forall_mem_cons.mpr ⟨hkey, hrest⟩
      · split
        · exact List.forall_mem_cons.mpr ⟨hkey, h⟩
        · exact List.forall_mem_cons.mpr ⟨hfirst, ih hrest⟩

theorem Ascending.update (h : Ascending entries) (key : String)
    (change : Option α → α) : Ascending (Keyed.update key change entries) := by
  induction entries with
  | nil => exact List.pairwise_singleton ..
  | cons first rest ih =>
      obtain ⟨hfirst, hrest⟩ := List.pairwise_cons.mp h
      rw [Keyed.update]
      split
      · next hsame =>
          subst hsame
          exact List.pairwise_cons.mpr ⟨hfirst, hrest⟩
      · next hother =>
          split
          · next hbefore =>
              refine List.pairwise_cons.mpr ⟨?_, h⟩
              exact List.forall_mem_cons.mpr ⟨hbefore, fun entry hentry =>
                hbefore.trans (hfirst entry hentry)⟩
          · next hbehind =>
              have hlater : first.1 < key :=
                lt_of_le_of_ne (not_lt.mp hbehind) (Ne.symm hother)
              exact List.pairwise_cons.mpr
                ⟨lt_of_mem_update change hlater hfirst, ih hrest⟩

/-- The search for the place of a key stops at a greater one, so the keys have
to ascend for the entry of the key to be found. -/
theorem Ascending.lookup_update_self (h : Ascending entries) (key : String)
    (change : Option α → α) :
    (Keyed.update key change entries).lookup key =
      some (change (entries.lookup key)) := by
  have hself : (key == key) = true := beq_self_eq_true key
  induction entries with
  | nil => simp only [Keyed.update, List.lookup_cons, hself, List.lookup_nil]
  | cons first rest ih =>
      obtain ⟨hfirst, hrest⟩ := List.pairwise_cons.mp h
      obtain ⟨found, value⟩ := first
      rw [Keyed.update]
      split
      · next hsame =>
          subst hsame
          simp only [List.lookup_cons, hself]
      · next hother =>
          have hfound : (key == found) = false := beq_false_of_ne hother
          split
          · next hbefore =>
              have hnone : ((found, value) :: rest).lookup key = none :=
                lookup_eq_none_of_lt
                    (List.forall_mem_cons.mpr ⟨hbefore, fun entry hentry =>
                  hbefore.trans (hfirst entry hentry)⟩)
              rw [List.lookup_cons, hself, hnone]
          · rw [List.lookup_cons, hfound, List.lookup_cons, hfound]
            exact ih hrest

section

variable {found : String} {value : α} {rest : List (String × α)}
  (change : Option α → α)

theorem update_cons_self :
    update key change ((key, value) :: rest) =
      (key, change (some value)) :: rest := by
  rw [update, if_pos rfl]

theorem update_cons_of_lt (h : key < found) :
    update key change ((found, value) :: rest) =
      (key, change none) :: (found, value) :: rest := by
  rw [update, if_neg h.ne, if_pos h]

theorem update_cons_of_gt (h : found < key) :
    update key change ((found, value) :: rest) =
      (found, value) :: update key change rest := by
  rw [update, if_neg h.ne', if_neg h.asymm]

theorem length_update_le (entries : List (String × α)) :
    (update key change entries).length ≤ entries.length + 1 := by
  induction entries with
  | nil => exact Nat.le_refl 1
  | cons first rest ih =>
      obtain ⟨found, value⟩ := first
      rcases lt_trichotomy key found with hlt | rfl | hgt
      · rw [update_cons_of_lt change hlt]
        exact Nat.le_refl _
      · rw [update_cons_self]
        exact Nat.le_succ _
      · rw [update_cons_of_gt change hgt]
        exact Nat.succ_le_succ ih

end

/-- A smaller key finds its place before a greater one, so neither change is in
the way of the other. -/
theorem update_comm_of_lt {first second : String} (h : first < second)
    (change other : Option α → α) (entries : List (String × α)) :
    update first change (update second other entries) =
      update second other (update first change entries) := by
  induction entries with
  | nil =>
      have hfirst : update first change [] = [(first, change none)] := rfl
      have hsecond : update second other [] = [(second, other none)] := rfl
      rw [hfirst, hsecond, update_cons_of_lt _ h, update_cons_of_gt _ h,
        hsecond]
  | cons entry rest ih =>
      obtain ⟨found, value⟩ := entry
      rcases lt_trichotomy first found with hbefore | rfl | hbehind
      · rw [update_cons_of_lt _ hbefore, update_cons_of_gt _ h]
        rcases lt_trichotomy second found with hlt | rfl | hgt
        · rw [update_cons_of_lt _ hlt, update_cons_of_lt _ h]
        · rw [update_cons_self, update_cons_of_lt _ h]
        · rw [update_cons_of_gt _ hgt, update_cons_of_lt _ hbefore]
      · rw [update_cons_self, update_cons_of_gt _ h, update_cons_of_gt _ h,
          update_cons_self]
      · have hlater := hbehind.trans h
        rw [update_cons_of_gt _ hbehind, update_cons_of_gt _ hlater,
          update_cons_of_gt _ hlater, update_cons_of_gt _ hbehind, ih]

theorem insert_comm {first second : String} (h : first ≠ second) (a b : α)
    (entries : List (String × α)) :
    insert first a (insert second b entries) =
      insert second b (insert first a entries) := by
  rcases lt_or_gt_of_ne h with hlt | hgt
  · exact update_comm_of_lt hlt _ _ entries
  · exact (update_comm_of_lt hgt _ _ entries).symm

end NamedSql.Keyed
