import Mathlib.Data.List.Dedup
import Mathlib.Data.List.Induction
import Mathlib.Data.List.Pairwise
import Mathlib.Data.String.Basic
import Mathlib.Tactic.SplitIfs
import Flowscript.Dict

/-!
# Dictionaries with ascending keys

Inserting keeps the keys ascending, so a dictionary made of any entries has ascending keys. The
entries of a dictionary whose keys ascend make this dictionary again, in which order they stand
being settled by the keys.
-/

namespace Flowscript.Dict

variable {α : Type} {key : String} {value : α} {entries : List (String × α)} {d : Dict α}

instance (d : Dict α) : Decidable d.Ascending :=
  inferInstanceAs (Decidable (d.keys.Pairwise (· < ·)))

theorem insertEntry_of_lt (h : ∀ entry ∈ entries, entry.1 < key) :
    insertEntry key value entries = entries ++ [(key, value)] := by
  induction entries with
  | nil => rfl
  | cons entry entries ih =>
    obtain ⟨hentry, hentries⟩ := List.forall_mem_cons.mp h
    have hne : key ≠ entry.1 := fun heq => absurd (heq ▸ hentry) (String.lt_irrefl key)
    rw [insertEntry, if_neg (String.lt_asymm hentry), if_neg hne, ih hentries, List.cons_append]

/-- Entries inserted in ascending order, each behind those that are there. -/
theorem foldl_insert_of_ascending (before : List (String × α))
    (h : (before ++ entries).Pairwise fun first later => first.1 < later.1) :
    entries.foldl (fun d entry => d.insert entry.1 entry.2) ⟨before⟩ =
      (⟨before ++ entries⟩ : Dict α) := by
  induction entries generalizing before with
  | nil => simp
  | cons entry entries ih =>
    have hlt : ∀ first ∈ before, first.1 < entry.1 := fun first hfirst =>
      (List.pairwise_append.mp h).2.2 first hfirst entry List.mem_cons_self
    have hnext := ih (before ++ [entry]) (by simpa using h)
    simpa [insert, insertEntry_of_lt hlt] using hnext

theorem ofList_concat (entries : List (String × α)) (key : String) (value : α) :
    ofList (entries ++ [(key, value)]) = (ofList entries).insert key value := by
  simp [ofList]

theorem eq_or_mem_of_mem_insertEntry {entry : String × α}
    (h : entry ∈ insertEntry key value entries) : entry = (key, value) ∨ entry ∈ entries := by
  induction entries with
  | nil => exact .inl (List.mem_singleton.mp h)
  | cons first more ih =>
    rw [insertEntry] at h
    split_ifs at h
    · exact List.mem_cons.mp h
    · exact (List.mem_cons.mp h).imp_right (List.mem_cons_of_mem _)
    · rcases List.mem_cons.mp h with rfl | h
      · exact .inr List.mem_cons_self
      · exact (ih h).imp_right (List.mem_cons_of_mem _)

theorem mem_of_mem_foldl_insert {entry : String × α}
    (h : entry ∈ (entries.foldl (fun d entry => d.insert entry.1 entry.2) d).entries) :
    entry ∈ d.entries ∨ entry ∈ entries := by
  induction entries generalizing d with
  | nil => exact .inl h
  | cons first more ih =>
    rcases ih h with h | h
    · rcases eq_or_mem_of_mem_insertEntry h with rfl | h
      · exact .inr List.mem_cons_self
      · exact .inl h
    · exact .inr (List.mem_cons_of_mem _ h)

/-- The entries of a dictionary are among those that it was made of. -/
theorem mem_of_mem_ofList {entry : String × α} (h : entry ∈ (ofList entries).entries) :
    entry ∈ entries :=
  (mem_of_mem_foldl_insert h).resolve_left List.not_mem_nil

theorem pairwise_insertEntry (h : entries.Pairwise fun first later => first.1 < later.1) :
    (insertEntry key value entries).Pairwise fun first later => first.1 < later.1 := by
  induction entries with
  | nil => exact List.pairwise_singleton _ _
  | cons entry entries ih =>
    obtain ⟨hentry, hentries⟩ := List.pairwise_cons.mp h
    rw [insertEntry]
    split_ifs with hlt heq
    · refine List.pairwise_cons.mpr ⟨List.forall_mem_cons.mpr ⟨hlt, fun later hlater => ?_⟩, h⟩
      exact String.lt_trans hlt (hentry later hlater)
    · exact List.pairwise_cons.mpr ⟨heq ▸ hentry, hentries⟩
    · have hgt : entry.1 < key := ((lt_trichotomy key entry.1).resolve_left hlt).resolve_left heq
      refine List.pairwise_cons.mpr ⟨fun later hlater => ?_, ih hentries⟩
      rcases eq_or_mem_of_mem_insertEntry hlater with rfl | hlater
      · exact hgt
      · exact hentry later hlater

theorem Ascending.insert (h : d.Ascending) (key : String) (value : α) :
    (d.insert key value).Ascending :=
  List.pairwise_map.mpr (pairwise_insertEntry (List.pairwise_map.mp h))

theorem Ascending.foldl_insert (h : d.Ascending) (entries : List (String × α)) :
    (entries.foldl (fun d entry => d.insert entry.1 entry.2) d).Ascending := by
  induction entries generalizing d with
  | nil => exact h
  | cons entry entries ih => exact ih (h.insert entry.1 entry.2)

theorem ascending_empty : (∅ : Dict α).Ascending :=
  .nil

/-- Of whatever entries a dictionary is made, its keys ascend. -/
theorem ascending_ofList (entries : List (String × α)) : (ofList entries).Ascending :=
  ascending_empty.foldl_insert entries

theorem ofList_of_ascending (h : (⟨entries⟩ : Dict α).Ascending) : ofList entries = ⟨entries⟩ :=
  foldl_insert_of_ascending [] (List.pairwise_map.mp h)

/-! ## Entries in any order -/

theorem perm_insertEntry (h : ∀ entry ∈ entries, entry.1 ≠ key) :
    (insertEntry key value entries).Perm ((key, value) :: entries) := by
  induction entries with
  | nil => exact .refl _
  | cons entry entries ih =>
    obtain ⟨hentry, hentries⟩ := List.forall_mem_cons.mp h
    rw [insertEntry]
    split_ifs with hlt heq
    · exact .refl _
    · exact absurd heq.symm hentry
    · exact ((ih hentries).cons entry).trans (.swap _ _ _)

/-- A dictionary that is made of entries with different keys has just these entries. -/
theorem perm_ofList (h : (entries.map Prod.fst).Nodup) : (ofList entries).entries.Perm entries := by
  induction entries using List.reverseRecOn with
  | nil => exact .refl _
  | append_singleton entries entry ih =>
    obtain ⟨key, value⟩ := entry
    rw [List.map_append, List.map_singleton, List.nodup_append] at h
    obtain ⟨hentries, -, hkey⟩ := h
    have hnew : ∀ entry ∈ (ofList entries).entries, entry.1 ≠ key := fun entry hentry =>
      hkey entry.1 (List.mem_map_of_mem (mem_of_mem_ofList hentry)) key List.mem_cons_self
    rw [ofList_concat]
    exact (perm_insertEntry hnew).trans <|
      ((ih hentries).cons _).trans (List.perm_append_singleton _ _).symm

theorem Ascending.nodup_keys (h : d.Ascending) : d.keys.Nodup :=
  List.Pairwise.imp ne_of_lt h

/-- A dictionary with ascending keys is made of its entries, in whatever order they come. -/
theorem ofList_of_perm (h : d.Ascending) (hperm : entries.Perm d.entries) : ofList entries = d := by
  have hnodup : (entries.map Prod.fst).Nodup := (hperm.map Prod.fst).nodup_iff.mpr h.nodup_keys
  have hentries : (ofList entries).entries = d.entries := by
    refine ((perm_ofList hnodup).trans hperm).eq_of_pairwise ?_
      (List.pairwise_map.mp (ascending_ofList entries)) (List.pairwise_map.mp h)
    intro first second _ _ hlt hgt
    exact absurd hgt (String.lt_asymm hlt)
  exact congrArg Dict.mk hentries

/-! ## Erasing -/

/-- Erasing changes what one key holds and nothing else. -/
@[simp] theorem get?_erase (d : Dict α) (key k : String) :
    (d.erase key).get? k = if k = key then none else d.get? k := by
  obtain ⟨entries⟩ := d
  change findEntry k (entries.filter fun entry => entry.1 != key) =
    if k = key then none else findEntry k entries
  induction entries with
  | nil => simp [findEntry]
  | cons entry entries ih =>
    rw [List.filter_cons]
    by_cases hentry : entry.1 = key
    · rw [if_neg (by simp [hentry]), ih, findEntry]
      split_ifs <;> simp_all
    · rw [if_pos (by simp [hentry]), findEntry, findEntry, ih]
      split_ifs <;> simp_all

/-! ## Entries written one after the other -/

/-- A dictionary after some entries have been written to it, each over what its key held. -/
def writeAll (d : Dict α) (entries : List (String × α)) : Dict α :=
  entries.foldl (fun d entry => d.insert entry.1 entry.2) d

@[simp] theorem writeAll_nil (d : Dict α) : d.writeAll [] = d := rfl

@[simp] theorem writeAll_cons (d : Dict α) (entry : String × α) (entries : List (String × α)) :
    d.writeAll (entry :: entries) = (d.insert entry.1 entry.2).writeAll entries := rfl

theorem writeAll_append (d : Dict α) (before after : List (String × α)) :
    d.writeAll (before ++ after) = (d.writeAll before).writeAll after :=
  List.foldl_append

theorem foldl_writeAll {β : Type} (d : Dict α) (items : List β) (part : β → List (String × α)) :
    items.foldl (fun d item => d.writeAll (part item)) d = d.writeAll (items.flatMap part) :=
  List.foldl_flatMap.symm

/-- A key that is not written keeps what it held. -/
theorem get?_writeAll_of_forall_ne (h : ∀ entry ∈ entries, entry.1 ≠ key) :
    (d.writeAll entries).get? key = d.get? key := by
  induction entries generalizing d with
  | nil => rfl
  | cons entry entries ih =>
    obtain ⟨hentry, hentries⟩ := List.forall_mem_cons.mp h
    rw [writeAll_cons, ih hentries, get?_insert, if_neg (Ne.symm hentry)]

/-- A key that is written holds what is written to it last. -/
theorem get?_writeAll_of_last (before : List (String × α)) {after : List (String × α)}
    (h : ∀ entry ∈ after, entry.1 ≠ key) :
    (d.writeAll (before ++ (key, value) :: after)).get? key = some value := by
  rw [writeAll_append, writeAll_cons, get?_writeAll_of_forall_ne h, get?_insert, if_pos rfl]

theorem mem_of_get? (h : d.get? key = some value) : (key, value) ∈ d.entries := by
  obtain ⟨entries⟩ := d
  change findEntry key entries = some value at h
  induction entries with
  | nil => cases h
  | cons entry entries ih =>
    rw [findEntry] at h
    split_ifs at h with hkey
    · obtain rfl := Option.some.inj h
      exact hkey ▸ List.mem_cons_self
    · exact List.mem_cons_of_mem _ (ih h)

theorem mem_keys_iff : key ∈ d.keys ↔ (d.get? key).isSome := by
  obtain ⟨entries⟩ := d
  change key ∈ entries.map (·.1) ↔ (findEntry key entries).isSome
  induction entries with
  | nil => simp [findEntry]
  | cons entry entries ih =>
    rw [List.map_cons, List.mem_cons, findEntry]
    split_ifs with h
    · simp [h]
    · simp [h, ih]

theorem mem_keys_insert {k : String} : k ∈ (d.insert key value).keys ↔ k = key ∨ k ∈ d.keys := by
  rw [mem_keys_iff, mem_keys_iff, get?_insert]
  split_ifs with h
  · simp [h]
  · simp [h]

/-- The keys of a dictionary after writing are those it had and those that were written. -/
theorem mem_keys_writeAll :
    key ∈ (d.writeAll entries).keys ↔ key ∈ d.keys ∨ ∃ entry ∈ entries, entry.1 = key := by
  induction entries generalizing d with
  | nil => simp
  | cons entry entries ih =>
    rw [writeAll_cons, ih, mem_keys_insert, List.exists_mem_cons_iff, @eq_comm _ key]
    tauto

@[simp] theorem keys_empty : (∅ : Dict α).keys = [] := rfl

/-- The keys of a dictionary are those of the entries that it was made of. -/
theorem mem_keys_ofList : key ∈ (ofList entries).keys ↔ ∃ entry ∈ entries, entry.1 = key := by
  refine Iff.trans (mem_keys_writeAll (d := ∅)) ?_
  simp

/-- There is one entry for each of the keys. -/
theorem perm_keys_ofList (entries : List (String × α)) :
    (ofList entries).keys.Perm (entries.map Prod.fst).dedup := by
  refine (List.perm_ext_iff_of_nodup (ascending_ofList entries).nodup_keys
    (List.nodup_dedup _)).mpr fun key => ?_
  rw [mem_keys_ofList, List.mem_dedup, List.mem_map]

/-- A key has what the last entry under it holds. -/
theorem get?_ofList (key : String) (entries : List (String × α)) :
    (ofList entries).get? key = findEntry key entries.reverse := by
  induction entries using List.reverseRecOn with
  | nil => rfl
  | append_singleton entries entry ih =>
    obtain ⟨k, value⟩ := entry
    rw [ofList_concat, get?_insert, List.reverse_concat, findEntry, ih]

end Flowscript.Dict
