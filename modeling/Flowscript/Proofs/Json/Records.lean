import Flowscript.Json.Decode
import Flowscript.Proofs.Dict

/-!
# Decoding what was encoded

A record with distinct names has the fields that it was made of, a list of encoded items is decoded
item by item, and a dictionary with ascending keys is decoded entry by entry. Conversely, a decoded
list has decoded items, and a decoded dictionary has ascending keys.
-/

namespace Flowscript.Json

variable {α β γ : Type} {key : String} {value : Json} {members : List (String × Json)}

theorem withKey_cons (key k : String) (value : Json) (members : List (Option String × Json)) :
    withKey key ((some k, value) :: members) =
      if k = key then value :: withKey key members else withKey key members := by
  unfold withKey
  by_cases h : k = key <;> simp [h]

theorem withKey_eq_nil (h : key ∉ members.map Prod.fst) :
    withKey key (members.map fun (k, value) => (some k, value)) = [] := by
  induction members with
  | nil => rfl
  | cons member more ih =>
    have hne : member.1 ≠ key := fun heq => h (heq ▸ List.mem_cons_self)
    rw [List.map_cons, withKey_cons, if_neg hne, ih fun hmem => h (List.mem_cons_of_mem _ hmem)]

theorem withKey_of_mem (hnames : (members.map Prod.fst).Nodup) (h : (key, value) ∈ members) :
    withKey key (members.map fun (k, value) => (some k, value)) = [value] := by
  induction members with
  | nil => cases h
  | cons member more ih =>
    obtain ⟨hfirst, hmore⟩ := List.nodup_cons.mp hnames
    rw [List.map_cons, withKey_cons]
    rcases List.mem_cons.mp h with rfl | hmem
    · rw [if_pos rfl, withKey_eq_nil hfirst]
    · have hkey : key ∈ more.map Prod.fst := List.mem_map_of_mem hmem
      have hne : member.1 ≠ key := fun heq => hfirst (heq ▸ hkey)
      rw [if_neg hne, ih hmore hmem]

theorem mapM_map_of_forall {f : α → β} {g : β → Option γ} {result : α → γ} {items : List α}
    (h : ∀ a ∈ items, g (f a) = some (result a)) :
    (items.map f).mapM g = some (items.map result) := by
  induction items with
  | nil => rfl
  | cons a more ih =>
    obtain ⟨ha, hmore⟩ := List.forall_mem_cons.mp h
    simp [List.mapM_cons, ha, ih hmore]

/-- The fields of a record with distinct names. -/
theorem fields?_record {names : List String} (hmembers : members.map Prod.fst = names)
    (hnames : names.Nodup) :
    (record members).fields? names = some (members.map fun m => some m.2) := by
  subst hmembers
  have hkeys : (members.map fun (k, value) => (some k, value)).all
      (fun member => member.1.isSome) = true := by
    simp
  rw [record, fields?, if_pos hkeys]
  refine mapM_map_of_forall fun member hmember => ?_
  rw [field?, withKey_of_mem hnames hmember]

theorem list?_array {encode : α → Json} {item? : Json → Option α} {items : List α}
    (h : ∀ a ∈ items, item? (encode a) = some a) :
    list? item? (.array (items.map encode)) = some items := by
  rw [list?, mapM_map_of_forall h, List.map_id']

theorem dict?_record {encode : α → Json} {value? : Json → Option α} {d : Dict α}
    (hascending : d.Ascending) (h : ∀ entry ∈ d.entries, value? (encode entry.2) = some entry.2) :
    dict? value? (record (d.entries.map fun (key, a) => (key, encode a))) = some d := by
  have hentries : (d.entries.map fun entry => (some entry.1, encode entry.2)).mapM
      (member? value?) = some (d.entries.map id) := by
    refine mapM_map_of_forall fun entry hentry => ?_
    rw [member?, h entry hentry]
    rfl
  rw [List.map_id] at hentries
  rw [record, dict?, List.map_map]
  exact (congrArg (Option.map Dict.ofList) hentries).trans
    (congrArg some (Dict.ofList_of_ascending hascending))

theorem forall_mem_of_mapM {P : β → Prop} {g : α → Option β} (hg : ∀ {a b}, g a = some b → P b)
    {items : List α} {results : List β} (h : items.mapM g = some results) :
    ∀ b ∈ results, P b := by
  induction items generalizing results with
  | nil =>
    cases h
    exact List.forall_mem_nil _
  | cons a more ih =>
    simp only [List.mapM_cons, Option.bind_eq_bind, Option.bind_eq_some_iff] at h
    obtain ⟨b, hb, rest, hrest, hresults⟩ := h
    obtain rfl := Option.some.inj hresults
    exact List.forall_mem_cons.mpr ⟨hg hb, ih hrest⟩

theorem forall_mem_of_list? {P : α → Prop} {item? : Json → Option α}
    (hitem : ∀ {j a}, item? j = some a → P a) {j : Json} {items : List α}
    (h : list? item? j = some items) : ∀ a ∈ items, P a := by
  cases j with
  | array trees => exact forall_mem_of_mapM hitem h
  | null | bool | number | string | object => cases h

theorem ascending_of_dict? {value? : Json → Option α} {j : Json} {d : Dict α}
    (h : dict? value? j = some d) : d.Ascending := by
  cases j with
  | object members =>
    obtain ⟨entries, -, rfl⟩ := Option.map_eq_some_iff.mp h
    exact Dict.ascending_ofList entries
  | null | bool | number | string | array => cases h

/-- What holds of a default and of what is read holds of a field that may be missing. -/
theorem of_orDefault? {P : α → Prop} {default : α} {value? : Json → Option α} (hdefault : P default)
    (hvalue : ∀ {j a}, value? j = some a → P a) {field : Option Json} {a : α}
    (h : orDefault? default value? field = some a) : P a := by
  cases field with
  | none =>
    cases h
    exact hdefault
  | some j => exact hvalue h

end Flowscript.Json
