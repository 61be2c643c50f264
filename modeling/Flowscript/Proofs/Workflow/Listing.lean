import Flowscript.Proofs.Dict
import Flowscript.Workflow.Catalog

/-!
# What catalogs list

A catalog has the entry of the workflow and, of the prompts whose names make the same key, that of
the last one. So every prompt is listed exactly if the keys differ, which different names do not
ensure. The main statement is `catalog_lists`.
-/

namespace Flowscript

namespace CatalogEntry

variable {a b : String} {m n : Node}

theorem promptKey_eq_iff : promptKey a = promptKey b ↔ slug a = slug b :=
  String.append_right_inj _

theorem promptKey_ne_workflowKey (a b : String) : promptKey a ≠ workflowKey b := by
  intro h
  have hletters := congrArg String.toList h
  rw [promptKey, workflowKey, String.toList_append, String.toList_append] at hletters
  have hfirst : "urfn_p".toList = "urfn_w".toList := congrArg (List.take 6) hletters
  exact absurd hfirst (by decide)

theorem name_eq_of_ofPrompt_eq (h : ofPrompt m = ofPrompt n) : m.name = n.name := by
  have hdescription : "Prompt template for " ++ m.name = "Prompt template for " ++ n.name :=
    congrArg description h
  exact (String.append_right_inj _).mp hdescription

theorem ofPrompt_ne_ofWorkflow (n : Node) (w : Workflow) : ofPrompt n ≠ ofWorkflow w := by
  intro h
  have hfunction : "execute_prompt" = "execute_workflow" := congrArg function h
  exact absurd hfunction (by decide)

/-- A character of ASCII that a slug keeps. -/
def Plain (c : Char) : Prop :=
  c.toNat < 0x80 ∧ c.isUpper = false ∧ c ≠ ' '

theorem lowerAfter_of_plain {cs : List Char} (h : ∀ c ∈ cs, Plain c) (before : List Char) :
    Text.lowerAfter before cs = cs := by
  induction cs generalizing before with
  | nil => rfl
  | cons c cs ih =>
    obtain ⟨hc, hcs⟩ := List.forall_mem_cons.mp h
    obtain ⟨hascii, hupper, -⟩ := hc
    have hsigma : (c.toNat == 0x3A3) = false := by
      rw [beq_eq_false_iff_ne]
      omega
    have hlower : c.toLower = c := by
      refine dif_neg fun hletter => ?_
      have hcapital : c.isUpper = true := decide_eq_true hletter
      exact Bool.false_ne_true (hupper.symm.trans hcapital)
    rw [Text.lowerAfter, ih hcs]
    simp [hsigma, Text.lowerChar, hascii, hlower]

/-- A plain name is its own slug. -/
theorem slug_of_plain {name : String} (h : ∀ c ∈ name.toList, Plain c) : slug name = name := by
  have hspaces : name.toList.map (fun c => if c = ' ' then '_' else c) = name.toList.map id :=
    List.map_congr_left fun c hc => if_neg (h c hc).2.2
  rw [List.map_id] at hspaces
  rw [slug, Text.toLower, lowerAfter_of_plain h, hspaces, String.ofList_toList]

end CatalogEntry

namespace Workflow

open CatalogEntry

variable {w : Workflow} {n : Node} {before after : List Node}

/-- The catalog has the entry of a prompt node, with its description and templates. -/
def Lists (w : Workflow) (n : Node) : Prop :=
  ∃ key, w.catalog.get? key = some
    { description := "Prompt template for " ++ n.name
      home := "agent_dsl.prompts"
      function := "execute_prompt"
      parameters := .ofList [("system_template", n.param "system" ""),
        ("user_template", n.param "user" ""), ("variables", "\x7b\x7d")] }

theorem findEntry_map_ofPrompt (key : String) (nodes : List Node) :
    Dict.findEntry key (nodes.map fun n => (promptKey n.name, ofPrompt n)) =
      (nodes.find? fun n => promptKey n.name = key).map ofPrompt := by
  induction nodes with
  | nil => rfl
  | cons n nodes ih =>
    rw [List.map_cons, Dict.findEntry, ih, List.find?_cons]
    by_cases h : promptKey n.name = key
    · simp [h]
    · simp [h, Ne.symm h]

/-- Under a key of prompts the catalog has the last prompt of that key. -/
theorem get?_catalog_promptKey (w : Workflow) (name : String) :
    w.catalog.get? (promptKey name) =
      (w.prompts.reverse.find? fun n => slug n.name = slug name).map ofPrompt := by
  rw [catalog, Dict.get?_ofList, List.reverse_concat, Dict.findEntry,
    if_neg (promptKey_ne_workflowKey name w.name), ← List.map_reverse, findEntry_map_ofPrompt]
  simp only [promptKey_eq_iff]

theorem size_eq_length_keys {α : Type} (d : Dict α) : d.size = d.keys.length :=
  (List.length_map _).symm

/-- There is one entry for each of the prompts' keys, and one for the workflow. -/
theorem size_catalog (w : Workflow) :
    w.catalog.size = (w.prompts.map fun n => slug n.name).dedup.length + 1 := by
  have hinjective : Function.Injective ("urfn_prompt_" ++ · : String → String) := fun _ _ h =>
    (String.append_right_inj _).mp h
  have hkeys : (w.prompts.map fun n => (promptKey n.name, ofPrompt n)).map Prod.fst =
      (w.prompts.map fun n => slug n.name).map ("urfn_prompt_" ++ ·) := by
    simp only [List.map_map]
    rfl
  have hother : workflowKey w.name ∉
      (w.prompts.map fun n => (promptKey n.name, ofPrompt n)).map Prod.fst := by
    intro hmem
    obtain ⟨entry, hentry, hkey⟩ := List.mem_map.mp hmem
    obtain ⟨n, -, rfl⟩ := List.mem_map.mp hentry
    exact promptKey_ne_workflowKey n.name w.name hkey
  rw [size_eq_length_keys, catalog, (Dict.perm_keys_ofList _).length_eq, List.map_append,
    List.map_singleton, (List.perm_append_singleton _ _).dedup.length_eq,
    List.dedup_cons_of_notMem hother, hkeys, List.dedup_map_of_injective hinjective,
    List.length_cons, List.length_map]

/-- The entry of a prompt stands under the key of the prompt. -/
theorem eq_promptKey_of_get? {key : String} (h : w.catalog.get? key = some (.ofPrompt n)) :
    key = promptKey n.name := by
  have hmem := Dict.mem_of_mem_ofList (Dict.mem_of_get? h)
  rcases List.mem_append.mp hmem with hmem | hmem
  · obtain ⟨m, -, hentry⟩ := List.mem_map.mp hmem
    obtain ⟨rfl, hprompt⟩ := Prod.mk.inj hentry
    rw [name_eq_of_ofPrompt_eq hprompt]
  · obtain ⟨-, hworkflow⟩ := Prod.mk.inj (List.mem_singleton.mp hmem)
    exact absurd hworkflow (ofPrompt_ne_ofWorkflow n w)

/-- A prompt is listed if no later prompt has its key. -/
theorem lists_iff (hnames : (w.nodes.map Node.name).Nodup) (h : w.prompts = before ++ n :: after) :
    w.Lists n ↔ ∀ m ∈ after, slug m.name ≠ slug n.name := by
  have hsplit : w.prompts.reverse = after.reverse ++ n :: before.reverse := by simp [h]
  constructor
  · rintro ⟨key, hkey⟩ m hm hslug
    rw [eq_promptKey_of_get? hkey, get?_catalog_promptKey, Option.map_eq_some_iff] at hkey
    obtain ⟨last, hlast, hentry⟩ := hkey
    -- Names tell nodes apart, so the last prompt with the key is the prompt itself.
    have hsame {x : Node} (hx : x ∈ w.prompts) (hname : x.name = n.name) : x = n := by
      have hn : n ∈ w.prompts := by simp [h]
      exact List.inj_on_of_nodup_map hnames (List.mem_of_mem_filter hx) (List.mem_of_mem_filter hn)
        hname
    obtain rfl := hsame (List.mem_reverse.mp (List.mem_of_find?_eq_some hlast))
      (name_eq_of_ofPrompt_eq hentry)
    have hnodup : (before ++ last :: after).Nodup := h ▸ (hnames.of_map).filter _
    rw [hsplit, List.find?_append] at hlast
    cases hfound : after.reverse.find? fun m => slug m.name = slug last.name with
    | none =>
      have hother := List.find?_eq_none.mp hfound m (List.mem_reverse.mpr hm)
      exact hother (decide_eq_true hslug)
    | some later =>
      rw [hfound, Option.some_or] at hlast
      obtain rfl := Option.some.inj hlast
      have hlater := List.mem_reverse.mp (List.mem_of_find?_eq_some hfound)
      exact (List.nodup_cons.mp (List.nodup_append.mp hnodup).2.1).1 hlater
  · intro hlater
    have hnone : after.reverse.find? (fun m => slug m.name = slug n.name) = none := by
      simpa using hlater
    refine ⟨promptKey n.name, ?_⟩
    rw [get?_catalog_promptKey, hsplit, List.find?_append, hnone]
    simp only [Option.none_or, List.find?_cons, decide_true, Option.map_some]
    rfl

/-- If their keys differ, all prompts are listed. -/
theorem lists_of_nodup (hnames : (w.nodes.map Node.name).Nodup)
    (hslugs : (w.prompts.map fun n => slug n.name).Nodup) :
    w.catalog.size = w.prompts.length + 1 ∧ ∀ n ∈ w.prompts, w.Lists n := by
  refine ⟨by rw [w.size_catalog, List.dedup_eq_self.mpr hslugs, List.length_map], fun n hn => ?_⟩
  obtain ⟨before, after, h⟩ := List.append_of_mem hn
  refine (lists_iff hnames h).mpr fun m hm hslug => ?_
  rw [h, List.map_append, List.map_cons] at hslugs
  have hother := (List.nodup_cons.mp (List.nodup_append.mp hslugs).2.1).1
  exact hother (List.mem_map.mpr ⟨m, hm, hslug⟩)

/-- So all prompts are listed whose names are their own slugs. -/
theorem lists_of_plain (hnames : (w.nodes.map Node.name).Nodup)
    (hplain : ∀ n ∈ w.prompts, ∀ c ∈ n.name.toList, Plain c) :
    w.catalog.size = w.prompts.length + 1 ∧ ∀ n ∈ w.prompts, w.Lists n := by
  refine lists_of_nodup hnames ?_
  rw [List.map_congr_left fun n hn => slug_of_plain (hplain n hn)]
  exact hnames.sublist (List.filter_sublist.map _)

/-- Of prompts in different nodes, those are listed that no later one displaces, and there are as
many entries for prompts as there are keys. So nothing is lost exactly if the keys differ. -/
theorem catalog_lists (hnames : (w.nodes.map Node.name).Nodup) :
    (∀ before n after, w.prompts = before ++ n :: after →
      (w.Lists n ↔ ∀ m ∈ after, slug m.name ≠ slug n.name)) ∧
    w.catalog.size = (w.prompts.map fun n => slug n.name).dedup.length + 1 ∧
    (w.catalog.size = w.prompts.length + 1 ∧ (∀ n ∈ w.prompts, w.Lists n) ↔
      (w.prompts.map fun n => slug n.name).Nodup) := by
  refine ⟨fun before n after h => lists_iff hnames h, w.size_catalog, ?_, lists_of_nodup hnames⟩
  rintro ⟨hsize, -⟩
  rw [w.size_catalog, Nat.add_right_cancel_iff, ← w.prompts.length_map fun n => slug n.name]
    at hsize
  exact List.dedup_eq_self.mp ((List.dedup_sublist _).eq_of_length hsize)

/-- A workflow of prompts that have names and system templates. -/
def ofPrompts (prompts : List (String × String)) : Workflow :=
  { Workflow.named "W" with
    nodes := prompts.map fun (name, system) =>
      { name, kind := .prompt, params := .ofList [("system", system)] } }

theorem catalog_lists_apart :
    ((ofPrompts [("A", "one"), ("b", "two")]).nodes.map Node.name).Nodup ∧
      (ofPrompts [("A", "one"), ("b", "two")]).catalog.size = 3 ∧
      ∀ n ∈ (ofPrompts [("A", "one"), ("b", "two")]).prompts,
        (ofPrompts [("A", "one"), ("b", "two")]).Lists n := by
  have hnames : ((ofPrompts [("A", "one"), ("b", "two")]).nodes.map Node.name).Nodup := by decide
  exact ⟨hnames, (catalog_lists hnames).2.2.mpr (by decide +kernel)⟩

/-- Of two prompts whose names differ in case only, the first is lost. -/
theorem exists_not_lists_alike :
    ∃ w, read "workflow: W\nA: prompt(system=\"one\")\na: prompt(system=\"two\")" = .ok w ∧
      (w.nodes.map Node.name).Nodup ∧ w.catalog.size ≠ w.prompts.length + 1 ∧
      ∃ n ∈ w.prompts, ¬ w.Lists n := by
  have hnames : ((ofPrompts [("A", "one"), ("a", "two")]).nodes.map Node.name).Nodup := by decide
  refine ⟨ofPrompts [("A", "one"), ("a", "two")], rfl, hnames, by decide +kernel, _,
    List.mem_cons_self, fun hlists => ?_⟩
  have hlater := (lists_iff hnames (rfl : _ = [] ++ _)).mp hlists
  exact hlater _ List.mem_cons_self (by decide +kernel)

end Workflow

end Flowscript
