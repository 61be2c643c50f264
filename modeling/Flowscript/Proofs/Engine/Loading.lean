import Mathlib.Data.List.Forall2
import Mathlib.Data.List.Induction
import Mathlib.Data.List.Nodup
import Mathlib.Data.List.Pairwise
import Mathlib.Data.String.Basic
import Flowscript.Files.Tree
import Flowscript.Loading

/-!
# Loading the files of a directory

Of what a directory lists, in whatever order, loading takes the files with an extension, in
ascending order of their names, reads each as a workflow and registers it. A file that is no
workflow ends this with its failure, and the workflows of the files before it stay registered. The
main statement is `loadDirectory_listed`.
-/

namespace Flowscript

/-- What a directory lists: names, each with the text of its file, or without one where it is no
file. -/
abbrev Listing : Type := List (String × Option String)

/-- A directory of a host that lists names, in this order and each once, and in which the files with
an extension can be read. -/
structure Host.Lists {m : Type → Type} [Monad m] (host : Host m) (directory extension : String)
    (listing : Listing) : Prop where
  names : host.names? directory = pure (some (listing.map Prod.fst))
  nodup : (listing.map Prod.fst).Nodup
  file {name text : String} (hname : Path.extension? name = some extension)
    (h : (name, some text) ∈ listing) :
    host.kind? (Path.join directory name) = pure (some .file)
  readable {name text : String} (hname : Path.extension? name = some extension)
    (h : (name, some text) ∈ listing) :
    ∃ bytes, host.content? (Path.join directory name) = pure (some bytes) ∧
      String.fromUTF8? bytes = some text
  other {name : String} (hname : Path.extension? name = some extension)
    (h : (name, none) ∈ listing) :
    ∃ kind, host.kind? (Path.join directory name) = pure kind ∧ kind ≠ some .file

/-- The files with an extension, in ascending order of their names. -/
structure Listing.Selects (listing : Listing) (extension : String)
    (files : List (String × String)) : Prop where
  ascending : files.Pairwise fun first later => first.1 < later.1
  mem_iff (name text : String) : (name, text) ∈ files ↔
    (name, some text) ∈ listing ∧ Path.extension? name = some extension

/-- The workflow that a file is read as. -/
def Yields (file : String × String) (w : Workflow) : Prop :=
  Workflow.read file.2 = .ok w

/-- A registry after workflows have been registered in order, each under its name. -/
def Registry.registerEach (r : Registry Workflow) (ws : List Workflow) : Registry Workflow :=
  ws.foldl (fun r w => r.insert w.name w) r

/-- An engine with workflows registered in order, and otherwise as it was. -/
def Engine.registerEach (engine : Engine) (ws : List Workflow) : Engine :=
  { engine with workflows := engine.workflows.registerEach ws }

variable {m : Type → Type} [Monad m] [LawfulMonad m] {host : Host m}
  {directory extension : String} {listing : Listing} {file : String × String}
  {files before : List (String × String)} {ws : List Workflow}

/-! ## Answers that are pure -/

theorem filterAuxM_map_of_pure {α β : Type} {p : β → m Bool} {f : α → β} {q : α → Bool}
    {items : List α} (h : ∀ a ∈ items, p (f a) = pure (q a)) (found : List β) :
    (items.map f).filterAuxM p found = pure (((items.filter q).map f).reverse ++ found) := by
  induction items generalizing found with
  | nil => rfl
  | cons a items ih =>
    obtain ⟨ha, hitems⟩ := List.forall_mem_cons.mp h
    rw [List.map_cons, List.filterAuxM, ha, pure_bind, ih hitems]
    cases hq : q a <;> simp [hq]

theorem filterM_map_of_pure {α β : Type} {p : β → m Bool} {f : α → β} {q : α → Bool}
    {items : List α} (h : ∀ a ∈ items, p (f a) = pure (q a)) :
    (items.map f).filterM p = pure ((items.filter q).map f) := by
  rw [List.filterM, filterAuxM_map_of_pure h, pure_bind, List.append_nil, List.reverse_reverse]

theorem mapM_map_of_pure {α β γ : Type} {g : β → m γ} {f : α → β} {r : α → γ} {items : List α}
    (h : ∀ a ∈ items, g (f a) = pure (r a)) : (items.map f).mapM g = pure (items.map r) := by
  induction items with
  | nil => rfl
  | cons a items ih =>
    obtain ⟨ha, hitems⟩ := List.forall_mem_cons.mp h
    rw [List.map_cons, List.mapM_cons, ha, pure_bind, ih hitems, pure_bind, List.map_cons]

/-! ## The files that are loaded -/

theorem pairwise_mergeSort_key {α : Type} (key : α → String) (items : List α) :
    (items.mergeSort fun a b => key a ≤ key b).Pairwise fun a b => key a ≤ key b := by
  have hsorted : (items.mergeSort fun a b => key a ≤ key b).Pairwise
      fun a b => decide (key a ≤ key b) = true :=
    List.pairwise_mergeSort (by simpa using fun _ _ _ => le_trans)
      (by simpa using fun _ _ => le_total _ _) items
  exact hsorted.imp of_decide_eq_true

/-- The file that an entry of a listing is, if it has the extension. -/
def chosen? (extension : String) (entry : String × Option String) : Option (String × String) :=
  if Path.extension? entry.1 = some extension then entry.2.map (entry.1, ·) else none

theorem chosen?_eq_some_iff {entry : String × Option String} :
    chosen? extension entry = some file ↔
      entry = (file.1, some file.2) ∧ Path.extension? file.1 = some extension := by
  obtain ⟨name, text⟩ := entry
  obtain ⟨name', text'⟩ := file
  cases text <;> grind [chosen?]

namespace Listing

/-- A listing has files with an extension, in ascending order of their names. -/
theorem exists_selects (h : (listing.map Prod.fst).Nodup) (extension : String) :
    ∃ files, listing.Selects extension files := by
  let sorted := listing.mergeSort fun first later => first.1 ≤ later.1
  have hperm : sorted.Perm listing := List.mergeSort_perm _ _
  have hle : sorted.Pairwise fun first later => first.1 ≤ later.1 :=
    pairwise_mergeSort_key Prod.fst listing
  have hne : sorted.Pairwise fun first later => first.1 ≠ later.1 :=
    List.pairwise_map.mp ((hperm.map Prod.fst).nodup_iff.mpr h)
  refine ⟨sorted.filterMap (chosen? extension), ?_, fun name text => ?_⟩
  · refine (hle.and hne).filterMap _ fun first later hlt file hfile file' hfile' => ?_
    obtain ⟨rfl, -⟩ := chosen?_eq_some_iff.mp hfile
    obtain ⟨rfl, -⟩ := chosen?_eq_some_iff.mp hfile'
    exact lt_of_le_of_ne hlt.1 hlt.2
  · simp [List.mem_filterMap, chosen?_eq_some_iff, hperm.mem_iff]

namespace Selects

theorem nodup_names (h : listing.Selects extension files) : (files.map Prod.fst).Nodup :=
  List.pairwise_map.mpr (h.ascending.imp ne_of_lt)

/-- The names with an extension, in order, without those that are no files. -/
theorem filter_mergeSort (h : listing.Selects extension files)
    (hnodup : (listing.map Prod.fst).Nodup) :
    (((listing.map Prod.fst).filter fun name => Path.extension? name = some extension).mergeSort
      fun a b => a ≤ b).filter (· ∈ files.map Prod.fst) = files.map Prod.fst := by
  set names := (listing.map Prod.fst).filter fun name => Path.extension? name = some extension
  have hnames : (names.mergeSort fun a b => a ≤ b).Nodup :=
    (List.mergeSort_perm _ _).nodup_iff.mpr (hnodup.filter _)
  have hmem : ∀ name ∈ files.map Prod.fst, name ∈ names := by
    intro name hname
    obtain ⟨⟨name, text⟩, hfile, rfl⟩ := List.mem_map.mp hname
    obtain ⟨hlisted, hextension⟩ := (h.mem_iff name text).mp hfile
    exact List.mem_filter.mpr ⟨List.mem_map_of_mem hlisted, decide_eq_true hextension⟩
  refine List.Perm.eq_of_pairwise (fun _ _ _ _ => le_antisymm)
    ((pairwise_mergeSort_key id names).filter _) ?_ ?_
  · exact List.pairwise_map.mpr (h.ascending.imp le_of_lt)
  · refine (List.perm_ext_iff_of_nodup (hnames.filter _) h.nodup_names).mpr fun name => ?_
    simpa using hmem name

end Selects

end Listing

namespace Host.Lists

/-- Of the names with an extension, those of files are the names of the files that are selected. -/
theorem isFile_of_mem (h : host.Lists directory extension listing)
    (hfiles : listing.Selects extension files) {name : String}
    (hname : name ∈
      (listing.map Prod.fst).filter fun name => Path.extension? name = some extension) :
    host.isFile (Path.join directory name) = pure (decide (name ∈ files.map Prod.fst)) := by
  obtain ⟨hlisted, hextension⟩ := List.mem_filter.mp hname
  obtain ⟨⟨name, text⟩, hentry, rfl⟩ := List.mem_map.mp hlisted
  have hextension := of_decide_eq_true hextension
  cases text with
  | some text =>
    have hfile := (hfiles.mem_iff name text).mpr ⟨hentry, hextension⟩
    rw [Host.isFile, h.file hextension hentry, pure_bind]
    simp [List.mem_map_of_mem hfile]
  | none =>
    obtain ⟨kind, hkind, hother⟩ := h.other hextension hentry
    have hnone : name ∉ files.map Prod.fst := by
      intro hmem
      obtain ⟨⟨name, text⟩, hfile, rfl⟩ := List.mem_map.mp hmem
      have hsame := List.inj_on_of_nodup_map h.nodup hentry ((hfiles.mem_iff _ _).mp hfile).1 rfl
      cases hsame
    rw [Host.isFile, hkind, pure_bind]
    simp [hother, hnone]

theorem withExtension_eq (h : host.Lists directory extension listing)
    (hfiles : listing.Selects extension files) :
    host.withExtension directory extension (listing.map Prod.fst) =
      pure ((files.map Prod.fst).map (Path.join directory)) := by
  rw [Host.withExtension, filterM_map_of_pure fun name hname =>
    h.isFile_of_mem hfiles ((List.mergeSort_perm _ _).mem_iff.mp hname),
    hfiles.filter_mergeSort h.nodup]

theorem text_eq (h : host.Lists directory extension listing)
    (hfiles : listing.Selects extension files) (hfile : file ∈ files) :
    host.text (Path.join directory file.1) = pure (.ok file.2) := by
  obtain ⟨hlisted, hextension⟩ := (hfiles.mem_iff file.1 file.2).mp hfile
  obtain ⟨bytes, hcontent, htext⟩ := h.readable hextension hlisted
  rw [Host.text, hcontent, pure_bind, Host.decode, htext]

end Host.Lists

/-! ## What is registered -/

/-- A name has the last workflow that was registered under it, or else what it had. -/
theorem Registry.get?_registerEach (r : Registry Workflow) (ws : List Workflow) (name : String) :
    (r.registerEach ws).get? name = (ws.reverse.find? (·.name = name)).or (r.get? name) := by
  induction ws using List.reverseRecOn with
  | nil => rfl
  | append_singleton ws w ih =>
    rw [registerEach, List.foldl_append, List.foldl_cons, List.foldl_nil, ← registerEach,
      get?_insert, ih, List.reverse_concat, List.find?_cons]
    by_cases hname : w.name = name
    · simp [hname]
    · simp [hname, Ne.symm hname]

namespace Engine

theorem registerAll_cons_of_yields {w : Workflow} (h : Yields file w)
    (texts : List (Except Failure String)) (engine : Engine) :
    engine.registerAll (.ok file.2 :: texts) =
      (((engine.register w).registerAll texts).1.map (w.name :: ·),
        ((engine.register w).registerAll texts).2) := by
  have hread : engine.registerText file.2 = (.ok w, engine.register w) := by
    rw [registerText, h]
  rw [registerAll, hread]
  cases hmore : (engine.register w).registerAll texts with
  | mk result later => cases result <;> simp [hmore, Except.map]

/-- The workflows of files are registered in order before anything behind them is looked at. -/
theorem registerAll_append (h : List.Forall₂ Yields before ws)
    (texts : List (Except Failure String)) (engine : Engine) :
    engine.registerAll (before.map (fun file => .ok file.2) ++ texts) =
      (((engine.registerEach ws).registerAll texts).1.map (ws.map Workflow.name ++ ·),
        ((engine.registerEach ws).registerAll texts).2) := by
  induction h generalizing engine with
  | nil =>
    have hstart : engine.registerEach [] = engine := rfl
    rw [List.map_nil, List.nil_append, hstart]
    cases engine.registerAll texts with
    | mk result later => cases result <;> rfl
  | @cons file w before ws hfile hmore ih =>
    have hnext : (engine.register w).registerEach ws = engine.registerEach (w :: ws) := rfl
    rw [List.map_cons, List.cons_append, registerAll_cons_of_yields hfile, ih, hnext]
    cases (engine.registerEach (w :: ws)).registerAll texts with
    | mk result later => cases result <;> rfl

theorem registerAll_of_yields (h : List.Forall₂ Yields files ws) (engine : Engine) :
    engine.registerAll (files.map fun file => .ok file.2) =
      (.ok (ws.map Workflow.name), engine.registerEach ws) := by
  have happend := registerAll_append h [] engine
  rw [List.append_nil] at happend
  simpa [registerAll, Except.map] using happend

/-- The first text that is no workflow ends this. -/
theorem registerAll_of_error {cause : Failure} (h : List.Forall₂ Yields before ws)
    (hfile : Workflow.read file.2 = .error cause) (after : List (String × String))
    (engine : Engine) :
    engine.registerAll ((before ++ file :: after).map fun file => .ok file.2) =
      (.error cause, engine.registerEach ws) := by
  rw [List.map_append, registerAll_append h, List.map_cons, registerAll, registerText, hfile]
  rfl

theorem loadDirectory_eq (h : host.Lists directory extension listing)
    (hfiles : listing.Selects extension files) (engine : Engine) :
    engine.loadDirectory host directory extension =
      pure (engine.registerAll (files.map fun file => .ok file.2)) := by
  have htexts : ((files.map Prod.fst).map (Path.join directory)).mapM host.text =
      pure (files.map fun file => .ok file.2) := by
    rw [List.map_map]
    exact mapM_map_of_pure fun file hfile => h.text_eq hfiles hfile
  rw [loadDirectory, h.names, pure_bind]
  simp only [h.withExtension_eq hfiles, htexts, pure_bind]

/-- Loading a directory registers the workflows of the files with the extension, in ascending order
of the names of the files, up to the first file that is no workflow, whose failure is returned. A
name then has the last workflow that was registered under it. What else is in the directory, and the
order in which it is listed, changes nothing. -/
theorem loadDirectory_listed (h : host.Lists directory extension listing) (engine : Engine) :
    (∃ files, listing.Selects extension files) ∧
    (∀ files ws, listing.Selects extension files → List.Forall₂ Yields files ws →
      engine.loadDirectory host directory extension =
        pure (.ok (ws.map Workflow.name), engine.registerEach ws)) ∧
    (∀ before file after ws cause, listing.Selects extension (before ++ file :: after) →
      List.Forall₂ Yields before ws → Workflow.read file.2 = .error cause →
      engine.loadDirectory host directory extension =
        pure (.error cause, engine.registerEach ws)) ∧
    (∀ ws name, (engine.registerEach ws).workflows.get? name =
      (ws.reverse.find? (·.name = name)).or (engine.workflows.get? name)) ∧
    ∀ (host' : Host m) directory' listing', host'.Lists directory' extension listing' →
      (∀ name text, Path.extension? name = some extension →
        ((name, some text) ∈ listing' ↔ (name, some text) ∈ listing)) →
      engine.loadDirectory host' directory' extension =
        engine.loadDirectory host directory extension := by
  have hselects := Listing.exists_selects h.nodup extension
  refine ⟨hselects, ?_, ?_, ?_, ?_⟩
  · intro files ws hfiles hws
    rw [loadDirectory_eq h hfiles, registerAll_of_yields hws]
  · intro before file after ws cause hfiles hws hfile
    rw [loadDirectory_eq h hfiles, registerAll_of_error hws hfile]
  · intro ws name
    exact Registry.get?_registerEach engine.workflows ws name
  · intro host' directory' listing' h' hsame
    obtain ⟨files, hfiles⟩ := hselects
    have hfiles' : listing'.Selects extension files := by
      refine ⟨hfiles.ascending, fun name text => (hfiles.mem_iff name text).trans ?_⟩
      exact and_congr_left fun hname => (hsame name text hname).symm
    rw [loadDirectory_eq h' hfiles', loadDirectory_eq h hfiles]

/-- Two workflows of one name, a text that is none, a further workflow, and notes. -/
def shelfFiles : List (String × String) :=
  [("a.flow", "workflow: W\na: input()"), ("b.flow", "workflow: W"), ("c.flow", "W"),
    ("d.flow", "workflow: D"), ("notes.txt", "W")]

/-- The files behind a directory that is named like a workflow. -/
def shelfListing : Listing :=
  ("e.flow", none) :: shelfFiles.map fun file => (file.1, some file.2)

/-- A disk with the directory and its files. -/
def shelf : Disk :=
  let files := shelfFiles.map fun file => (file.1, FileTree.file file.2.toUTF8)
  let flows := FileTree.directory (.ofList (("e.flow", .empty) :: files))
  { root := .directory (.ofList [("flows", flows)]), working := [] }

/-- The disk on a host that lists names in an order of its own. -/
def shelfHost (listing : Listing) : Host Id :=
  { shelf.host ⟨[]⟩ ⟨"r"⟩ "" with names? := fun _ => some (listing.map Prod.fst) }

theorem lists_shelf (hperm : listing.Perm shelfListing) :
    (shelfHost listing).Lists "flows" "flow" listing where
  names := rfl
  nodup := (hperm.map Prod.fst).nodup_iff.mpr (by decide)
  file _ h := by
    have hkind : ∀ file ∈ shelfFiles,
        (shelf.find? (Path.join "flows" file.1)).map FileTree.kind = some .file := by decide
    exact hkind (_, _) (by simpa [shelfListing] using hperm.mem_iff.mp h)
  readable _ h := by
    have hcontent : ∀ file ∈ shelfFiles,
        shelf.content? (Path.join "flows" file.1) = some file.2.toUTF8 := by decide
    have hfile := hcontent (_, _) (by simpa [shelfListing] using hperm.mem_iff.mp h)
    exact ⟨_, hfile, dif_pos (String.isValidUTF8 _)⟩
  other _ h := by
    obtain rfl := by simpa [shelfListing] using hperm.mem_iff.mp h
    exact ⟨some .directory, rfl, by decide⟩

theorem selects_shelf : shelfListing.Selects "flow"
    (shelfFiles.filter fun file => Path.extension? file.1 = some "flow") where
  ascending := by decide
  mem_iff name text := by simp [shelfListing]

/-- The third file ends the loading, in whatever order the names are listed: the second workflow of
the name stays registered, and the one behind the failure is not. -/
theorem loadDirectory_listed_shelf :
    let engine := new .standard ⟨∅, ∅, none⟩ none
    let first := (Workflow.named "W").insertNode { name := "a", kind := .input, params := ∅ }
    let cause := Failure.format 1 "workflow must start with 'workflow: <name>'"
    (shelfHost shelfListing).Lists "flows" "flow" shelfListing ∧
      (shelfHost shelfListing.reverse).Lists "flows" "flow" shelfListing.reverse ∧
      engine.loadDirectory (shelfHost shelfListing) "flows" "flow" =
        (.error cause, engine.registerEach [first, .named "W"]) ∧
      engine.loadDirectory (shelfHost shelfListing.reverse) "flows" "flow" =
        engine.loadDirectory (shelfHost shelfListing) "flows" "flow" ∧
      (engine.registerEach [first, .named "W"]).workflows.get? "W" = some (.named "W") ∧
      (engine.registerEach [first, .named "W"]).workflows.get? "D" = none := by
  intro engine first cause
  have hlists := lists_shelf (.refl shelfListing)
  have hreverse := lists_shelf shelfListing.reverse_perm
  obtain ⟨-, -, herror, hget, hsame⟩ := loadDirectory_listed hlists engine
  refine ⟨hlists, hreverse, ?_, ?_, ?_, ?_⟩
  · have hread : List.Forall₂ Yields
        [("a.flow", "workflow: W\na: input()"), ("b.flow", "workflow: W")] [first, .named "W"] :=
      .cons rfl (.cons rfl .nil)
    exact herror _ ("c.flow", "W") [("d.flow", "workflow: D")] _ cause selects_shelf hread rfl
  · exact hsame _ "flows" _ hreverse fun name text _ => shelfListing.reverse_perm.mem_iff
  · rw [hget]
    rfl
  · rw [hget]
    rfl

end Engine

end Flowscript
