import Flowscript.Proofs.Settings.References
import Flowscript.Proofs.Toml.Characters
import Flowscript.Proofs.Toml.Lines

/-!
# Settings that are read back

Settings that were read from some text can be written, and what is written stands for the same
settings. But references are replaced once more when it is read, so that it is read back only as
long as this changes nothing. The main statement is `read_toText`.
-/

namespace Flowscript

/-- Limits that 63 bits hold, as the numbers of a document. -/
structure Limits.Fits (limits : Limits) : Prop where
  maxVisits : limits.maxVisits < 2 ^ 63
  maxVisitsPerNode : limits.maxVisitsPerNode < 2 ^ 63
  timeout : limits.timeout < 2 ^ 63

namespace Settings

variable {s : Settings}

/-! ## Numbers -/

theorem number?_ofNat {n : Nat} (h : n < 2 ^ 63) (default : Nat) :
    number? default (some (.integer (.ofNat n))) = some n := by
  have hvalue : (Int64.ofNat n).toInt = n := Int64.toInt_ofNat_of_lt h
  rw [number?, hvalue, if_pos (Int.natCast_nonneg n), Int.toNat_natCast]

theorem number?_lt {default n : Nat} {item : Option Toml.Item} (hdefault : default < 2 ^ 63)
    (h : number? default item = some n) : n < 2 ^ 63 := by
  unfold number? at h
  split at h
  · cases h
    exact hdefault
  · rename_i i
    split at h
    · cases h
      have := i.toInt_lt
      omega
    · cases h
  · cases h

theorem fits_of_limits? {t : Toml.Table} {limits : Limits} (h : limits? t = some limits) :
    limits.Fits := by
  simp only [limits?] at h
  split at h
  · obtain ⟨maxVisits, hmaxVisits, h⟩ := Option.bind_eq_some_iff.mp h
    obtain ⟨maxVisitsPerNode, hmaxVisitsPerNode, h⟩ := Option.bind_eq_some_iff.mp h
    obtain ⟨timeout, htimeout, h⟩ := Option.bind_eq_some_iff.mp h
    cases h
    exact
      { maxVisits := number?_lt (by decide) hmaxVisits
        maxVisitsPerNode := number?_lt (by decide) hmaxVisitsPerNode
        timeout := number?_lt (by decide) htimeout }
  · cases h

theorem fits_of_ofTable? {t : Toml.Table} (h : ofTable? t = some s) : s.limits.Fits := by
  unfold ofTable? at h
  split at h
  · obtain ⟨limits, hlimits, h⟩ := Option.bind_eq_some_iff.mp h
    obtain ⟨filter, -, h⟩ := Option.bind_eq_some_iff.mp h
    obtain ⟨directory, -, h⟩ := Option.bind_eq_some_iff.mp h
    obtain ⟨extension, -, h⟩ := Option.bind_eq_some_iff.mp h
    cases h
    exact fits_of_limits? hlimits
  · cases h

/-! ## Written settings -/

/-- What the lines of settings stand for. -/
def expressions (s : Settings) : List Toml.Expression :=
  [.header ["engine"],
    .entry ["max_node_visits"] (.integer (.ofNat s.limits.maxVisits)),
    .entry ["max_visits_per_node"] (.integer (.ofNat s.limits.maxVisitsPerNode)),
    .entry ["collaborator_timeout_secs"] (.integer (.ofNat s.limits.timeout)),
    .blank,
    .header ["log"],
    .entry ["filter"] (.string s.filter),
    .blank,
    .header ["workflows"],
    .entry ["dir"] (.string s.directory),
    .entry ["extension"] (.string s.extension)]

open Toml in
theorem expressions?_toText (h : s.limits.Fits) :
    expressions? s.toText.toList = some s.expressions := by
  have hengine : Spells (headerLine "engine") _ := spells_headerLine ⟨rfl, rfl⟩
  have hvisits : Spells (numberLine "max_node_visits" _) _ :=
    spells_numberLine ⟨rfl, rfl⟩ h.maxVisits
  have hperNode : Spells (numberLine "max_visits_per_node" _) _ :=
    spells_numberLine ⟨rfl, rfl⟩ h.maxVisitsPerNode
  have htimeout : Spells (numberLine "collaborator_timeout_secs" _) _ :=
    spells_numberLine ⟨rfl, rfl⟩ h.timeout
  have hlog : Spells (headerLine "log") _ := spells_headerLine ⟨rfl, rfl⟩
  have hfilter : Spells (textLine "filter" _) _ := spells_textLine ⟨rfl, rfl⟩ s.filter
  have hworkflows : Spells (headerLine "workflows") _ := spells_headerLine ⟨rfl, rfl⟩
  have hdirectory : Spells (textLine "dir" _) _ := spells_textLine ⟨rfl, rfl⟩ s.directory
  have hextension : Spells (textLine "extension" _) _ := spells_textLine ⟨rfl, rfl⟩ s.extension
  have hall := hengine.append hvisits |>.append hperNode |>.append htimeout |>.append spells_blank
    |>.append hlog |>.append hfilter |>.append spells_blank |>.append hworkflows
    |>.append hdirectory |>.append hextension
  rw [toText, String.toList_ofList]
  exact hall.expressions?

/-- Written settings stand for themselves. -/
theorem ofTable?_toText (h : s.limits.Fits) : (Toml.read? s.toText).bind ofTable? = some s := by
  have hmark : Toml.skipMark s.toText.toList = s.toText.toList := by
    rw [toText, String.toList_ofList]
    rfl
  rw [Toml.read?, hmark, expressions?_toText h]
  simp [expressions, Toml.Draft.extend, Toml.Draft.empty, Toml.Draft.openAt, Toml.updateAt,
    Toml.openTable, Toml.insertEntry, Toml.insertFree, Dict.contains, ofTable?, section?, fields?,
    limits?, text?, number?_ofNat h.maxVisits, number?_ofNat h.maxVisitsPerNode,
    number?_ofNat h.timeout]

/-! ## Reading -/

theorem read_eq_ok_iff {env : Dict String} {text : String} :
    read env text = .ok s ↔
      (Toml.read? (String.ofList (expand env text.toList))).bind ofTable? = some s := by
  unfold read
  cases (Toml.read? (String.ofList (expand env text.toList))).bind ofTable? <;> simp

theorem fits_of_read {env : Dict String} {text : String} (h : read env text = .ok s) :
    s.limits.Fits := by
  obtain ⟨t, -, ht⟩ := Option.bind_eq_some_iff.mp (read_eq_ok_iff.mp h)
  exact fits_of_ofTable? ht

/-- A text that replacing references makes into written settings is read as those. -/
theorem read_of_expand {env : Dict String} {text : String} (h : s.limits.Fits)
    (hexpand : expand env text.toList = s.toText.toList) : read env text = .ok s := by
  rw [read_eq_ok_iff, hexpand, String.ofList_toList, ofTable?_toText h]

/-- A text with a foreign character, also one from a variable, has no settings. -/
theorem read_eq_error {env : Dict String} {text : String} {c : Char} (hc : Toml.IsForeign c)
    (h : c ∈ expand env text.toList) : read env text = .error (.config "malformed settings") := by
  have hread : Toml.read? (String.ofList (expand env text.toList)) = none := by
    refine Option.eq_none_iff_forall_ne_some.mpr fun t ht => ?_
    refine Toml.not_mem_of_read? hc ht ?_
    rwa [String.toList_ofList]
  rw [read, hread, Option.bind_none]

/-- Settings that were read have numbers that can be written, and what is written is read back in
any environment that leaves it as it is. This is each environment if no text of the settings has a
reference; else a variable can make what is written unreadable. -/
theorem read_toText {env : Dict String} {text : String} (h : read env text = .ok s) :
    s.limits.Fits ∧
      (∀ env', expand env' s.toText.toList = s.toText.toList → read env' s.toText = .ok s) ∧
      (¬ Refers s.filter.toList ∧ ¬ Refers s.directory.toList ∧ ¬ Refers s.extension.toList →
        ∀ env', read env' s.toText = .ok s) ∧
      (∀ env' name value c, name ∈ references s.toText.toList → env'.get? name = some value →
        c ∈ value.toList → Toml.IsForeign c →
        read env' s.toText = .error (.config "malformed settings")) := by
  have hfits := fits_of_read h
  refine ⟨hfits, fun env' => read_of_expand hfits, fun hrefers env' => ?_, ?_⟩
  · rw [← not_or, ← not_or, ← refers_toText_iff] at hrefers
    exact read_of_expand hfits (expand_of_not_refers hrefers env')
  · intro env' name value c hname hvalue hmem hc
    exact read_eq_error hc (mem_expand hname hvalue hmem)

theorem read_toText_escaped :
    let text := "[log]\nfilter = \"\\u0024\x7bA\x7d\\n\"\n"
    let s := { standard with filter := "$\x7bA\x7d\n" }
    read ∅ text = .ok s ∧ s.limits.Fits ∧ read ∅ s.toText = .ok s ∧
      read (.ofList [("A", "\x01")]) s.toText = .error (.config "malformed settings") := by
  intro text s
  have hread : read ∅ text = .ok s := read_eq_ok_iff.mpr (by decide +kernel)
  obtain ⟨hfits, hsame, -, hbroken⟩ := read_toText hread
  have hexpand : expand ∅ s.toText.toList = s.toText.toList := by
    rw [toText, String.toList_ofList]
    decide +kernel
  have hname : "A" ∈ references s.toText.toList := by
    rw [toText, String.toList_ofList]
    decide +kernel
  have hforeign : Toml.IsForeign (Char.ofNat 1) := ⟨rfl, by decide, by decide⟩
  exact ⟨hread, hfits, hsame ∅ hexpand, hbroken _ "A" "\x01" _ hname rfl (by decide) hforeign⟩

/-- A reference that was written as an escape is replaced when the settings are read back. -/
theorem exists_read_toText_ne :
    ∃ env text s, read env text = .ok s ∧ read env s.toText ≠ .ok s := by
  let env : Dict String := .ofList [("A", "debug")]
  let s : Settings := { standard with filter := "$\x7bA\x7d" }
  let t : Settings := { standard with filter := "debug" }
  have hread : read env "[log]\nfilter = \"\\u0024\x7bA\x7d\"\n" = .ok s :=
    read_eq_ok_iff.mpr (by decide +kernel)
  have hexpand : expand env s.toText.toList = t.toText.toList := by
    rw [toText, toText, String.toList_ofList, String.toList_ofList]
    decide +kernel
  have hagain : read env s.toText = .ok t :=
    read_of_expand ⟨by decide, by decide, by decide⟩ hexpand
  have hne : t.filter ≠ s.filter := by decide
  refine ⟨env, _, s, hread, fun hsame => hne ?_⟩
  rw [hagain] at hsame
  exact congrArg Settings.filter (Except.ok.inj hsame)

end Settings

end Flowscript
