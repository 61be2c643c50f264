import Flowscript.Proofs.Text.Cutting
import Flowscript.Proofs.Text.Trimming
import Flowscript.Run.Work

/-!
# Scopes that agree

Templates, conditions and parameters read a scope in two ways: they look up a name, or follow a path
that starts from a variable. So scopes with the same variables in which each name has the same value
mean the same to them. Templates and conditions know some names only, which their characters tell,
so to them it is enough that scopes agree on these names.
-/

namespace Flowscript

/-- Scopes with the same variables in which each name has the same value. -/
structure Scope.Agrees (s t : Scope) : Prop where
  vars : t.vars = s.vars
  lookup (name : String) : t.lookup name = s.lookup name

/-- Scopes in which each name of some characters has the same value. -/
structure Scope.AgreesOn (p : Char → Prop) (s t : Scope) : Prop where
  get? {name : String} (hname : ∀ c ∈ name.toList, p c) : t.vars.get? name = s.vars.get? name
  lookup {name : String} (hname : ∀ c ∈ name.toList, p c) : t.lookup name = s.lookup name

variable {s t : Scope}

theorem Scope.Agrees.agreesOn (h : s.Agrees t) (p : Char → Prop) : s.AgreesOn p t where
  get? _ := by rw [h.vars]
  lookup _ := h.lookup _

namespace Parameter

theorem dereferenced_of_agrees (h : s.Agrees t) (raw : String) :
    dereferenced t raw = dereferenced s raw := by
  unfold dereferenced
  split
  · rw [h.lookup]
  · rfl

theorem member_of_agrees (h : s.Agrees t) (v : Value) : member t v = member s v := by
  cases v with
  | string raw => exact dereferenced_of_agrees h raw
  | null | bool | int | float | list | object => rfl

theorem resolve_of_agrees (h : s.Agrees t) (raw : String) : resolve t raw = resolve s raw := by
  unfold resolve
  rw [dereferenced_of_agrees h, funext (member_of_agrees h)]

end Parameter

namespace Template

/-- Whether a name with a character in it can stand in a placeholder: a point makes a path of it,
and a closing brace ends it. -/
def IsNameChar (c : Char) : Prop :=
  c ≠ '.' ∧ c ≠ '\x7d'

instance : DecidablePred IsNameChar :=
  fun c => inferInstanceAs (Decidable (c ≠ '.' ∧ c ≠ '\x7d'))

theorem lookupPath_of_agreesOn (h : s.AgreesOn IsNameChar t) {path : List Char}
    (hpath : '\x7d' ∉ path) : t.lookupPath path = s.lookupPath path := by
  obtain ⟨first, more, hpieces, hpoint, hfirst⟩ := Text.exists_pieces_eq_cons '.' path
  have hname : ∀ c ∈ (String.ofList first).toList, IsNameChar c := by
    intro c hc
    rw [String.toList_ofList] at hc
    exact ⟨ne_of_mem_of_not_mem hc hpoint, ne_of_mem_of_not_mem (hfirst hc) hpath⟩
  have hget := h.get? hname
  simp only [Scope.lookupPath, hpieces, List.map_cons, Value.walk?, Value.member?, Value.object?,
    Option.bind_some, hget]

theorem value?_of_agreesOn (h : s.AgreesOn IsNameChar t) {e : List Char} (he : '\x7d' ∉ e) :
    value? t e = value? s e := by
  unfold value?
  split
  · exact lookupPath_of_agreesOn h he
  · next hpoint =>
    have hname : ∀ c ∈ (String.ofList e).toList, IsNameChar c := by
      intro c hc
      rw [String.toList_ofList] at hc
      exact ⟨ne_of_mem_of_not_mem hc (by simpa using hpoint), ne_of_mem_of_not_mem hc he⟩
    rw [h.lookup hname]

theorem not_mem_of_placeholder? {cs e after : List Char} (h : placeholder? cs = some (e, after)) :
    '\x7d' ∉ e := by
  unfold placeholder? at h
  split at h
  · cases h
  · cases h
    intro hmem
    simpa using List.mem_takeWhile_imp hmem
  · cases h

theorem render_of_agreesOn (h : s.AgreesOn IsNameChar t) (cs : List Char) :
    render t cs = render s cs := by
  fun_induction render s cs with
  | case1 => rw [render]
  | case2 rest e after hplaceholder ih =>
    have hreplacement : replacement t e = replacement s e := by
      have he : '\x7d' ∉ Text.trim e :=
        fun hmem => not_mem_of_placeholder? hplaceholder (Text.mem_of_mem_trim hmem)
      unfold replacement
      rw [value?_of_agreesOn h he]
    rw [render, ← hreplacement, ← ih]
    split
    · next hother =>
      cases hother.symm.trans hplaceholder
      rfl
    · next hother => cases hother.symm.trans hplaceholder
  | case3 rest hplaceholder ih =>
    rw [render, ← ih]
    split
    · next hother => cases hother.symm.trans hplaceholder
    · rfl
  | case4 c rest hc ih =>
    rw [render, ih]
    exact hc

end Template

namespace Condition

theorem substitute_of_agreesOn (h : s.AgreesOn (isNameChar · = true) t) (cs : List Char) :
    substitute t cs = substitute s cs := by
  fun_induction substitute s cs with
  | case1 => rw [substitute]
  | case2 rest hname ih =>
    rw [substitute, hname]
    exact congrArg _ ih
  | case3 rest hname ih =>
    have hchars : ∀ c ∈ (String.ofList (rest.takeWhile isNameChar)).toList,
        isNameChar c = true := by
      intro c hc
      rw [String.toList_ofList] at hc
      exact List.mem_takeWhile_imp hc
    rw [substitute, ← h.lookup hchars, ← ih]
    split
    · next hempty => exact absurd hempty hname
    · rfl
  | case4 c rest hc ih =>
    rw [substitute, ih]
    exact hc

theorem holds_of_agreesOn (h : s.AgreesOn (isNameChar · = true) t) (cs : List Char) :
    holds t cs = holds s cs := by
  unfold holds
  rw [substitute_of_agreesOn h]

theorem holds_of_agrees (h : s.Agrees t) (cs : List Char) : holds t cs = holds s cs :=
  holds_of_agreesOn (h.agreesOn _) cs

end Condition

namespace Setup

theorem request_of_agrees (h : s.Agrees t) (n : Node) : request t n = request s n := by
  unfold request rendered
  simp only [Template.render_of_agreesOn (h.agreesOn _)]

end Setup

end Flowscript
