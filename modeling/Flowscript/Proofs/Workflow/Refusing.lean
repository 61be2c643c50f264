import Flowscript.Proofs.Text.Cutting
import Flowscript.Proofs.Workflow.Reading

/-!
# The first bad line

A text is read from its first line on, and the first line that cannot be read refuses it. So the
error points at that line, by its number among all lines, blank ones and comments included; the
lines before it can be read by themselves, and it does not matter which lines follow. The main
statement is `pointsAt_of_read_error`.
-/

namespace Flowscript

/-- The line that a failure of reading points at. -/
def Failure.line? : Failure → Option Nat
  | .format line _ | .unknownNodeKind line _ | .invalidConnection line _ => some line
  | _ => none

@[simp] theorem LineFault.line?_failure (fault : LineFault) (line : Nat) :
    (fault.failure line).line? = some line := by
  cases fault <;> rfl

/-! ## Numbered lines -/

/-- The lines that mean something, without the blanks around them and numbered from `start` on. -/
def significantFrom (start : Nat) (lines : List (List Char)) : List (Nat × List Char) :=
  (((lines.map Text.trim).zipIdx start).filter fun (line, _) => isSignificant line).map
    fun (line, n) => (n, line)

section

variable {start n : Nat} {line text : List Char} {lines more : List (List Char)}
  {front back : List (Nat × List Char)}

theorem significantLines_eq (cs : List Char) :
    significantLines cs = significantFrom 1 (Text.pieces '\n' cs) := rfl

@[simp] theorem significantFrom_nil (start : Nat) : significantFrom start [] = [] := rfl

theorem significantFrom_cons (start : Nat) (line : List Char) (lines : List (List Char)) :
    significantFrom start (line :: lines) =
      if isSignificant (Text.trim line) then
        (start, Text.trim line) :: significantFrom (start + 1) lines
      else significantFrom (start + 1) lines := by
  cases h : isSignificant (Text.trim line) <;> simp [significantFrom, h]

theorem significantFrom_eq_nil_iff :
    significantFrom start lines = [] ↔ ∀ line ∈ lines, isSignificant (Text.trim line) = false := by
  induction lines generalizing start with
  | nil => simp
  | cons line lines ih =>
    rw [significantFrom_cons, List.forall_mem_cons]
    cases isSignificant (Text.trim line) <;> simp [ih]

theorem significantFrom_append (start : Nat) (lines more : List (List Char)) :
    significantFrom start (lines ++ more) =
      significantFrom start lines ++ significantFrom (start + lines.length) more := by
  induction lines generalizing start with
  | nil => simp
  | cons line lines ih =>
    have hnext : start + 1 + lines.length = start + (lines.length + 1) := by omega
    rw [List.cons_append, significantFrom_cons, significantFrom_cons, ih, List.length_cons, hnext]
    split <;> rfl

/-- A numbered line stands behind as many lines as its number tells. -/
theorem exists_of_significantFrom_eq
    (h : significantFrom start lines = front ++ (n, text) :: back) :
    ∃ before line after, lines = before ++ line :: after ∧ significantFrom start before = front ∧
      n = start + before.length ∧ text = Text.trim line ∧ isSignificant text = true := by
  induction lines generalizing start front with
  | nil => simp at h
  | cons first lines ih =>
    rw [significantFrom_cons] at h
    split at h
    · next hfirst =>
      cases front with
      | nil =>
        cases h
        exact ⟨[], first, lines, rfl, rfl, rfl, rfl, hfirst⟩
      | cons numbered front =>
        obtain ⟨rfl, hmore⟩ := List.cons.inj h
        obtain ⟨before, line, after, rfl, rfl, rfl, htext⟩ := ih hmore
        refine ⟨first :: before, line, after, rfl, ?_, ?_, htext⟩
        · rw [significantFrom_cons, if_pos hfirst]
        · grind
    · next hfirst =>
      obtain ⟨before, line, after, rfl, rfl, rfl, htext⟩ := ih h
      refine ⟨first :: before, line, after, rfl, ?_, ?_, htext⟩
      · rw [significantFrom_cons, if_neg hfirst]
      · grind

end

namespace Workflow

/-! ## Refused lines -/

section

variable {w : Workflow} {e : Failure} {lines : List (Nat × List Char)}

/-- Statements are read up to the first line that states nothing. -/
theorem exists_of_foldlM_extendByLine_eq_error (h : lines.foldlM extendByLine w = .error e) :
    ∃ front n line back w' fault, lines = front ++ (n, line) :: back ∧
      front.foldlM extendByLine w = .ok w' ∧ Statement.read line = .error fault ∧
        e = fault.failure n := by
  induction lines generalizing w with
  | nil => cases h
  | cons numbered lines ih =>
    obtain ⟨n, line⟩ := numbered
    rw [List.foldlM_cons, extendByLine] at h
    cases hline : Statement.read line with
    | error fault =>
      rw [hline] at h
      exact ⟨[], n, line, lines, w, fault, rfl, rfl, hline, (Except.error.inj h).symm⟩
    | ok statement =>
      rw [hline] at h
      obtain ⟨front, n', line', back, w', fault, rfl, hfront, hfault⟩ := ih h
      refine ⟨(n, line) :: front, n', line', back, w', fault, rfl, ?_, hfault⟩
      rw [List.foldlM_cons, extendByLine, hline]
      exact hfront

/-- A line that states nothing refuses the text, whatever follows. -/
theorem foldlM_extendByLine_of_error {front : List (Nat × List Char)} {n : Nat} {line : List Char}
    {w' : Workflow} {fault : LineFault} (hfront : front.foldlM extendByLine w = .ok w')
    (hline : Statement.read line = .error fault) (others : List (Nat × List Char)) :
    (front ++ (n, line) :: others).foldlM extendByLine w = .error (fault.failure n) := by
  rw [List.foldlM_append, hfront]
  simp [bind, Except.bind, extendByLine, hline]

/-- A line that states nothing refuses lines that make a workflow up to it. -/
theorem ofLines_of_error {before : List (Nat × List Char)} {n : Nat} {line : List Char}
    {fault : LineFault} (hbefore : ofLines before = .ok w)
    (hline : Statement.read line = .error fault) (others : List (Nat × List Char)) :
    ofLines (before ++ (n, line) :: others) = .error (fault.failure n) := by
  cases before with
  | nil => cases hbefore
  | cons numbered front =>
    rw [ofLines] at hbefore
    rw [List.cons_append, ofLines]
    cases hname : headerName numbered.2 with
    | error =>
      rw [hname] at hbefore
      cases hbefore
    | ok name =>
      rw [hname] at hbefore
      exact foldlM_extendByLine_of_error hbefore hline others

/-- Numbered lines that make no workflow: there are none, or a first one of them cannot be read,
which does not depend on those behind it. -/
theorem exists_of_ofLines_eq_error (h : ofLines lines = .error e) :
    (lines = [] ∧ ∃ message, e = .format 1 message) ∨
      ∃ front n line back, lines = front ++ (n, line) :: back ∧ e.line? = some n ∧
        (front = [] ∨ ∃ w, ofLines front = .ok w) ∧
          ∀ others, ofLines (front ++ (n, line) :: others) = .error e := by
  cases lines with
  | nil =>
    cases h
    exact .inl ⟨rfl, _, rfl⟩
  | cons numbered lines =>
    obtain ⟨n, header⟩ := numbered
    right
    rw [ofLines] at h
    cases hname : headerName header with
    | error fault =>
      rw [hname] at h
      cases h
      refine ⟨[], n, header, lines, rfl, fault.line?_failure n, .inl rfl, fun others => ?_⟩
      rw [List.nil_append, ofLines, hname]
    | ok name =>
      rw [hname] at h
      obtain ⟨front, n', line, back, w, fault, rfl, hfront, hline, rfl⟩ :=
        exists_of_foldlM_extendByLine_eq_error h
      have hbefore : ofLines ((n, header) :: front) = .ok w := by
        rw [ofLines, hname]
        exact hfront
      exact ⟨(n, header) :: front, n', line, back, rfl, fault.line?_failure n', .inr ⟨w, hbefore⟩,
        ofLines_of_error hbefore hline⟩

end

/-! ## Texts of several lines -/

variable {lines : List String} {e : Failure}

/-- The lines of a text that was joined from lines. -/
theorem significantLines_intercalate (h : ∀ line ∈ lines, '\n' ∉ line.toList) :
    significantLines ("\n".intercalate lines).toList =
      significantFrom 1 (lines.map String.toList) := by
  rw [significantLines_eq, String.toList_intercalate]
  cases lines with
  | nil => rfl
  | cons first more =>
    have hlines : ∀ cs ∈ (first :: more).map String.toList, '\n' ∉ cs := by
      intro cs hcs
      obtain ⟨line, hline, rfl⟩ := List.mem_map.mp hcs
      exact h line hline
    rw [List.map_cons] at hlines ⊢
    exact congrArg (significantFrom 1) (Text.pieces_intercalate hlines)

theorem read_intercalate (h : ∀ line ∈ lines, '\n' ∉ line.toList) :
    read ("\n".intercalate lines) = ofLines (significantFrom 1 (lines.map String.toList)) := by
  rw [read, significantLines_intercalate h]

/-- A line that means something, not being blank or a comment. -/
def Means (line : String) : Prop :=
  isSignificant (Text.trim line.toList) = true

/-- Whether an error points at a line behind others as the first bad one: the line means something,
the error has its number, counted from one, the lines before it are accepted if any of them means
something, and with any lines behind it the error is the same. -/
structure PointsAt (e : Failure) (before : List String) (line : String) : Prop where
  line? : e.line? = some (before.length + 1)
  means : Means line
  earlier : (∃ w, read ("\n".intercalate before) = .ok w) ∨ ∀ earlier ∈ before, ¬ Means earlier
  others {others : List String} (hothers : ∀ other ∈ others, '\n' ∉ other.toList) :
    read ("\n".intercalate (before ++ line :: others)) = .error e

/-- An error of reading points at the first bad line, unless no line means anything. -/
theorem pointsAt_of_read_error (hlines : ∀ line ∈ lines, '\n' ∉ line.toList)
    (h : read ("\n".intercalate lines) = .error e) :
    ((∀ line ∈ lines, ¬ Means line) ∧ ∃ message, e = .format 1 message) ∨
      ∃ before line after, lines = before ++ line :: after ∧ PointsAt e before line := by
  rw [read_intercalate hlines] at h
  have hmeans {start : Nat} {some : List String} :
      significantFrom start (some.map String.toList) = [] ↔ ∀ line ∈ some, ¬ Means line := by
    rw [significantFrom_eq_nil_iff, List.forall_mem_map]
    simp [Means]
  obtain ⟨hnil, he⟩ | ⟨front, n, text, back, hnumbered, hline, hfront, hothers⟩ :=
    exists_of_ofLines_eq_error h
  · exact .inl ⟨hmeans.mp hnil, he⟩
  · right
    obtain ⟨_, _, _, hsplit, rfl, rfl, rfl, hsignificant⟩ := exists_of_significantFrom_eq hnumbered
    obtain ⟨before, rest, rfl, rfl, hrest⟩ := List.map_eq_append_iff.mp hsplit
    obtain ⟨line, after, rfl, rfl, rfl⟩ := List.map_eq_cons_iff.mp hrest
    obtain ⟨hbefore, hbehind⟩ := List.forall_mem_append.mp hlines
    refine ⟨before, line, after, rfl, ?_, hsignificant, ?_, ?_⟩
    · rw [hline, List.length_map, Nat.add_comm]
    · rw [read_intercalate hbefore]
      exact hfront.symm.imp_right hmeans.mp
    · intro others hothers'
      have hall : ∀ other ∈ before ++ line :: others, '\n' ∉ other.toList :=
        List.forall_mem_append.mpr ⟨hbefore,
          List.forall_mem_cons.mpr ⟨(List.forall_mem_cons.mp hbehind).1, hothers'⟩⟩
      rw [read_intercalate hall, List.map_append, List.map_cons, significantFrom_append,
        significantFrom_cons, if_pos hsignificant]
      exact hothers _

/-- A text with a comment, a blank line and two bad lines. -/
def botched : List String :=
  ["# moved to mars", "workflow: W", "", "x: teleport(to=mars)", "y -->"]

theorem pointsAt_of_read_error_botched :
    (∀ line ∈ botched, '\n' ∉ line.toList) ∧
    read ("\n".intercalate botched) = .error (.unknownNodeKind 4 "teleport") ∧
    ∃ before line, PointsAt (.unknownNodeKind 4 "teleport") before line ∧
      before.length = 3 ∧ ∃ after, botched = before ++ line :: after := by
  have hlines : ∀ line ∈ botched, '\n' ∉ line.toList := by decide
  have hread : read ("\n".intercalate botched) = .error (.unknownNodeKind 4 "teleport") := rfl
  refine ⟨hlines, hread, ?_⟩
  obtain ⟨-, message, he⟩ | ⟨before, line, after, hsplit, hpoints⟩ :=
    pointsAt_of_read_error hlines hread
  · cases he
  · have hcount : 4 = before.length + 1 := Option.some.inj hpoints.line?
    exact ⟨before, line, hpoints, by omega, after, hsplit⟩

end Workflow

end Flowscript
