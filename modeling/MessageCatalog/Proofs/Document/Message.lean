import MessageCatalog.Document.Problem

/-!
# Messages told apart by their first words

A message repeats parts of the document, and these may contain anything.  But it
begins with words that depend on the kind of the problem only, and three letters
are enough to tell most kinds apart.  So a message with certain first words is
about a certain kind of problem.
-/

namespace MessageCatalog

namespace Problem

/-- The first letters of the message. -/
def initials : Problem → Text
  | mixedIndentation _ => ['I', 'n', 'd']
  | unexpectedIndentation _ _ => ['U', 'n', 'e']
  | unindented _ => ['U', 'n', 'k']
  | looseLine _ => ['L', 'o', 'o']
  | noSeparator _ => ['C', 'a', 'n']
  | unknownPlatform _ => ['U', 'n', 'k']
  | badSpecifier _ => ['I', 'n', 'v']
  | noValues _ => ['T', 'r', 'a']

theorem take_message (problem : Problem) : problem.message.take 3 = problem.initials := by
  unfold message
  cases problem with
  | unknownPlatform name =>
      unfold Platform.unknownMessage
      simp [initials]
  | badSpecifier problem =>
      unfold SpecifierProblem.message
      simp [initials]
  | _ => simp [initials]

theorem initials_of_prefix_message {problem : Problem} {start : Text} (hlong : 3 ≤ start.length)
    (hbegins : start <+: problem.message) : problem.initials = start.take 3 := by
  obtain ⟨rest, hmessage⟩ := hbegins
  rw [← take_message, ← hmessage, List.take_append_of_le_length hlong]

def isIndentation : Problem → Bool
  | mixedIndentation _ => true
  | unexpectedIndentation _ _ => true
  | _ => false

def isNumber : Problem → Bool
  | badSpecifier _ => true
  | _ => false

def isRejection : Problem → Bool
  | mixedIndentation _ => true
  | unexpectedIndentation _ _ => true
  | unindented _ => true
  | looseLine _ => true
  | noSeparator _ => true
  | _ => false

/-- An unknown platform and an unknown line are told apart only behind their first word. -/
theorem not_unindented_prefix_unknownPlatform (name : Text) :
    ¬ "Unknown un-indented line".toList <+: (unknownPlatform name).message := by
  rintro ⟨rest, hmessage⟩
  have hbegin := congrArg (List.take 9) hmessage
  unfold message Platform.unknownMessage at hbegin
  simp at hbegin

end Problem

namespace Report

/-- The message is about white space in front of a line. -/
def ConcernsIndentation (report : Report) : Prop :=
  "Indentation must use spaces only".toList <+: report.problem.message ∨
    "Unexpected indentation".toList <+: report.problem.message

instance (report : Report) : Decidable report.ConcernsIndentation :=
  inferInstanceAs (Decidable (_ ∨ _))

/-- The message is about a number in a placeholder. -/
def ConcernsNumber (report : Report) : Prop :=
  "Invalid order index".toList <+: report.problem.message ∨
    "Invalid decimal count".toList <+: report.problem.message

instance (report : Report) : Decidable report.ConcernsNumber :=
  inferInstanceAs (Decidable (_ ∨ _))

theorem concernsIndentation_iff (report : Report) :
    report.ConcernsIndentation ↔ report.problem.isIndentation = true := by
  unfold ConcernsIndentation
  constructor
  · intro hbegins
    have hinitials : report.problem.initials = ['I', 'n', 'd'] ∨
        report.problem.initials = ['U', 'n', 'e'] :=
      hbegins.imp (Problem.initials_of_prefix_message (by simp))
        (Problem.initials_of_prefix_message (by simp))
    cases hproblem : report.problem <;> simp [hproblem, Problem.initials] at hinitials <;> rfl
  · intro hkind
    cases hproblem : report.problem with
    | mixedIndentation line =>
        left
        unfold Problem.message
        simp
    | unexpectedIndentation width line =>
        right
        unfold Problem.message
        simp
    | _ => simp [hproblem, Problem.isIndentation] at hkind

theorem concernsNumber_iff (report : Report) :
    report.ConcernsNumber ↔ report.problem.isNumber = true := by
  unfold ConcernsNumber
  constructor
  · intro hbegins
    have hinitials : report.problem.initials = ['I', 'n', 'v'] :=
      hbegins.elim (Problem.initials_of_prefix_message (by simp))
        (Problem.initials_of_prefix_message (by simp))
    cases hproblem : report.problem <;> simp [hproblem, Problem.initials] at hinitials
    rfl
  · intro hkind
    cases hproblem : report.problem with
    | badSpecifier problem =>
        obtain ⟨part, text, cause⟩ := problem
        unfold Problem.message SpecifierProblem.message
        cases part <;> simp
    | _ => simp [hproblem, Problem.isNumber] at hkind

/-- The message says that a line is none of the rows of a document and has been passed
over: a line at the margin, a line with other indentation, a loose line, or a field
without an equals sign. -/
def RejectsLine (report : Report) : Prop :=
  "Unknown un-indented line".toList <+: report.problem.message ∨
    report.ConcernsIndentation ∨
    "Loose line".toList <+: report.problem.message ∨
    "Cannot find separator".toList <+: report.problem.message

instance (report : Report) : Decidable report.RejectsLine :=
  inferInstanceAs (Decidable (_ ∨ _ ∨ _ ∨ _))

theorem rejectsLine_iff (report : Report) :
    report.RejectsLine ↔ report.problem.isRejection = true := by
  unfold RejectsLine
  rw [concernsIndentation_iff]
  constructor
  · rintro (hunindented | hindentation | hbegins)
    · have hinitials := Problem.initials_of_prefix_message (by simp) hunindented
      cases hproblem : report.problem with
      | unindented line => rfl
      | unknownPlatform name =>
          rw [hproblem] at hunindented
          exact absurd hunindented (Problem.not_unindented_prefix_unknownPlatform name)
      | _ => simp [hproblem, Problem.initials] at hinitials
    · cases hproblem : report.problem <;>
        simp [hproblem, Problem.isIndentation] at hindentation <;> rfl
    · have hinitials : report.problem.initials = ['L', 'o', 'o'] ∨
          report.problem.initials = ['C', 'a', 'n'] :=
        hbegins.imp (Problem.initials_of_prefix_message (by simp))
          (Problem.initials_of_prefix_message (by simp))
      cases hproblem : report.problem <;> simp [hproblem, Problem.initials] at hinitials <;> rfl
  · intro hkind
    cases hproblem : report.problem with
    | unindented line =>
        left
        unfold Problem.message
        simp
    | mixedIndentation line => exact Or.inr (Or.inl rfl)
    | unexpectedIndentation width line => exact Or.inr (Or.inl rfl)
    | looseLine line =>
        right; right; left
        unfold Problem.message
        simp
    | noSeparator line =>
        right; right; right
        unfold Problem.message
        simp
    | _ => simp [hproblem, Problem.isRejection] at hkind

theorem decide_not_concernsIndentation (report : Report) :
    decide (¬ report.ConcernsIndentation) = !report.problem.isIndentation := by
  simp [concernsIndentation_iff]

theorem decide_not_concernsNumber (report : Report) :
    decide (¬ report.ConcernsNumber) = !report.problem.isNumber := by
  simp [concernsNumber_iff]

end Report

end MessageCatalog
