import MessageCatalog.CommandLine.Run

/-!
# Commands that succeed and commands that fail

A command succeeds only if each of its checks has, and then it has written all
its files.  What it works with is recovered from its success, one check after
another.  A command that fails has failed a check, and then nothing has changed,
or it has come to a file that it cannot write.  Or it has ended in the middle of a file
that cannot be made.
-/

namespace MessageCatalog

theorem Except.exists_of_bind_eq_ok {ε α β : Type} {x : Except ε α} {f : α → Except ε β} {b : β}
    (hbind : x.bind f = .ok b) : ∃ a, x = .ok a ∧ f a = .ok b := by
  cases x with
  | error failure => contradiction
  | ok a => exact ⟨a, rfl, hbind⟩

theorem Except.exists_of_map_eq_ok {ε α β : Type} {x : Except ε α} {f : α → β} {b : β}
    (hmap : x.map f = .ok b) : ∃ a, x = .ok a ∧ f a = b := by
  cases x with
  | error failure => contradiction
  | ok a => exact ⟨a, rfl, Except.ok.inj hmap⟩

theorem Except.mapError_eq_ok_iff {ε δ α : Type} {x : Except ε α} {f : ε → δ} {a : α} :
    x.mapError f = .ok a ↔ x = .ok a := by
  cases x with
  | error failure =>
      have hmap : (Except.error failure : Except ε α).mapError f = .error (f failure) := rfl
      rw [hmap]
      simp
  | ok value =>
      have hmap : (Except.ok value : Except ε α).mapError f = .ok value := rfl
      rw [hmap, Except.ok.injEq, Except.ok.injEq]

theorem Generation.checkCodes_eq_ok_iff {failure : LanguageCodeError → Failure}
    {codes : List Text} :
    checkCodes failure codes = .ok () ↔ ∀ code ∈ codes, Language.check code = none := by
  induction codes with
  | nil => simp [checkCodes]
  | cons code codes ih =>
      rw [checkCodes, List.forall_mem_cons, ← ih]
      cases Language.check code with
      | some reason => simp
      | none => simp

theorem Generation.exists_of_checkCodes_eq_error {failure : LanguageCodeError → Failure}
    {codes : List Text} {refusal : Failure} (hcodes : checkCodes failure codes = .error refusal) :
    ∃ code ∈ codes, ∃ reason, Language.check code = some reason ∧ refusal = failure reason := by
  induction codes with
  | nil => cases hcodes
  | cons code codes ih =>
      rw [checkCodes] at hcodes
      cases hcode : Language.check code with
      | some reason =>
          rw [hcode] at hcodes
          exact ⟨code, List.mem_cons_self, reason, hcode, (Except.error.inj hcodes).symm⟩
      | none =>
          rw [hcode] at hcodes
          obtain ⟨other, hother, hreason⟩ := ih hcodes
          exact ⟨other, List.mem_cons_of_mem code hother, hreason⟩

namespace FileTree

variable {tree : FileTree} {invocation : Invocation}

/-- How a command ends that has passed its checks: at a file that cannot be written, with
its output, or at a file that cannot be made. -/
theorem perform_cases (tree : FileTree) (log : List LogEvent) (effects : Effects) :
    (∃ after failure, tree.putAll effects.files = (after, some failure) ∧
      tree.perform log effects =
        ⟨log ++ tree.logOfFiles effects.files, .failed failure, after⟩) ∨
    ∃ after, tree.putAll effects.files = (after, none) ∧
      ((∃ output, effects.output = some output ∧
          tree.perform log effects =
            ⟨log ++ tree.logOfFiles effects.files ++ effects.closing, .done output, after⟩) ∨
        effects.output = none ∧
          tree.perform log effects =
            ⟨log ++ tree.logOfFiles effects.files, .crashed, after⟩) := by
  unfold perform
  rcases hput : tree.putAll effects.files with ⟨after, failure⟩
  dsimp only
  cases failure with
  | some failure => exact Or.inl ⟨after, failure, rfl, rfl⟩
  | none =>
      right
      refine ⟨after, rfl, ?_⟩
      cases houtput : effects.output with
      | some output => exact Or.inl ⟨output, rfl, rfl⟩
      | none => exact Or.inr ⟨rfl, rfl⟩

theorem perform_printing (tree : FileTree) (log : List LogEvent) (output : Text) :
    tree.perform log (Command.printing output) = ⟨log, .done output, tree⟩ := by
  simp [perform, Command.printing, logOfFiles, putAll]

theorem carryOut_of_effects_eq_error {failure : Failure}
    (heffects : invocation.effects tree.lookup? = .error failure) :
    tree.carryOut invocation =
      ⟨(invocation.plan tree.lookup?).log, .failed failure, tree⟩ := by
  unfold Invocation.effects at heffects
  unfold carryOut
  dsimp only
  rw [heffects]

theorem carryOut_of_effects_eq_ok {effects : Effects}
    (heffects : invocation.effects tree.lookup? = .ok effects) :
    tree.carryOut invocation = tree.perform (invocation.plan tree.lookup?).log effects := by
  unfold Invocation.effects at heffects
  unfold carryOut
  dsimp only
  rw [heffects]

theorem exists_putAll_of_effects_eq_ok {effects : Effects}
    (heffects : invocation.effects tree.lookup? = .ok effects) :
    ∃ failure, tree.putAll effects.files = ((tree.carryOut invocation).tree, failure) := by
  rw [carryOut_of_effects_eq_ok heffects]
  rcases perform_cases tree (invocation.plan tree.lookup?).log effects with
    ⟨after, failure, hput, hresult⟩ |
      ⟨after, hput, ⟨output, -, hresult⟩ | ⟨-, hresult⟩⟩
  · exact ⟨some failure, by rw [hput, hresult]⟩
  · exact ⟨none, by rw [hput, hresult]⟩
  · exact ⟨none, by rw [hput, hresult]⟩

theorem exists_effects_of_exitCode (hexit : (tree.carryOut invocation).exitCode = 0) :
    ∃ effects output, invocation.effects tree.lookup? = .ok effects ∧
      effects.output = some output ∧
      tree.putAll effects.files = ((tree.carryOut invocation).tree, none) := by
  cases heffects : invocation.effects tree.lookup? with
  | error failure =>
      rw [carryOut_of_effects_eq_error heffects] at hexit
      contradiction
  | ok effects =>
      have hresult := carryOut_of_effects_eq_ok heffects
      rcases perform_cases tree (invocation.plan tree.lookup?).log effects with
        ⟨after, failure, -, hperform⟩ |
          ⟨after, hput, ⟨output, houtput, hperform⟩ | ⟨-, hperform⟩⟩
      · rw [hresult, hperform] at hexit
        contradiction
      · exact ⟨effects, output, rfl, houtput, by rw [hput, hresult, hperform]⟩
      · rw [hresult, hperform] at hexit
        contradiction

end FileTree

end MessageCatalog
