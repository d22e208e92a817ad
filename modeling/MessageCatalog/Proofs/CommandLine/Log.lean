import MessageCatalog.CommandLine.Log
import MessageCatalog.Proofs.Document.Step

/-!
# What a log tells

The parts of a command can be put together in any way, what they log stays the same.
Among all that is logged while a document is read, the warnings are its reports, each of
them once and in their order.
-/

namespace MessageCatalog

namespace Logged

variable {ε α β γ : Type}

theorem bind_of_result_eq_ok {x : Logged ε α} {a : α} (hresult : x.result = .ok a)
    (f : α → Logged ε β) : x.bind f = ⟨x.log ++ (f a).log, (f a).result⟩ := by
  rw [bind, hresult]
  rfl

theorem bind_of_result_eq_error {x : Logged ε α} {failure : ε}
    (hresult : x.result = .error failure) (f : α → Logged ε β) :
    x.bind f = ⟨x.log, .error failure⟩ := by
  rw [bind, hresult]
  exact congrArg (Logged.mk · _) (List.append_nil _)

theorem bind_congr {x : Logged ε α} {f g : α → Logged ε β}
    (hsame : ∀ a, x.result = .ok a → f a = g a) : x.bind f = x.bind g := by
  cases hresult : x.result with
  | error failure => rw [bind_of_result_eq_error hresult, bind_of_result_eq_error hresult]
  | ok a => rw [bind_of_result_eq_ok hresult, bind_of_result_eq_ok hresult, hsame a hresult]

theorem bind_assoc (x : Logged ε α) (f : α → Logged ε β) (g : β → Logged ε γ) :
    (x.bind f).bind g = x.bind fun a => (f a).bind g := by
  rcases x with ⟨log, result⟩
  cases result with
  | error failure => simp [bind, Except.bind]
  | ok a => simp [bind, Except.bind]

theorem ofExcept_ok_bind (a : α) (f : α → Logged ε β) : (ofExcept (.ok a)).bind f = f a := rfl

theorem ofExcept_bind_pure (x : Except ε α) (f : α → β) :
    ((ofExcept x).bind fun a => pure (f a)) = ofExcept (x.map f) := by
  cases x with
  | error failure => rfl
  | ok a => rfl

end Logged

namespace LogEvent

def isWarning (event : LogEvent) : Bool := event.level = .warnings

end LogEvent

namespace Reading

variable (options : ReadOptions) (preprocessor : Preprocessor)

theorem reports_isPrefix_step (reading : Reading) (number : Nat) (line : Text) :
    reading.reports <+: (reading.step options preprocessor number line).reports := by
  rw [step_eq]
  exact List.prefix_append _ _

theorem reports_isPrefix_finish (reading : Reading) :
    reading.reports <+: (reading.finish options).reports := by
  unfold finish
  split
  · rw [closeKey_eq]
    exact List.prefix_append _ _
  · exact List.prefix_rfl

theorem map_append_logOfProblems {before after : Reading}
    (hgrows : before.reports <+: after.reports) :
    before.reports.map .problemFound ++ (before.logOfProblems after).filter LogEvent.isWarning =
      after.reports.map .problemFound := by
  obtain ⟨found, hfound⟩ := hgrows
  have hall : (found.map LogEvent.problemFound).filter LogEvent.isWarning =
      found.map .problemFound := by
    rw [List.filter_map]
    exact congrArg _ (List.filter_eq_self.mpr fun _ _ => rfl)
  rw [logOfProblems, ← hfound, List.drop_left, hall, List.map_append]

theorem filter_logOfRow (number : Nat) (row : Row) :
    (logOfRow number row).filter LogEvent.isWarning = [] := by
  cases row <;> rfl

/-- The reports that there were before are among those that there are in the end, so the
log of the lines has to be seen behind them. -/
theorem map_append_logOfSteps (reading : Reading) (number : Nat) (lines : List Text) :
    reading.reports.map .problemFound ++
        (reading.logOfSteps options preprocessor number lines).filter LogEvent.isWarning =
      (reading.steps options preprocessor number lines).reports.map .problemFound := by
  induction lines generalizing reading number with
  | nil => exact List.append_nil _
  | cons line lines ih =>
      rw [logOfSteps, steps, List.filter_append, List.filter_append, filter_logOfRow,
        List.append_nil, ← List.append_assoc,
        map_append_logOfProblems (reports_isPrefix_step options preprocessor reading number line),
        ih]

end Reading

theorem Document.filter_log (options : ReadOptions) (preprocessor : Preprocessor) (text : Text) :
    (log options preprocessor text).filter LogEvent.isWarning =
      (read options preprocessor text).reports.map .problemFound := by
  have hsteps := Reading.map_append_logOfSteps options preprocessor Reading.start 1
    (lines (dropByteOrderMark text))
  have hstart : Reading.start.reports.map LogEvent.problemFound = [] := rfl
  rw [hstart, List.nil_append] at hsteps
  rw [log, List.filter_append, List.filter_append, hsteps,
    Reading.map_append_logOfProblems (Reading.reports_isPrefix_finish options _)]
  exact List.append_nil _

end MessageCatalog
