import SentenceChart.CommandLine.Request
import SentenceChart.Proofs.Text.Digits

/-!
# Limits among arguments

A limit among the arguments was read from a numeral, so it has no more digits
than a numeral may have.  The limit of no arguments has two digits, a value for
an option that is no limit leaves it as it is, and so every request that is read
has a limit that can be written.
-/

namespace SentenceChart.CommandLine

namespace Request

variable {request request' : Request}

/-- The limit, if there is one, has a numeral. -/
def HasShortLimit (request : Request) : Prop :=
  ∀ limit, request.limit = .most limit → limit.natAbs < Text.numeralBound

theorem hasShortLimit_initial : initial.HasShortLimit := by
  rintro _ ⟨⟩
  exact Text.length_le_maxDigits_iff.mp (by decide)

theorem HasShortLimit.of_eq (short : request.HasShortLimit)
    (same : request'.limit = request.limit) : request'.HasShortLimit := by
  intro limit limited
  exact short limit (same ▸ limited)

theorem HasShortLimit.turnOn (short : request.HasShortLimit)
    (switch : Switch) : (request.turnOn switch).HasShortLimit := by
  cases switch <;> exact short.of_eq rfl

theorem HasShortLimit.assign {setting : Setting} {value : String}
    (short : request.HasShortLimit)
    (assigned : request.assign setting value = .ok request') :
    request'.HasShortLimit := by
  cases setting with
  | maxTokens =>
      rw [Request.assign] at assigned
      split at assigned
      · rename_i found
        cases assigned
        rintro _ ⟨⟩
        exact Text.natAbs_lt_of_integer? found
      · cases assigned
  | _ =>
      cases assigned
      exact short.of_eq rfl

theorem HasShortLimit.clear (short : request.HasShortLimit)
    (setting : Setting) : (request.clear setting).HasShortLimit := by
  cases setting with
  | maxTokens =>
      intro limit limited
      cases limited
  | _ => exact short.of_eq rfl

theorem HasShortLimit.attach {setting : Setting} {value : String}
    (short : request.HasShortLimit)
    (attached : request.attach setting value = .ok request') :
    request'.HasShortLimit := by
  rw [Request.attach] at attached
  split at attached
  · cases attached
    exact short.clear setting
  · exact short.assign attached

theorem HasShortLimit.readAfter {phase : Phase} {unused : List String}
    {arguments : List Argument} (short : request.HasShortLimit)
    (accepted : readAfter request phase unused arguments =
      .request request') : request'.HasShortLimit := by
  fun_induction CommandLine.readAfter request phase unused arguments with
  | case1 =>
      cases accepted
      exact short
  | case3 _ _ _ _ ih => exact ih short accepted
  | case4 _ _ _ _ _ _ ih => exact ih (short.of_eq rfl) accepted
  | case5 _ _ _ ih => exact ih short accepted
  | case6 _ _ _ _ _ ih => exact ih short accepted
  | case7 _ _ _ _ _ ih => exact ih short accepted
  | case10 _ _ _ switch _ _ ih => exact ih (short.turnOn switch) accepted
  | case12 _ _ _ _ _ _ _ attached ih =>
      exact ih (short.attach attached) accepted
  | case14 _ _ _ _ _ _ _ assigned ih =>
      exact ih (short.assign assigned) accepted
  | _ => cases accepted

end Request

theorem limit_lt_of_read {arguments : List String} {request : Request}
    (accepted : read arguments = .request request) {limit : Int}
    (limited : request.limit = .most limit) :
    limit.natAbs < Text.numeralBound := by
  rw [read] at accepted
  split at accepted
  · cases accepted
  · exact Request.hasShortLimit_initial.readAfter accepted limit limited

end SentenceChart.CommandLine
