import BrokerSession.Fault.Basic

/-!
# Wrapping is one level deep

`Fault.wrap m e` stores the root cause of `e` and points its message at it. Since the root
cause of a wrapped fault is the text it stored, wrapping again finds the same root:

* `rootCause_wrap`: the root cause survives a wrap;
* `wrap_wrap`: a wrap of a wrap is the outer wrap of the inner fault, in every field;
* `code_wrap`, `kind_wrap`: the code is kept, and the kind is kept when it is `closed` or
  `invalidState` and becomes `failure` otherwise, so `isFatal_wrap` holds.

`wrap_single_level` gathers the four.
-/

namespace BrokerSession

namespace Fault

@[simp] theorem rootCause_wrap (m : String) (e : Fault) :
    (wrap m e).rootCause = e.rootCause := rfl

@[simp] theorem code_wrap (m : String) (e : Fault) : (wrap m e).code = e.code := rfl

theorem kind_wrap (m : String) (e : Fault) :
    (wrap m e).kind =
      if e.kind = .closed ∨ e.kind = .invalidState then e.kind else .failure := by
  cases e with
  | mk kind code message cause => cases kind <;> rfl

theorem wrap_wrap (m₁ m₂ : String) (e : Fault) : wrap m₂ (wrap m₁ e) = wrap m₂ e := by
  cases e with
  | mk kind code message cause => cases kind <;> rfl

@[simp] theorem isFatal_wrap (m : String) (e : Fault) : (wrap m e).isFatal = e.isFatal := by
  cases e with
  | mk kind code message cause => cases kind <;> rfl

/-- Wrapping twice under `m₁` then `m₂` is wrapping once under `m₂`; a wrap keeps the root
cause, the code and fatality, and keeps the kind only when it is `closed` or `invalidState`. -/
theorem wrap_single_level (e : Fault) (m₁ m₂ m : String) :
    wrap m₂ (wrap m₁ e) = wrap m₂ e ∧
    (wrap m e).rootCause = e.rootCause ∧
    (wrap m e).code = e.code ∧
    (wrap m e).kind =
      (if e.kind = .closed ∨ e.kind = .invalidState then e.kind else .failure) ∧
    (wrap m e).isFatal = e.isFatal :=
  ⟨wrap_wrap m₁ m₂ e, rootCause_wrap m e, code_wrap m e, kind_wrap m e, isFatal_wrap m e⟩

end Fault

end BrokerSession
