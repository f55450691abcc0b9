import CbenchValidation.Validator

/-! `_make_cBench_validator.flaky_wrapped_cb`: up to `max(flakiness, 1)` calls of
`validator_cb`, stopping at the first that returns no error. The `j`-th call's outcome is
`attempt j`, so every sequence of outcomes is covered. The local `error` is unbound until
a call returns; when every call raised `TimeoutError`, the final `return error` raises
`UnboundLocalError`. -/
namespace CbenchValidation
namespace Flaky

abbrev Attempt := Except Exc (Option ValidationError)

/-- The loop body over the remaining indices; `error` is the local variable (`none` while
unbound). Also returns the indices of the calls made. -/
def retryLoop (attempt : ℕ → Attempt) :
    List ℕ → Option (Option ValidationError) → Attempt × List ℕ
  | [], error =>
    (match error with
      | some e => .ok e
      | none => .error (.unboundLocal "error"),[])
  | j::js, error =>
    match attempt j with
    | .ok none => (.ok none,[j])
    | .ok (some e) => let r := retryLoop attempt js (some (some e)); (r.1,j::r.2)
    | .error .timeoutError => let r := retryLoop attempt js error; (r.1,j::r.2)
    | .error e => (.error e,[j])

/-- `flaky_wrapped_cb(env)`: the loop over `range(1, max(flakiness, 1) + 1)`. -/
def flakyWrappedCb (flakiness : ℤ) (attempt : ℕ → Attempt) : Attempt × List ℕ :=
  retryLoop attempt (List.range' 1 (max flakiness 1).toNat) none

def retriable : Attempt → Bool
  | .ok (some _) => true
  | .error .timeoutError => true
  | _ => false

/-- The value of `error` after the calls `js`: the last error a call returned. -/
def lastReturned (attempt : ℕ → Attempt) : List ℕ → Option (Option ValidationError) →
    Option (Option ValidationError)
  | [], error => error
  | j::js, error =>
    match attempt j with
    | .ok (some e) => lastReturned attempt js (some (some e))
    | _ => lastReturned attempt js error

def finalReturn : Option (Option ValidationError) → Attempt
  | some e => .ok e
  | none => .error (.unboundLocal "error")

theorem retryLoop_all_retriable (attempt : ℕ → Attempt) (js : List ℕ)
    (error : Option (Option ValidationError)) (h : ∀ j ∈ js, retriable (attempt j)) :
    retryLoop attempt js error = (finalReturn (lastReturned attempt js error),js) := by
  induction js generalizing error with
  | nil => cases error <;> rfl
  | cons j js ih =>
    have hj := h j (List.mem_cons_self j js)
    have ht := fun e => ih e (fun i hi => h i (List.mem_cons_of_mem j hi))
    simp only [retryLoop,lastReturned]
    split <;> simp_all [retriable]

theorem retryLoop_stop (attempt : ℕ → Attempt) (pre post : List ℕ) (j : ℕ)
    (error : Option (Option ValidationError)) (hpre : ∀ i ∈ pre, retriable (attempt i))
    (hj : retriable (attempt j) = false) :
    retryLoop attempt (pre ++ j::post) error = (attempt j,pre ++ [j]) := by
  induction pre generalizing error with
  | nil =>
    simp only [List.nil_append,retryLoop]
    split <;> simp_all [retriable]
  | cons i pre ih =>
    have hi := hpre i (List.mem_cons_self i pre)
    have ht := fun e => ih e (fun k hk => hpre k (List.mem_cons_of_mem i hk))
    simp only [List.cons_append,retryLoop]
    split <;> simp_all [retriable]

theorem range'_split {j n : ℕ} (hj1 : 1 ≤ j) (hjn : j ≤ n) :
    List.range' 1 n = List.range' 1 (j-1) ++ j :: List.range' (j+1) (n-j) := by
  have h := List.range'_append_1 1 (j-1) (n-j+1)
  rw [show 1 + (j-1) = j by omega,show n-j+1+(j-1) = n by omega,List.range'_succ] at h
  exact h.symm

/-- The wrapper stops at the first call that returns no error or raises something other
than `TimeoutError`, after exactly the calls up to it, and passes its outcome on. -/
theorem flakyWrappedCb_stops (k : ℤ) (attempt : ℕ → Attempt) (j : ℕ) (hj1 : 1 ≤ j)
    (hjk : (j : ℤ) ≤ max k 1) (hpre : ∀ i, 1 ≤ i → i < j → retriable (attempt i))
    (hj : retriable (attempt j) = false) :
    flakyWrappedCb k attempt = (attempt j,List.range' 1 j) := by
  have hsplit := range'_split (n := (max k 1).toNat) hj1 (by omega)
  rw [flakyWrappedCb,hsplit,retryLoop_stop attempt _ _ j none _ hj]
  · have h := List.range'_1_concat 1 (j-1)
    rw [show j-1+1 = j by omega,show 1+(j-1) = j by omega] at h
    rw [h]
  · intro i hi
    rw [List.mem_range'_1] at hi
    exact hpre i hi.1 (by omega)

theorem flakyWrappedCb_stops_third :
    flakyWrappedCb 5 (fun i => if i = 3 then .ok none else .error .timeoutError) = (.ok none,List.range' 1 3) :=
  flakyWrappedCb_stops 5 _ 3 (by decide) (by decide) (fun i _ hi => by simp [retriable,show i ≠ 3 by omega]) rfl

/-- When every call in the budget returns an error or raises `TimeoutError`, all
`max(flakiness, 1)` calls are made and the last returned error is the result; with none
returned, `return error` raises `UnboundLocalError`. -/
theorem flakyWrappedCb_exhausted (k : ℤ) (attempt : ℕ → Attempt)
    (h : ∀ j : ℕ, 1 ≤ j → (j : ℤ) ≤ max k 1 → retriable (attempt j)) :
    flakyWrappedCb k attempt =
      (finalReturn (lastReturned attempt (List.range' 1 (max k 1).toNat) none),
        List.range' 1 (max k 1).toNat) := by
  apply retryLoop_all_retriable
  intro j hj
  rw [List.mem_range'_1] at hj
  exact h j hj.1 (by omega)

theorem flakyWrappedCb_exhausted_wrong_output :
    flakyWrappedCb 2 (fun i => if i = 1 then .ok (some ⟨"Wrong output",[]⟩) else .error .timeoutError) =
      (.ok (some ⟨"Wrong output",[]⟩),[1,2]) :=
  flakyWrappedCb_exhausted 2 _ fun j h1 h2 => by
    rcases (show j = 1 ∨ j = 2 by omega) with rfl | rfl <;> rfl
/-- With the default budget of five, a `TimeoutError` from every call makes the wrapper
raise `UnboundLocalError` after its five calls instead of returning an error. -/
theorem flaky_all_timeouts_unbound :
    flakyWrappedCb 5 (fun _ => .error .timeoutError) = (.error (.unboundLocal "error"),[1,2,3,4,5]) :=
  rfl

end Flaky
end CbenchValidation
