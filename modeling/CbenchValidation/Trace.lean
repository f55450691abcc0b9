import CbenchValidation.Validator

/-! The order of one validation attempt's effects, over every behaviour of the
collaborators. A log property `Before P X` says that every event of kind `X` comes after a
prefix satisfying `P`; each stage of the attempt is given the events it can log, and the
attempt's log is put together from them. -/
namespace CbenchValidation

@[simp] def Event.isFork : Event → Bool
  | .call .fork _ => true
  | _ => false

@[simp] def Event.isClose : Event → Bool
  | .call .close _ => true
  | _ => false

@[simp] def Event.isCandidateWrite : Event → Bool
  | .call (.writeBitcode .candidate) _ => true
  | _ => false

@[simp] def Event.isCandidateRun : Event → Bool
  | .run .candidate _ => true
  | _ => false

@[simp] def Event.isDiff : Event → Bool
  | .diff _ => true
  | _ => false

theorem Event.not_fork_of_isDiff {e : Event} (h : e.isDiff) : e.isFork = false ∧ e.isClose = false := by
  cases e <;> simp_all

@[simp] def Event.Quiet (e : Event) : Prop :=
  e.isFork = false ∧ e.isClose = false ∧ e.isCandidateWrite = false ∧ e.isCandidateRun = false ∧
    e.isDiff = false

namespace Trace

/-- Every event of `log` that satisfies `X` comes after a prefix that satisfies `P`. -/
def Before (P : List Event → Prop) (X : Event → Bool) (log : List Event) : Prop :=
  ∀ pre e post, log = pre ++ e :: post → X e → P pre

/-- A property of a prefix that more events, before or after, cannot break. -/
def Upward (P : List Event → Prop) : Prop := ∀ l₁ l₂ l₃, P l₂ → P (l₁ ++ l₂ ++ l₃)

theorem append_eq_append_cons {l₁ l₂ pre post : List Event} {e : Event}
    (h : l₁ ++ l₂ = pre ++ e :: post) :
    (∃ a, pre = l₁ ++ a ∧ l₂ = a ++ e :: post) ∨ ∃ c, l₁ = pre ++ e :: c ∧ post = c ++ l₂ := by
  rcases List.append_eq_append_iff.mp h with ⟨a,ha,hb⟩ | ⟨c,hc,hd⟩
  · exact .inl ⟨a,ha,hb⟩
  · rcases c with _ | ⟨x,c⟩
    · exact .inl ⟨[],by simpa using hc.symm,by simpa using hd.symm⟩
    · obtain ⟨rfl,rfl⟩ := List.cons_eq_cons.mp hd
      exact .inr ⟨c,hc,rfl⟩

variable {P : List Event → Prop} {X : Event → Bool}

theorem upward_mem (x : Event) : Upward (fun pre => x ∈ pre) := by
  intro l₁ l₂ l₃ h
  simp [h]

theorem upward_exists_mem {ι : Type} (x : ι → Event) : Upward (fun pre => ∃ i, x i ∈ pre) := by
  rintro l₁ l₂ l₃ ⟨i,h⟩
  exact ⟨i,by simp [h]⟩

theorem before_of_forall {log : List Event} (h : ∀ e ∈ log, X e = false) : Before P X log := by
  rintro pre e post rfl hX
  simp [h e (by simp)] at hX

theorem before_append_of_holds (hU : Upward P) {l₁ : List Event} (h₁ : ∀ e ∈ l₁, X e = false)
    (hP : P l₁) (l₂ : List Event) : Before P X (l₁ ++ l₂) := by
  intro pre e post h hX
  rcases append_eq_append_cons h with ⟨a,rfl,-⟩ | ⟨c,rfl,-⟩
  · simpa using hU [] l₁ a hP
  · simp [h₁ e (by simp)] at hX

theorem before_append (hU : Upward P) {l₁ l₂ : List Event} (h₁ : ∀ e ∈ l₁, X e = false)
    (h₂ : Before P X l₂) : Before P X (l₁ ++ l₂) := by
  intro pre e post h hX
  rcases append_eq_append_cons h with ⟨a,rfl,hl⟩ | ⟨c,rfl,-⟩
  · simpa using hU l₁ a [] (h₂ a e post hl hX)
  · simp [h₁ e (by simp)] at hX

theorem before_append_right {l₁ l₂ : List Event} (h₁ : Before P X l₁) (h₂ : ∀ e ∈ l₂, X e = false) :
    Before P X (l₁ ++ l₂) := by
  intro pre e post h hX
  rcases append_eq_append_cons h with ⟨a,rfl,hl⟩ | ⟨c,hc,-⟩
  · simp [h₂ e (by simp [hl])] at hX
  · exact h₁ pre e c hc hX

end Trace

open Py Trace

theorem mem_compileAndRun_events {w : World} {role : Role} {cwd cmd : String} {linkopts : List String}
    {env : Dict} {numRuns : ℕ} {sanitizer : Option LlvmSanitizer} {ts cts : ℕ} {s : Sys} {e : Event}
    (he : e ∈ ((compileAndRunBitcodeFile w role cwd cmd linkopts env numRuns sanitizer ts cts).run s).events) :
    e = .writeFile "_finfo_dataset" ∨ (∃ c, e = .compile c) ∨ (∃ r, e = .run role r) ∨ e = .unlink "a.out" := by
  obtain ⟨pre,post,h,hpre,hpost⟩ := compileAndRun_events w role cwd cmd linkopts env numRuns sanitizer ts cts s
  rw [h] at he
  rcases hpre with rfl | ⟨c,rfl⟩ <;> rcases hpost with rfl | ⟨r,rfl⟩ <;> (try split_ifs at he) <;>
    simp at he <;> rcases he with rfl | rfl | rfl | rfl <;> simp

theorem compileAndRun_quiet (w : World) (cwd cmd : String) (linkopts : List String) (env : Dict)
    (numRuns : ℕ) (sanitizer : Option LlvmSanitizer) (ts cts : ℕ) (s : Sys) :
    ∀ e ∈ ((compileAndRunBitcodeFile w .goldStandard cwd cmd linkopts env numRuns sanitizer ts cts).run s).events,
      e.Quiet := by
  intro e he
  rcases mem_compileAndRun_events he with rfl | ⟨c,rfl⟩ | ⟨r,rfl⟩ | rfl <;> simp

theorem goldStandardBody_quiet (w : World) (cfg : Config) (cwd cmd : String) (s : Sys) :
    ∀ e ∈ ((goldStandardBody w cfg cwd cmd).run s).events, e.Quiet := by
  intro e he
  rcases mem_events_bind he with he | ⟨-,s,he⟩
  · simp only [run_call,List.mem_singleton] at he
    simp [he]
  rcases mem_events_bind he with he | ⟨-,s,he⟩
  · rw [run_writeBitcode] at he
    split at he <;> simp only [List.mem_cons,List.mem_singleton,List.not_mem_nil,or_false] at he <;>
      rcases he with rfl | rfl <;> simp
  · exact compileAndRun_quiet w cwd cmd _ _ 1 none 300 60 s e he

theorem goldStandardBody_ok (w : World) (cfg : Config) (cwd cmd : String) (s : Sys)
    {gold : BenchmarkExecutionResult} (h : ((goldStandardBody w cfg cwd cmd).run s).result = .ok gold)
    (he : gold.error = none) :
    ∃ out t, .run .goldStandard (.ok (.exited 0 out t)) ∈ ((goldStandardBody w cfg cwd cmd).run s).events := by
  obtain ⟨_,ha,h⟩ := result_bind_eq_ok h
  obtain ⟨_,hb,h⟩ := result_bind_eq_ok h
  obtain ⟨o,t,hr⟩ := compileAndRun_ok w .goldStandard cwd cmd _ _ 1 none 300 60 _ h he
  exact ⟨o,t,mem_events_bind_of_ok ha (mem_events_bind_of_ok hb hr)⟩

/-- The gold standard's events: a failed fork alone, or the fork, the `try` block and one
close. -/
theorem goldStandardRun_events (w : World) (cfg : Config) (cwd cmd : String) (s : Sys) :
    ((goldStandardRun w cfg cwd cmd).run s).events = [.call .fork false] ∨
      ∃ s' b, ((goldStandardRun w cfg cwd cmd).run s).events =
        .call .fork true :: (((goldStandardBody w cfg cwd cmd).run s').events ++ [.call .close b]) := by
  rcases h : w.fork s with _ | _
  · exact .inl (by simp [goldStandardRun,run_bind,h,Except.toBool])
  · simp only [goldStandardRun,events_bind,run_call,h,Except.toBool,run_tryFinally]
    exact .inr ⟨_,_,rfl⟩

theorem goldStandardRun_ok (w : World) (cfg : Config) (cwd cmd : String) (s : Sys)
    {gold : BenchmarkExecutionResult} (h : ((goldStandardRun w cfg cwd cmd).run s).result = .ok gold)
    (he : gold.error = none) :
    ∃ out t, .run .goldStandard (.ok (.exited 0 out t)) ∈ ((goldStandardRun w cfg cwd cmd).run s).events := by
  obtain ⟨_,ha,h⟩ := result_bind_eq_ok h
  obtain ⟨o,t,hr⟩ := goldStandardBody_ok w cfg cwd cmd _ (result_tryFinally_eq_ok h) he
  refine ⟨o,t,mem_events_bind_of_ok ha ?_⟩
  rw [run_tryFinally]
  exact List.mem_append_left _ hr

theorem moveGoldStandardOutputs_events (w : World) (cfg : Config) (gold : BenchmarkExecutionResult)
    (fs : List String) (s : Sys) :
    (∀ e ∈ ((moveGoldStandardOutputs w cfg gold fs).run s).events, ∃ f, e = .rename f (goldStandardName f)) ∧
      (((moveGoldStandardOutputs w cfg gold fs).run s).result = .ok () →
        ∀ f ∈ fs, .rename f (goldStandardName f) ∈ ((moveGoldStandardOutputs w cfg gold fs).run s).events) := by
  induction fs generalizing s with
  | nil => simp [moveGoldStandardOutputs]
  | cons f fs ih =>
    by_cases hf : (s.cwd f).isSome
    · simp only [moveGoldStandardOutputs,events_bind,result_bind,run_isFile,hf,if_true,run_rename,
        List.nil_append,List.singleton_append,List.mem_cons,forall_eq_or_imp]
      obtain ⟨ih1,ih2⟩ := ih (Sys.after _ _)
      refine ⟨⟨⟨f,rfl⟩,ih1⟩,fun h => ⟨?_,fun g hg => .inr (ih2 h g hg)⟩⟩
      simp
    · simp [moveGoldStandardOutputs,hf]

theorem difftestOutputs_events (w : World) (cwd cmd : String) (fs : List String) (s : Sys) :
    ∀ e ∈ ((difftestOutputs w cwd cmd fs).run s).events, e.isDiff = true := by
  induction fs generalizing s with
  | nil => simp [difftestOutputs]
  | cons f fs ih =>
    intro e he
    rcases mem_events_bind he with he | ⟨b,s,he⟩
    · simp at he
    split at he
    · simp at he
    rcases mem_events_bind he with he | ⟨_,s,he⟩
    · simp only [run_emit,List.mem_singleton] at he
      simp [he]
    rcases mem_events_bind he with he | ⟨_,s,he⟩
    · simp at he
    rcases mem_events_bind he with he | ⟨_,s,he⟩
    · simp at he
    split at he
    · simp at he
    · exact ih s e he

theorem writeBitcode_kinds (w : World) (role : Role) (s : Sys) :
    ∀ e ∈ ((writeBitcode w role).run s).events, e.isFork = false ∧ e.isClose = false ∧
      e.isCandidateRun = false ∧ e.isDiff = false ∧ (e.isCandidateWrite = true → role = .candidate) := by
  rw [run_writeBitcode]
  split <;> intro e he <;> simp only [List.mem_cons,List.not_mem_nil,or_false] at he <;>
    rcases he with rfl | rfl <;> cases role <;> simp

theorem compileAndRun_kinds (w : World) (role : Role) (cwd cmd : String) (linkopts : List String)
    (env : Dict) (numRuns : ℕ) (sanitizer : Option LlvmSanitizer) (ts cts : ℕ) (s : Sys) :
    ∀ e ∈ ((compileAndRunBitcodeFile w role cwd cmd linkopts env numRuns sanitizer ts cts).run s).events,
      e.isFork = false ∧ e.isClose = false ∧ e.isCandidateWrite = false ∧ e.isDiff = false := by
  intro e he
  rcases mem_compileAndRun_events he with rfl | ⟨c,rfl⟩ | ⟨r,rfl⟩ | rfl <;> simp

theorem runValidateResult_events (cfg : Config) (outcome : BenchmarkExecutionResult) (s : Sys) :
    ∀ e ∈ ((runValidateResult cfg outcome).run s).events, ∃ b, e = .call .hook b := by
  unfold runValidateResult
  split
  · simp
  · rename_i f _
    cases f outcome <;> simp [run_bind]

theorem candidateRun_no_fork (w : World) (cfg : Config) (cwd cmd : String)
    (gold : Option BenchmarkExecutionResult) (s : Sys) :
    ∀ e ∈ ((candidateRun w cfg cwd cmd gold).run s).events, e.isFork = false ∧ e.isClose = false := by
  intro e he
  rcases mem_events_bind he with he | ⟨_,s,he⟩
  · exact ⟨(writeBitcode_kinds w _ s e he).1,(writeBitcode_kinds w _ s e he).2.1⟩
  rcases mem_events_bind he with he | ⟨_,s,he⟩
  · exact ⟨(compileAndRun_kinds w _ _ _ _ _ _ _ _ _ s e he).1,(compileAndRun_kinds w _ _ _ _ _ _ _ _ _ s e he).2.1⟩
  split at he
  · simp at he
  rcases mem_events_bind he with he | ⟨_,s,he⟩
  · obtain ⟨b,rfl⟩ := runValidateResult_events cfg _ s e he
    simp
  split at he
  · simp at he
  · exact Event.not_fork_of_isDiff (difftestOutputs_events w cwd cfg.cmd cfg.outputFiles s e he)

theorem candidateRun_run_after_write (w : World) (cfg : Config) (cwd cmd : String)
    (gold : Option BenchmarkExecutionResult) (s : Sys) :
    Before (fun pre => .call (.writeBitcode .candidate) true ∈ pre) Event.isCandidateRun
      ((candidateRun w cfg cwd cmd gold).run s).events := by
  rw [candidateRun,events_bind,run_writeBitcode]
  split
  · exact before_append_of_holds (upward_mem _) (by simp) (by simp) _
  · exact before_of_forall (by simp)

theorem candidateRun_diff_after_run (w : World) (cfg : Config) (cwd cmd : String)
    (gold : Option BenchmarkExecutionResult) (s : Sys) :
    Before (fun pre => ∃ r, .run .candidate r ∈ pre) Event.isDiff
      ((candidateRun w cfg cwd cmd gold).run s).events := by
  have hw := writeBitcode_kinds w .candidate s
  rw [candidateRun,events_bind]
  split
  · rw [events_bind,← List.append_assoc]
    have hc : ∀ e ∈ ((writeBitcode w .candidate).run s).events ++
        ((compileAndRunBitcodeFile w .candidate cwd cmd cfg.linkopts cfg.osEnv cfg.numRuns cfg.sanitizer).run
          (s.after ((writeBitcode w .candidate).run s))).events, e.isDiff = false := by
      intro e he
      rcases List.mem_append.mp he with he | he
      · exact (hw e he).2.2.2.1
      · exact (compileAndRun_kinds w _ _ _ _ _ _ _ _ _ _ e he).2.2.2
    split
    · rename_i outcome hout
      by_cases he : outcome.error = none
      · obtain ⟨o,t,hr⟩ := compileAndRun_ok w .candidate cwd cmd _ _ _ _ _ _ _ hout he
        exact before_append_of_holds (upward_exists_mem _) hc ⟨_,List.mem_append_right _ hr⟩ _
      · obtain ⟨err,herr⟩ := Option.ne_none_iff_exists'.mp he
        simp only [herr,run_pure,List.append_nil]
        exact before_of_forall hc
    · exact before_of_forall (by simpa using hc)
  · exact before_of_forall (by simpa using fun e he => (hw e he).2.2.2.1)

theorem preExecution_quiet (cfg : Config) (s : Sys) :
    ∀ e ∈ ((preExecution cfg).run s).events, e.Quiet := by
  unfold preExecution
  split
  · rw [run_onDir]
    split <;> simp
  · simp

theorem goldThenCandidate_events (w : World) (cfg : Config) (cwd cmd : String) (s : Sys) :
    ∃ eg em ec, ((goldThenCandidate w cfg cwd cmd).run s).events = eg ++ em ++ ec ∧
      (∃ s', eg = ((goldStandardRun w cfg cwd cmd).run s').events) ∧ (∀ e ∈ em, e.Quiet) ∧
      (ec = [] ∨ (∃ s' gold, ec = ((candidateRun w cfg cwd cmd gold).run s').events) ∧
        (∃ out t, .run .goldStandard (.ok (.exited 0 out t)) ∈ eg) ∧
        ∀ f ∈ cfg.outputFiles, .rename f (goldStandardName f) ∈ em) := by
  rw [goldThenCandidate,events_bind]
  split
  · rename_i gold hgold
    split
    · exact ⟨_,[],[],by simp,⟨s,rfl⟩,by simp,.inl rfl⟩
    · rename_i hnone
      rw [events_bind]
      have hm := moveGoldStandardOutputs_events w cfg gold cfg.outputFiles
      split
      · rename_i hmove
        have hq : ∀ e ∈ ((moveGoldStandardOutputs w cfg gold cfg.outputFiles).run
            (s.after ((goldStandardRun w cfg cwd cmd).run s))).events, e.Quiet := fun e he => by
          obtain ⟨f,rfl⟩ := (hm _).1 e he
          simp
        exact ⟨_,_,_,(List.append_assoc ..).symm,⟨s,rfl⟩,hq,
          .inr ⟨⟨_,_,rfl⟩,goldStandardRun_ok w cfg cwd cmd s hgold hnone,(hm _).2 hmove⟩⟩
      · refine ⟨_,_,[],(List.append_assoc _ _ []).symm,⟨s,rfl⟩,fun e he => ?_,.inl rfl⟩
        obtain ⟨f,rfl⟩ := (hm _).1 e he
        simp
  · exact ⟨_,[],[],by simp,⟨s,rfl⟩,by simp,.inl rfl⟩

theorem validateIn_events (w : World) (cfg : Config) (cwd : String) (s : Sys) :
    ∃ ep eg em ec, ((validateIn w cfg cwd).run s).events = ep ++ eg ++ em ++ ec ∧
      (∀ e ∈ ep ++ em, e.Quiet) ∧
      (eg = [] ∨ ∃ s', eg = ((goldStandardRun w cfg cwd (expandCommand cfg.cmd w.cbenchData)).run s').events) ∧
      (ec = [] ∨ (∃ s' gold, ec = ((candidateRun w cfg cwd (expandCommand cfg.cmd w.cbenchData) gold).run s').events) ∧
        (cfg.needsGoldStandard → (∃ out t, .run .goldStandard (.ok (.exited 0 out t)) ∈ eg) ∧
          ∀ f ∈ cfg.outputFiles, .rename f (goldStandardName f) ∈ em)) := by
  have hp := preExecution_quiet cfg s
  rw [validateIn,events_bind]
  split
  · split_ifs with hg
    · obtain ⟨eg,em,ec,he,hgold,hm,hc⟩ := goldThenCandidate_events w cfg cwd (expandCommand cfg.cmd w.cbenchData)
        (s.after ((preExecution cfg).run s))
      refine ⟨((preExecution cfg).run s).events,eg,em,ec,by rw [he]; simp,
        fun e he => (List.mem_append.mp he).elim (hp e) (hm e),.inr hgold,?_⟩
      rcases hc with rfl | ⟨hc,hgo,hmv⟩
      · exact .inl rfl
      · exact .inr ⟨hc,fun _ => ⟨hgo,hmv⟩⟩
    · refine ⟨((preExecution cfg).run s).events,[],[],_,by simp,by simpa using hp,.inl rfl,
        .inr ⟨⟨s.after ((preExecution cfg).run s),none,rfl⟩,fun h => absurd h hg⟩⟩
  · exact ⟨((preExecution cfg).run s).events,[],[],[],by simp,by simpa using hp,.inl rfl,.inl rfl⟩

theorem validatorCb_events (w : World) (cfg : Config) (s : Sys) :
    ∃ q₁ vi q₂, ((validatorCb w cfg).run s).events = q₁ ++ vi ++ q₂ ∧ (∀ e ∈ q₁ ++ q₂, e.Quiet) ∧
      (vi = [] ∨ (∃ d s', vi = ((validateIn w cfg d).run s').events) ∧ ∀ f ∈ cfg.inputFiles, w.runtimeData f) := by
  rw [validatorCb,events_bind]
  split
  · rw [events_bind,events_bind,(run_checkInputs w _ _).1,List.nil_append]
    split
    · rename_i hin
      rw [run_makeTemp]
      split
      · rename_i d _
        refine ⟨((call .download w.download).run s).events ++ [.call .makeTemp true],_,[.removeTemp],
          by simp only [run_tryFinally,run_removeTemp,List.append_assoc]; rfl,by simp,
          .inr ⟨by exact ⟨d,_,rfl⟩,(run_checkInputs w _ _).2.2.mp hin⟩⟩
      · exact ⟨_,[],[],by simp only [List.append_nil]; rfl,by simp,.inl rfl⟩
    · exact ⟨_,[],[],by simp only [List.append_nil]; rfl,by simp,.inl rfl⟩
  · exact ⟨_,[],[],by simp only [List.append_nil]; rfl,by simp,.inl rfl⟩

theorem goldStandardRun_kinds (w : World) (cfg : Config) (cwd cmd : String) (s : Sys) :
    ∀ e ∈ ((goldStandardRun w cfg cwd cmd).run s).events,
      e.isCandidateWrite = false ∧ e.isCandidateRun = false ∧ e.isDiff = false := by
  intro e he
  rcases goldStandardRun_events w cfg cwd cmd s with h | ⟨s',b,h⟩ <;> rw [h] at he
  · simp at he; simp [he]
  · simp only [List.mem_cons,List.mem_append,List.not_mem_nil,or_false] at he
    rcases he with rfl | he | rfl
    · simp
    · exact (goldStandardBody_quiet w cfg cwd cmd s' e he).2.2
    · simp

/-- An attempt's log as five parts: quiet events, the gold standard's, the renames, the
candidate's, and quiet events. The candidate's part is there only once every input was found
and, when the gold standard runs, after it exited 0 and every declared output was renamed. -/
theorem validatorCb_log (w : World) (cfg : Config) (s : Sys) :
    ∃ q₁ eg em ec q₂, ((validatorCb w cfg).run s).events = q₁ ++ eg ++ em ++ ec ++ q₂ ∧
      (∀ e ∈ q₁ ++ em ++ q₂, e.Quiet) ∧
      (eg = [] ∨ ∃ cwd s', eg = ((goldStandardRun w cfg cwd (expandCommand cfg.cmd w.cbenchData)).run s').events) ∧
      (ec = [] ∨ (∃ cwd s' gold, ec = ((candidateRun w cfg cwd (expandCommand cfg.cmd w.cbenchData) gold).run s').events) ∧
        (∀ f ∈ cfg.inputFiles, w.runtimeData f) ∧
        (cfg.needsGoldStandard → (∃ out t, .run .goldStandard (.ok (.exited 0 out t)) ∈ eg) ∧
          ∀ f ∈ cfg.outputFiles, .rename f (goldStandardName f) ∈ em)) := by
  obtain ⟨q₁,vi,q₂,hes,hq,hvi⟩ := validatorCb_events w cfg s
  rcases hvi with rfl | ⟨⟨d,s',rfl⟩,hin⟩
  · exact ⟨q₁,[],[],[],q₂,by simp [hes],by simpa using hq,.inl rfl,.inl rfl⟩
  obtain ⟨ep,eg,em,ec,hvi,hq',heg,hec⟩ := validateIn_events w cfg d s'
  refine ⟨q₁ ++ ep,eg,em,ec,q₂,by simp [hes,hvi],?_,heg.imp_right fun ⟨s'',h⟩ => ⟨d,s'',h⟩,
    hec.imp_right fun ⟨⟨s'',g,h⟩,hg⟩ => ⟨⟨d,s'',g,h⟩,hin,hg⟩⟩
  intro e he
  simp only [List.mem_append] at he hq hq'
  rcases he with ((he | he) | he) | he
  · exact hq e (.inl he)
  · exact hq' e (.inl he)
  · exact hq' e (.inr he)
  · exact hq e (.inr he)

theorem validatorCb_log_outside {w : World} {cfg : Config} {q₁ eg em q₂ : List Event}
    (hq : ∀ e ∈ q₁ ++ em ++ q₂, e.Quiet)
    (heg : eg = [] ∨ ∃ cwd s', eg = ((goldStandardRun w cfg cwd (expandCommand cfg.cmd w.cbenchData)).run s').events) :
    ∀ e ∈ q₁ ++ eg ++ em ++ q₂, e.isCandidateWrite = false ∧ e.isCandidateRun = false ∧ e.isDiff = false := by
  have hq' : ∀ e ∈ q₁ ++ em ++ q₂, e.isCandidateWrite = false ∧ e.isCandidateRun = false ∧
      e.isDiff = false := fun e he => (hq e he).2.2
  intro e he
  simp only [List.mem_append] at he
  rcases he with ((he | he) | he) | he
  · exact hq' e (by simp [he])
  · rcases heg with rfl | ⟨cwd,s',rfl⟩
    · simp at he
    · exact goldStandardRun_kinds w cfg cwd _ s' e he
  · exact hq' e (by simp [he])
  · exact hq' e (by simp [he])

theorem upward_candidate_ready (C B : Prop) (x : Bytes → ℕ → Event) (y : String → Event) (L : List String) :
    Upward (fun pre => C ∧ (B → (∃ out t, x out t ∈ pre) ∧ ∀ f ∈ L, y f ∈ pre)) := by
  rintro l₁ l₂ l₃ ⟨hc,h⟩
  exact ⟨hc,fun hb => ⟨(h hb).1.imp fun o ⟨t,ht⟩ => ⟨t,by simp [ht]⟩,fun f hf => by simp [(h hb).2 f hf]⟩⟩

/-- (a) The candidate's bitcode is written only after every input was found and, when the
gold standard runs, after it exited 0 and every declared output was renamed. -/
theorem validatorCb_write_after_gold (w : World) (cfg : Config) (s : Sys) :
    Before (fun pre => (∀ f ∈ cfg.inputFiles, w.runtimeData f) ∧
        (cfg.needsGoldStandard → (∃ out t, .run .goldStandard (.ok (.exited 0 out t)) ∈ pre) ∧
          ∀ f ∈ cfg.outputFiles, .rename f (goldStandardName f) ∈ pre))
      Event.isCandidateWrite ((validatorCb w cfg).run s).events := by
  obtain ⟨q₁,eg,em,ec,q₂,hes,hq,heg,hec⟩ := validatorCb_log w cfg s
  have ho := validatorCb_log_outside hq heg
  rw [hes]
  rcases hec with rfl | ⟨-,hin,hgo⟩
  · exact before_of_forall fun e he => (ho e (by simpa using he)).1
  · rw [show q₁ ++ eg ++ em ++ ec ++ q₂ = (q₁ ++ eg ++ em) ++ (ec ++ q₂) by simp]
    refine before_append_of_holds (upward_candidate_ready _ _ _ _ _) (fun e he => (ho e (List.mem_append_left _ he)).1)
      ⟨hin,fun hg => ⟨(hgo hg).1.imp fun o ⟨t,ht⟩ => ⟨t,by simp [ht]⟩,fun f hf => by simp [(hgo hg).2 f hf]⟩⟩ _

theorem validatorCb_run_after_write (w : World) (cfg : Config) (s : Sys) :
    Before (fun pre => .call (.writeBitcode .candidate) true ∈ pre) Event.isCandidateRun
      ((validatorCb w cfg).run s).events := by
  obtain ⟨q₁,eg,em,ec,q₂,hes,hq,heg,hec⟩ := validatorCb_log w cfg s
  have ho := validatorCb_log_outside hq heg
  rw [hes,show q₁ ++ eg ++ em ++ ec ++ q₂ = (q₁ ++ eg ++ em) ++ (ec ++ q₂) by simp]
  refine before_append (upward_mem _) (fun e he => (ho e (List.mem_append_left _ he)).2.1)
    (before_append_right ?_ fun e he => (ho e (by simp [he])).2.1)
  rcases hec with rfl | ⟨⟨cwd,s',gold,rfl⟩,-⟩
  · exact before_of_forall (by simp)
  · exact candidateRun_run_after_write w cfg cwd _ gold s'

/-- (b) No output file is diffed before the candidate ran. -/
theorem validatorCb_diff_after_run (w : World) (cfg : Config) (s : Sys) :
    Before (fun pre => ∃ r, .run .candidate r ∈ pre) Event.isDiff ((validatorCb w cfg).run s).events := by
  obtain ⟨q₁,eg,em,ec,q₂,hes,hq,heg,hec⟩ := validatorCb_log w cfg s
  have ho := validatorCb_log_outside hq heg
  rw [hes,show q₁ ++ eg ++ em ++ ec ++ q₂ = (q₁ ++ eg ++ em) ++ (ec ++ q₂) by simp]
  refine before_append (upward_exists_mem _) (fun e he => (ho e (List.mem_append_left _ he)).2.2)
    (before_append_right ?_ fun e he => (ho e (by simp [he])).2.2)
  rcases hec with rfl | ⟨⟨cwd,s',gold,rfl⟩,-⟩
  · exact before_of_forall (by simp)
  · exact candidateRun_diff_after_run w cfg cwd _ gold s'

/-- (c) A fork that succeeded is closed exactly once, and before the candidate's bitcode is
written. -/
theorem validatorCb_close_once (w : World) (cfg : Config) (s : Sys)
    (hf : .call .fork true ∈ ((validatorCb w cfg).run s).events) :
    ∃ pre b post, ((validatorCb w cfg).run s).events = pre ++ .call .close b :: post ∧
      .call .fork true ∈ pre ∧ (∀ e ∈ pre ++ post, e.isClose = false) ∧
      ∀ e ∈ pre, e.isCandidateWrite = false := by
  obtain ⟨q₁,eg,em,ec,q₂,hes,hq,heg,hec⟩ := validatorCb_log w cfg s
  have hc : ∀ e ∈ ec, e.isFork = false ∧ e.isClose = false := by
    rcases hec with rfl | ⟨⟨cwd,s',gold,rfl⟩,-⟩
    · simp
    · exact candidateRun_no_fork w cfg cwd _ gold s'
  have hq' : ∀ e ∈ q₁ ++ em ++ q₂, e.isFork = false ∧ e.isClose = false := fun e he => ⟨(hq e he).1,(hq e he).2.1⟩
  have hnf : (∀ e ∈ eg, e = .call .fork false) → False := by
    intro heg'
    rw [hes] at hf
    simp only [List.mem_append] at hf
    rcases hf with (((hf | hf) | hf) | hf) | hf
    · simpa using (hq' (.call .fork true) (by simp [hf])).1
    · simpa using heg' _ hf
    · simpa using (hq' (.call .fork true) (by simp [hf])).1
    · simpa using (hc _ hf).1
    · simpa using (hq' (.call .fork true) (by simp [hf])).1
  rcases heg with rfl | ⟨cwd,s',rfl⟩
  · exact (hnf fun e he => absurd he (List.not_mem_nil e)).elim
  rcases goldStandardRun_events w cfg cwd (expandCommand cfg.cmd w.cbenchData) s' with h | ⟨s'',b,h⟩
  · exact (hnf (by simp [h])).elim
  have hb := goldStandardBody_quiet w cfg cwd (expandCommand cfg.cmd w.cbenchData) s''
  refine ⟨q₁ ++ .call .fork true :: ((goldStandardBody w cfg cwd (expandCommand cfg.cmd w.cbenchData)).run s'').events,
    b,em ++ ec ++ q₂,
    by rw [hes,h]; simp,by simp,?_,?_⟩
  · intro e he
    simp only [List.mem_append,List.mem_cons] at he
    rcases he with (he | rfl | he) | (he | he) | he
    · exact (hq' e (by simp [he])).2
    · rfl
    · exact (hb e he).2.1
    · exact (hq' e (by simp [he])).2
    · exact (hc e he).2
    · exact (hq' e (by simp [he])).2
  · intro e he
    simp only [List.mem_append,List.mem_cons] at he
    rcases he with he | rfl | he
    · exact (hq e (by simp [he])).2.2.1
    · rfl
    · exact (hb e he).2.2.1

/-- One call of `validator_cb`, whatever every collaborator does at every call: (a) the
candidate's bitcode is written only after every required input was found and, when the gold
standard runs, after it exited 0 and every declared output was renamed to its
`.gold_standard` sibling, and the candidate runs only after its bitcode was written; (b) no
output file is diffed before the candidate ran; (c) a fork that succeeded is closed exactly
once, before the candidate's bitcode is written; (d) in a sanitizer stage whose compiler
exited 0, `a.out` is gone when the stage ends, however it ends. -/
theorem validatorCb_effect_order (w : World) (cfg : Config) (s : Sys) :
    Before (fun pre => (∀ f ∈ cfg.inputFiles, w.runtimeData f) ∧
        (cfg.needsGoldStandard → (∃ out t, .run .goldStandard (.ok (.exited 0 out t)) ∈ pre) ∧
          ∀ f ∈ cfg.outputFiles, .rename f (goldStandardName f) ∈ pre))
      Event.isCandidateWrite ((validatorCb w cfg).run s).events ∧
    Before (fun pre => .call (.writeBitcode .candidate) true ∈ pre) Event.isCandidateRun
      ((validatorCb w cfg).run s).events ∧
    Before (fun pre => ∃ r, .run .candidate r ∈ pre) Event.isDiff ((validatorCb w cfg).run s).events ∧
    (.call .fork true ∈ ((validatorCb w cfg).run s).events →
      ∃ pre b post, ((validatorCb w cfg).run s).events = pre ++ .call .close b :: post ∧
        .call .fork true ∈ pre ∧ (∀ e ∈ pre ++ post, e.isClose = false) ∧
        ∀ e ∈ pre, e.isCandidateWrite = false) ∧
    ∀ (role : Role) (cwd cmd : String) (linkopts : List String) (env : Dict) (numRuns : ℕ)
      (san : LlvmSanitizer) (ts cts : ℕ) (s' : Sys) (out : String) (t : ℕ),
      .compile (.ok (.exited 0 out t)) ∈
          ((compileAndRunBitcodeFile w role cwd cmd linkopts env numRuns (some san) ts cts).run s').events →
        ((compileAndRunBitcodeFile w role cwd cmd linkopts env numRuns (some san) ts cts).run s').cwd "a.out" =
          none :=
  ⟨validatorCb_write_after_gold w cfg s,validatorCb_run_after_write w cfg s,validatorCb_diff_after_run w cfg s,
    validatorCb_close_once w cfg s,fun role cwd cmd linkopts env numRuns san ts cts s' _ _ h =>
      compileAndRun_binary_removed w role cwd cmd linkopts env numRuns san ts cts s' h⟩

end CbenchValidation
