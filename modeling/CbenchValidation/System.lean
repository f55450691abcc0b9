import CbenchValidation.Text
import CbenchValidation.Utf8

/-! The system one validation callback runs against: the scratch working directory, a
ghost log of the effects performed, Python exceptions, and the collaborators (the
environment, the compiler and benchmark processes, `diff`) whose behaviour is left open.
A computation `Py α` threads the state and may raise; a raised exception keeps the state,
so the effects done before it stay visible. -/
namespace CbenchValidation

/-- Python exceptions the validation code raises or lets propagate. -/
inductive Exc
  | fileNotFound (msg : String)
  | assertion
  | timeoutExpired
  | timeoutError
  | unboundLocal (name : String)
  | other (name : String)
  deriving DecidableEq, Repr, Inhabited

inductive Datum
  | str (s : String)
  | strs (l : List String)
  | int (n : ℤ)
  | null
  deriving DecidableEq, Repr

structure ValidationError where
  type : String
  data : List (String × Datum)
  deriving DecidableEq, Repr

/-- `BenchmarkExecutionResult`. Wall times are whole seconds here. -/
structure BenchmarkExecutionResult where
  walltimeSeconds : ℕ
  error : Option ValidationError := none
  output : Option String := none
  deriving DecidableEq, Repr

inductive LlvmSanitizer
  | asan | tsan | msan | ubsan
  deriving DecidableEq, Repr

abbrev Dict := List (String × String)

def Dict.set (d : Dict) (k v : String) : Dict :=
  if d.any (·.1 == k) then d.map fun p => if p.1 == k then (k,v) else p else d ++ [(k,v)]

def Dict.update (d e : Dict) : Dict := e.foldl (fun d p => d.set p.1 p.2) d

abbrev Dir := String → Option Bytes

/-- How `communicate(timeout=...)` returned: the process exceeded the timeout and was
killed and reaped, or it exited with a return code, its output and the elapsed time. -/
inductive Finished (σ : Type)
  | timedOut
  | exited (code : ℤ) (out : σ) (elapsed : ℕ)

/-- What a process did: `Popen` or `communicate` raised (a killed process that is not
reaped within the grace period raises `TimeoutExpired`), or it finished. -/
abbrev ProcResult (σ : Type) := Except Exc (Finished σ)

/-- Which run of a validation attempt a process belongs to; ghost data that lets the
log tell the gold-standard run from the candidate run. -/
inductive Role
  | goldStandard | candidate
  deriving DecidableEq, Repr

inductive Call
  | download | makeTemp | preExecution | fork | reset | writeBitcode (r : Role) | close | hook

inductive Event
  | call (c : Call) (ok : Bool)
  | writeFile (name : String)
  | compile (r : ProcResult String)
  | run (role : Role) (r : ProcResult Bytes)
  | unlink (name : String)
  | rename (name target : String)
  | diff (name : String)
  | removeTemp

structure Sys where
  cwd : Dir
  log : List Event

inductive Args
  | shell (cmd : String)
  | argv (args : List String)

structure Popen where
  args : Args
  env : Dict
  cwd : Option String

/-- The collaborators of a validation callback. Every answer may depend on the whole
state, the log included, so a collaborator may behave differently at every call. -/
structure World where
  /-- `download_cBench_runtime_data()` under the thread lock and the file lock. -/
  download : Sys → Except Exc Unit
  /-- `site_data_path("llvm-v0/cbench-v1-runtime-data/runtime_data")`. -/
  cbenchData : String
  /-- `(cbench_data / name).is_file()`. -/
  runtimeData : String → Bool
  /-- `tempfile.TemporaryDirectory(dir=...)`: the new directory's path. -/
  makeTemp : Sys → Except Exc String
  benchmark : String
  fork : Sys → Except Exc Unit
  reset : Sys → Except Exc Unit
  writeBitcode : Role → Sys → Except Exc Unit
  /-- The bitcode `write_bitcode` writes: the reset benchmark's or the environment's. -/
  bitcode : Role → Bytes
  close : Sys → Except Exc Unit
  compile : Popen → Sys → ProcResult String × Dir
  run : Role → Popen → Sys → ProcResult Bytes × Dir
  diff : List String → Sys → Except Exc (ℤ × Bytes)
  /-- What `diff a b` prints for the paths `a` and `b` when they differ, from the two files'
  contents (`none` for a missing file); the `diff` of a scenario's world prints it. -/
  diffOutput : String → String → Option Bytes → Option Bytes → Bytes
  environ : String → Option String
  clangPath : String
  lliPath : String
  darwin : Bool
  deriving Inhabited

/-- What a computation did from a state: how it ended, the working directory it left and
the events it appended. A computation only appends to the log. -/
structure Outcome (α : Type) where
  result : Except Exc α
  cwd : Dir
  events : List Event

def Sys.after {α : Type} (s : Sys) (o : Outcome α) : Sys := ⟨o.cwd,s.log ++ o.events⟩

structure Py (α : Type) where
  run : Sys → Outcome α

namespace Py

variable {α β : Type}

protected def pure (a : α) : Py α := ⟨fun s => ⟨.ok a,s.cwd,[]⟩⟩

protected def bind (x : Py α) (f : α → Py β) : Py β :=
  ⟨fun s => match (x.run s).result with
    | .ok a => ⟨((f a).run (s.after (x.run s))).result,((f a).run (s.after (x.run s))).cwd,
        (x.run s).events ++ ((f a).run (s.after (x.run s))).events⟩
    | .error e => ⟨.error e,(x.run s).cwd,(x.run s).events⟩⟩

instance : Monad Py where
  pure := Py.pure
  bind := Py.bind

def raise (e : Exc) : Py α := ⟨fun s => ⟨.error e,s.cwd,[]⟩⟩

/-- `try: body finally: fin`; an exception of `fin` replaces the body's outcome. -/
def tryFinally (body : Py α) (fin : Py Unit) : Py α :=
  ⟨fun s => let o := body.run s; let o' := fin.run (s.after o)
    ⟨match o'.result with
      | .ok _ => o.result
      | .error e => .error e,o'.cwd,o.events ++ o'.events⟩⟩

def emit (e : Event) : Py Unit := ⟨fun s => ⟨.ok (),s.cwd,[e]⟩⟩

def call (c : Call) (f : Sys → Except Exc α) : Py α :=
  ⟨fun s => ⟨f s,s.cwd,[.call c (f s).toBool]⟩⟩

def isFile (name : String) : Py Bool := ⟨fun s => ⟨.ok (s.cwd name).isSome,s.cwd,[]⟩⟩

def writeFile (name : String) (b : Bytes) : Py Unit :=
  ⟨fun s => ⟨.ok (),Function.update s.cwd name (some b),[.writeFile name]⟩⟩

/-- `Path.unlink()`: raises `FileNotFoundError` when the file is missing. -/
def unlink (name : String) : Py Unit :=
  ⟨fun s => ⟨if (s.cwd name).isSome then .ok () else .error (.fileNotFound name),
    Function.update s.cwd name none,[.unlink name]⟩⟩

def rename (name target : String) : Py Unit :=
  ⟨fun s => ⟨.ok (),Function.update (Function.update s.cwd target (s.cwd name)) name none,
    [.rename name target]⟩⟩

def get : Py Sys := ⟨fun s => ⟨.ok s,s.cwd,[]⟩⟩

def assert (b : Bool) : Py Unit := ⟨fun s => ⟨if b then .ok () else .error .assertion,s.cwd,[]⟩⟩

def ofExcept (r : Except Exc α) : Py α := ⟨fun s => ⟨r,s.cwd,[]⟩⟩

/-- One `Popen(...).communicate(...)`: the process's answer, logged, and the files it
leaves; `Popen` failures and an unreaped killed process raise. -/
def process {σ : Type} (f : Sys → ProcResult σ × Dir) (ev : ProcResult σ → Event) :
    Py (Finished σ) :=
  ⟨fun s => ⟨(f s).1,(f s).2,[ev (f s).1]⟩⟩

/-- Entering `tempfile.TemporaryDirectory(...)`: a new, empty working directory. -/
def makeTemp (f : Sys → Except Exc String) : Py String :=
  ⟨fun s => match f s with
    | .ok d => ⟨.ok d,fun _ => none,[.call .makeTemp true]⟩
    | .error e => ⟨.error e,s.cwd,[.call .makeTemp false]⟩⟩

def removeTemp : Py Unit := ⟨fun _ => ⟨.ok (),fun _ => none,[.removeTemp]⟩⟩

def onDir (c : Call) (f : Dir → Except Exc Dir) : Py Unit :=
  ⟨fun s => match f s.cwd with
    | .ok d => ⟨.ok (),d,[.call c true]⟩
    | .error e => ⟨.error e,s.cwd,[.call c false]⟩⟩

@[simp] theorem run_pure (a : α) (s : Sys) : (pure a : Py α).run s = ⟨.ok a,s.cwd,[]⟩ := rfl

theorem run_bind (x : Py α) (f : α → Py β) (s : Sys) :
    (x >>= f).run s = match (x.run s).result with
      | .ok a => ⟨((f a).run (s.after (x.run s))).result,((f a).run (s.after (x.run s))).cwd,
          (x.run s).events ++ ((f a).run (s.after (x.run s))).events⟩
      | .error e => ⟨.error e,(x.run s).cwd,(x.run s).events⟩ := rfl

@[simp] theorem result_bind (x : Py α) (f : α → Py β) (s : Sys) :
    ((x >>= f).run s).result = match (x.run s).result with
      | .ok a => ((f a).run (s.after (x.run s))).result
      | .error e => .error e := by
  rw [run_bind]; split <;> rfl

@[simp] theorem cwd_bind (x : Py α) (f : α → Py β) (s : Sys) :
    ((x >>= f).run s).cwd = match (x.run s).result with
      | .ok a => ((f a).run (s.after (x.run s))).cwd
      | .error _ => (x.run s).cwd := by
  rw [run_bind]; split <;> rfl

@[simp] theorem events_bind (x : Py α) (f : α → Py β) (s : Sys) :
    ((x >>= f).run s).events = (x.run s).events ++ match (x.run s).result with
      | .ok a => ((f a).run (s.after (x.run s))).events
      | .error _ => [] := by
  rw [run_bind]; split <;> simp

theorem run_bind_ok {x : Py α} {f : α → Py β} {s : Sys} {a : α} (h : (x.run s).result = .ok a) :
    (x >>= f).run s =
      ⟨((f a).run (s.after (x.run s))).result,((f a).run (s.after (x.run s))).cwd,
        (x.run s).events ++ ((f a).run (s.after (x.run s))).events⟩ := by
  rw [run_bind,h]

theorem mem_events_bind {x : Py α} {f : α → Py β} {s : Sys} {e : Event}
    (he : e ∈ ((x >>= f).run s).events) : e ∈ (x.run s).events ∨ ∃ a s', e ∈ ((f a).run s').events := by
  rw [events_bind,List.mem_append] at he
  rcases he with he | he
  · exact .inl he
  · split at he
    · exact .inr ⟨_,_,he⟩
    · exact absurd he (List.not_mem_nil e)

theorem result_bind_eq_ok {x : Py α} {f : α → Py β} {s : Sys} {b : β}
    (h : ((x >>= f).run s).result = .ok b) :
    ∃ a, (x.run s).result = .ok a ∧ ((f a).run (s.after (x.run s))).result = .ok b := by
  rw [result_bind] at h
  split at h
  · exact ⟨_,‹_›,h⟩
  · cases h

theorem mem_events_bind_of_ok {x : Py α} {f : α → Py β} {s : Sys} {a : α} {e : Event}
    (h : (x.run s).result = .ok a) (he : e ∈ ((f a).run (s.after (x.run s))).events) :
    e ∈ ((x >>= f).run s).events := by
  rw [run_bind_ok h]
  exact List.mem_append_right _ he

@[simp] theorem run_raise (e : Exc) (s : Sys) : (raise e : Py α).run s = ⟨.error e,s.cwd,[]⟩ := rfl
@[simp] theorem run_emit (e : Event) (s : Sys) : (emit e).run s = ⟨.ok (),s.cwd,[e]⟩ := rfl
@[simp] theorem run_call (c : Call) (f : Sys → Except Exc α) (s : Sys) :
    (call c f).run s = ⟨f s,s.cwd,[.call c (f s).toBool]⟩ := rfl
@[simp] theorem run_isFile (name : String) (s : Sys) :
    (isFile name).run s = ⟨.ok (s.cwd name).isSome,s.cwd,[]⟩ := rfl
@[simp] theorem run_writeFile (name : String) (b : Bytes) (s : Sys) :
    (writeFile name b).run s = ⟨.ok (),Function.update s.cwd name (some b),[.writeFile name]⟩ := rfl
@[simp] theorem run_unlink (name : String) (s : Sys) :
    (unlink name).run s = ⟨if (s.cwd name).isSome then .ok () else .error (.fileNotFound name),
      Function.update s.cwd name none,[.unlink name]⟩ := rfl
@[simp] theorem run_rename (name target : String) (s : Sys) :
    (rename name target).run s = ⟨.ok (),Function.update (Function.update s.cwd target (s.cwd name)) name none,
      [.rename name target]⟩ := rfl
@[simp] theorem run_get (s : Sys) : get.run s = ⟨.ok s,s.cwd,[]⟩ := rfl
@[simp] theorem run_assert (b : Bool) (s : Sys) :
    (assert b).run s = ⟨if b then .ok () else .error .assertion,s.cwd,[]⟩ := rfl
@[simp] theorem run_ofExcept (r : Except Exc α) (s : Sys) : (ofExcept r).run s = ⟨r,s.cwd,[]⟩ := rfl
@[simp] theorem run_process {σ : Type} (f : Sys → ProcResult σ × Dir) (ev : ProcResult σ → Event)
    (s : Sys) : (process f ev).run s = ⟨(f s).1,(f s).2,[ev (f s).1]⟩ := rfl
@[simp] theorem run_makeTemp (f : Sys → Except Exc String) (s : Sys) :
    (makeTemp f).run s = match f s with
      | .ok d => ⟨.ok d,fun _ => none,[.call .makeTemp true]⟩
      | .error e => ⟨.error e,s.cwd,[.call .makeTemp false]⟩ := rfl
@[simp] theorem run_onDir (c : Call) (f : Dir → Except Exc Dir) (s : Sys) :
    (onDir c f).run s = match f s.cwd with
      | .ok d => ⟨.ok (),d,[.call c true]⟩
      | .error e => ⟨.error e,s.cwd,[.call c false]⟩ := rfl
@[simp] theorem run_removeTemp (s : Sys) : removeTemp.run s = ⟨.ok (),fun _ => none,[.removeTemp]⟩ := rfl
@[simp] theorem run_tryFinally (body : Py α) (fin : Py Unit) (s : Sys) :
    (tryFinally body fin).run s =
      ⟨match (fin.run (s.after (body.run s))).result with
        | .ok _ => (body.run s).result
        | .error e => .error e,
        (fin.run (s.after (body.run s))).cwd,(body.run s).events ++ (fin.run (s.after (body.run s))).events⟩ :=
  rfl

theorem result_tryFinally_eq_ok {body : Py α} {fin : Py Unit} {s : Sys} {a : α}
    (h : ((tryFinally body fin).run s).result = .ok a) : (body.run s).result = .ok a := by
  rw [run_tryFinally] at h
  split at h
  · exact h
  · cases h

@[simp] theorem after_mk (s : Sys) (r : Except Exc α) (d : Dir) (es : List Event) :
    s.after ⟨r,d,es⟩ = ⟨d,s.log ++ es⟩ := rfl

@[simp] theorem after_cwd (s : Sys) (o : Outcome α) : (s.after o).cwd = o.cwd := rfl

end Py
end CbenchValidation
