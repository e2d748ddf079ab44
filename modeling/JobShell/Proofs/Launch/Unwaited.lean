import JobShell.Proofs.Line.Rules
import JobShell.Proofs.Prog.Trace

/-! # Launches that do not wait

A launch that ends with a job has waited for no process, whatever its calls were replied to. -/

namespace JobShell

/-- The call waits for a process. -/
def Call.waits : Call → Bool
  | .wait _ _ => true
  | _ => false

/-- What is known is whether a wait was made. -/
def watching : Contract Bool where
  pre c P k := ∀ r, P r (k || c.waits)
  mono hPQ h r := hPQ r _ (h r)

variable {α : Type} {k : Bool}

theorem ignores_of_not_waits {c : Call} (h : c.waits = false) : watching.Ignores c := fun {P k} hP r => by
  rw [h, Bool.or_false]
  exact hP r

/-- Nothing is asked of a program of which nothing is to be known. -/
theorem ensures_watching_true (p : Prog α) (k : Bool) : p.Ensures watching (fun _ _ => True) k := by
  induction p generalizing k with
  | done a => trivial
  | call c next ih => exact fun r => ih r _
  | loop body s next ihb ihn =>
    refine ⟨fun _ _ => True, trivial, fun s k _ => (ihb s k).mono fun x k' _ => ?_⟩
    cases x with
    | inl s => trivial
    | inr b => exact ihn b k'

theorem Prog.Ensures.runs {p : Prog α} {Q : α → Bool → Prop} {trace : List Prog.Event} {a : α}
    (hp : p.Ensures watching Q k) (h : Prog.Runs p trace a) : Q a (k || trace.any fun e => e.call.waits) := by
  induction h generalizing k with
  | done a =>
    rw [List.any_nil, Bool.or_false]
    exact hp
  | @call c next r trace a _ ih => simpa [Bool.or_assoc] using ih (hp r)
  | loop _ ih => exact ih hp.unroll

theorem eq_wait_of_refusal? {pid : Pid} {e : Errno} {f : Failure} (h : refusal? pid e = some (.error f)) :
    f = .wait pid e := by
  unfold refusal? at h
  split_ifs at h
  · cases h
  · cases h
    rfl

/-- A wait fails only because a wait was refused. -/
theorem ensures_waitFor_failure (pid : Pid) :
    (waitFor pid).Ensures watching (fun r _ => ∀ f, r = .error f → ∃ e, f = .wait pid e) k := by
  refine ensures_waitFor_of (fun _ => True) trivial fun k _ r => ?_
  dsimp only
  cases hr : waited? pid r with
  | none => trivial
  | some answer =>
    rintro f rfl
    rcases r with e | report
    · exact ⟨e, eq_wait_of_refusal? hr⟩
    · rw [waited?] at hr
      cases hreport : report.named with
      | error e =>
        rw [hreport] at hr
        exact ⟨e, eq_wait_of_refusal? hr⟩
      | ok change =>
        rw [hreport] at hr
        obtain ⟨status, -, he⟩ := Option.map_eq_some_iff.mp hr
        cases he

namespace Launch

theorem ensures_spawn_watching (grouped : Bool) (stages : List Invocation) (k : Bool) :
    (spawn grouped stages).Ensures watching (fun r k' => ∀ pids, r = .ok pids → k' = k) k := by
  refine Prog.ensures_bind ((@ensures_spawnStages_of_invariant _ _ _ (fun _ _ k' => k' = k) (ignores_of_not_waits rfl)
    (fun _ => ignores_of_not_waits rfl) ?_ [] _ _ _ rfl).mono ?_)
  · rintro pids w _ i rfl
    refine ensures_start_of (fun _ _ => ignores_of_not_waits rfl) (ignores_of_not_waits rfl fun r => ?_)
    rcases r with e | _ | pid
    · rfl
    · exact ensures_watching_true _ _
    · rfl
  · rintro ⟨pids, f⟩ _ ⟨⟨-, rfl⟩, -⟩
    cases f with
    | none => exact Prog.ensures_pure fun _ _ => rfl
    | some f =>
      exact Prog.ensures_bind ((ensures_watching_true _ _).mono fun _ _ _ => Prog.ensures_pure fun _ he => by cases he)

theorem ensures_background_watching (text : Text) (stages : List Invocation) (k : Bool) :
    (background text stages).Ensures watching (fun r k' => ∀ job, r = .ok (.background job) → k' = k) k := by
  refine Prog.ensures_perform (ignores_of_not_waits rfl fun _ => ?_)
  refine Prog.ensures_bind ((ensures_spawn_watching true stages k).mono ?_)
  rintro (f | _ | ⟨first, rest⟩) k₁ h₁
  · exact Prog.ensures_perform (ignores_of_not_waits rfl fun _ => Prog.ensures_pure fun _ he => by cases he)
  · exact Prog.ensures_perform (ignores_of_not_waits rfl fun _ => Prog.ensures_pure fun _ he => by cases he)
  · exact Prog.ensures_perform (ignores_of_not_waits rfl fun _ => Prog.ensures_pure fun _ _ => h₁ _ rfl)

/-- What is waited for is no job. -/
theorem ensures_foreground_watching (stages : List Invocation) (k : Bool) :
    (foreground stages).Ensures watching (fun r _ => ∀ job, r ≠ .ok (.background job)) k := by
  refine Prog.ensures_bind ((ensures_watching_true _ k).mono ?_)
  rintro (f | pids) k₁ -
  · exact Prog.ensures_pure fun _ he => by cases he
  · refine Prog.ensures_bind ((ensures_watching_true _ k₁).mono ?_)
    rintro (f | statuses) k₂ -
    · exact Prog.ensures_pure fun _ he => by cases he
    · exact Prog.ensures_pure fun _ he => by cases he

theorem launch_background_unwaited {p : Pipeline} {trace : List Prog.Event} {job : Job}
    (h : Prog.Runs (launch p) trace (.ok (.background job))) : ∀ e ∈ trace, e.call.waits = false := by
  have hlaunch : (launch p).Ensures watching (fun r k' => ∀ job, r = .ok (.background job) → k' = false) false := by
    refine ensures_launch_of (fun _ _ _ => rfl) (fun _ _ _ _ => rfl) fun stages _ _ _ => ?_
    split
    · exact ensures_background_watching p.text stages false
    · exact (ensures_foreground_watching stages false).mono fun _ _ hr job he => absurd he (hr job)
  have hnone := hlaunch.runs h job rfl
  rw [Bool.false_or] at hnone
  exact fun e he => Bool.eq_false_iff.mpr (List.any_eq_false.mp hnone e he)

end Launch

end JobShell
