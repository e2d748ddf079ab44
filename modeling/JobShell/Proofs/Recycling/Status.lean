import JobShell.Proofs.Recycling.Run

/-! # The status of a pipeline in the foreground

The interpreter waits for every stage, but the reaper may collect a stage before it. The end of the stage is then
unknown, and an unknown end of the last stage counts as success. -/

namespace JobShell.Recycling
open Threads (Thread)

variable {shell : Shell} {home : Pid} {others : Set Pid} {s : System}

/-- Whatever the stages end with and whoever collects them: a pipeline in the foreground that is evaluated without a
failure has forked one child for each stage. The last of them was collected. If the reaper has done so, the status is 0;
if the interpreter has, the status is the code of the child's end, or 0 if the reaper has collected an earlier stage that
had the same pid. -/
theorem foreground_status (h : System.Reaches (.start shell home others) s) {r : Finished} (hr : r ∈ s.finished)
    {p : Pipeline} {flow : Flow} (hp : Foreground shell.limits r.line p) (hok : r.result = .ok flow) :
    r.next = r.first + p.stages.length ∧
    ∃ last x θ, s.children[r.next - 1]? = some last ∧ last.phase = .collected x θ ∧
      match θ with
      | .reaper => r.status = 0
      | .interpreter => r.status = x.code ∨ r.status = 0 ∧ ∃ i c y, r.first ≤ i ∧ i + 1 < r.next ∧
          s.children[i]? = some c ∧ c.pid = last.pid ∧ c.phase = .collected y .reaper := by
  obtain ⟨n, k, g, hs⟩ := sound_reaches h
  obtain ⟨hnext, pid, x, θ, hpid, hx, hstatus⟩ := hs.reported r hr p flow hp hok
  obtain ⟨last, hlast, hphase⟩ := family_fate?_eq_some_iff.mp hx
  rw [family_pids hlast] at hpid
  cases hpid
  refine ⟨hnext, last, x, θ, hlast, hphase, ?_⟩
  cases θ with
  | reaper => exact hstatus
  | interpreter =>
    refine hstatus.imp_right fun ⟨h0, i, y, hi, hin, hip, hiy⟩ => ?_
    obtain ⟨c, hc, hy⟩ := family_fate?_eq_some_iff.mp hiy
    rw [family_pids hc] at hip
    exact ⟨h0, i, c, y, hi, hin, hc, Option.some.inj hip, hy⟩

/-! ### A stage that the reaper collects -/

def onlyShell : Shell := { limits := {} }

def onlyLine : Text := ['a']

/-- The only stage exits with 3, the reaper collects it, and the interpreter finds no child to wait for. -/
theorem reaches_lostStatus : ∃ s, System.Reaches (.start onlyShell 7 ∅) s ∧
    s.children = [⟨71, 7, .collected (.exited 3) .reaper⟩] ∧
    s.finished = [⟨⟨onlyLine, 0⟩, 1, .ok .proceed, 0⟩] ∧ s.shell.status = 0 := by
  have h : System.Reaches (.start onlyShell 7 ∅) (.start onlyShell 7 ∅) := .refl
  replace h := h.tail (.enter onlyLine rfl)
  replace h := h.tail (step_line .fork (.ok (.parent 71) : Except Errno Forked)
    ⟨⟨by decide, by decide, id, fun _ hc => absurd hc List.not_mem_nil⟩, rfl⟩)
  replace h := h.tail (@System.Step.ends _ 0 _ (.exited 3) rfl rfl)
  replace h := h.tail (.delivers rfl)
  replace h := h.tail (.repeatReap rfl)
  replace h := h.tail (step_reap .awaitNotice .childChanged ⟨rfl, rfl⟩)
  replace h := h.tail (.repeatReap rfl)
  replace h := h.tail (step_reap (.wait (-1) false) (.ok (.exited 71 3) : Except Errno Report)
    (@Waited.collects _ _ _ _ 0 _ (.exited 3) _ rfl rfl (.inl rfl) ⟨rfl, rfl⟩))
  replace h := h.tail (.repeatLine rfl)
  replace h := h.tail (step_line (.wait 71 true) (.error .noChild : Except Errno Report)
    (.noChild fun c hc _ => by rw [List.mem_singleton.mp hc]; exact ⟨_, _, rfl⟩))
  replace h := h.tail (.finish rfl)
  exact ⟨_, h, rfl, rfl, rfl⟩

theorem foreground_onlyLine : Foreground onlyShell.limits onlyLine ⟨[⟨[['a']], none, none, by simp⟩], false⟩ :=
  ⟨rfl, rfl, rfl, List.cons_ne_nil _ _⟩

theorem foreground_status_lostStatus : ∃ s r p flow, System.Reaches (.start onlyShell 7 ∅) s ∧ r ∈ s.finished ∧
    Foreground onlyShell.limits r.line p ∧ r.result = .ok flow ∧ r.next = r.first + p.stages.length ∧
    ∃ last x, s.children[r.next - 1]? = some last ∧ last.phase = .collected x .reaper ∧ r.status = 0 := by
  obtain ⟨s, h, hc, hf, -⟩ := reaches_lostStatus
  have hr : (⟨⟨onlyLine, 0⟩, 1, .ok .proceed, 0⟩ : Finished) ∈ s.finished := by
    rw [hf]
    exact List.mem_cons_self
  obtain ⟨hnext, last, x, θ, hlast, hx, hstatus⟩ := foreground_status h hr foreground_onlyLine rfl
  have hlast' := hlast
  rw [hc] at hlast'
  cases hlast'
  cases hx
  exact ⟨s, _, _, _, h, hr, foreground_onlyLine, rfl, hnext, _, _, hlast, rfl, hstatus⟩

/-- The last stage of a line exits with 3, and the status behind the line is 0. -/
theorem foreground_status_unknown : ∃ s r p flow last x, System.Reaches (.start onlyShell 7 ∅) s ∧ r ∈ s.finished ∧
    Foreground onlyShell.limits r.line p ∧ r.result = .ok flow ∧ r.next = r.first + p.stages.length ∧
    s.children[r.next - 1]? = some last ∧ (∃ θ, last.phase = .collected x θ) ∧ r.status ≠ x.code := by
  obtain ⟨s, h, hc, hf, -⟩ := reaches_lostStatus
  refine ⟨s, ⟨⟨onlyLine, 0⟩, 1, .ok .proceed, 0⟩, _, .proceed, ⟨71, 7, .collected (.exited 3) .reaper⟩, .exited 3, h, ?_,
    foreground_onlyLine, rfl, rfl, ?_, ⟨_, rfl⟩, by decide⟩
  · rw [hf]
    exact List.mem_cons_self
  · rw [hc]
    rfl

end JobShell.Recycling
