import JobShell.Proofs.Prog.Trace
import JobShell.Session.Basic

/-! # Behind a line

What a session does with the result of a line before it goes on to the next. A failure is said, and what the line has
printed is written out. Either may be refused, and then the session is over. -/

namespace JobShell.Session
open Prog

/-- The calls behind a line with a result, and what the session goes on with or stops for. A message that is refused is a
panic, unless the standard error is closed. -/
inductive Settles : Except Failure Flow → List Event → Except Stop Flow → Prop
  | written {flow : Flow} : Settles (.ok flow) [⟨.flush, .ok ()⟩] (.ok flow)
  | unwritten {flow : Flow} {e : Errno} : Settles (.ok flow) [⟨.flush, .error e⟩] (.error (.failure (.system e)))
  | said {f : Failure} {r : Except Errno Nat} (hr : ∀ e, r = .error e → e = .badDescriptor) :
      Settles (.error f) [⟨.write 2 (Text.encode ("pish: ".toList ++ f.message ++ ['\n'])), r⟩, ⟨.flush, .ok ()⟩]
        (.ok .proceed)
  | saidUnwritten {f : Failure} {r : Except Errno Nat} {e : Errno} (hr : ∀ e, r = .error e → e = .badDescriptor) :
      Settles (.error f) [⟨.write 2 (Text.encode ("pish: ".toList ++ f.message ++ ['\n'])), r⟩, ⟨.flush, .error e⟩]
        (.error (.failure (.system e)))
  | unsaid {f : Failure} {e : Errno} (he : e ≠ .badDescriptor) :
      Settles (.error f) [⟨.write 2 (Text.encode ("pish: ".toList ++ f.message ++ ['\n'])), .error e⟩] (.error .panic)

variable {trace : List Event}

/-- What has been printed is written out, and then there is nothing but the flow. -/
theorem runs_flush_iff {flow : Flow} {r : Except Stop Flow} :
    Runs (Output.flush >>= fun _ => pure flow : Stoppable Flow).run trace r ↔
      (trace = [⟨.flush, .ok ()⟩] ∧ r = .ok flow) ∨
      ∃ e, trace = [⟨.flush, .error e⟩] ∧ r = .error (.failure (.system e)) := by
  constructor
  · intro h
    obtain ⟨e | _, t, rfl, hend⟩ := runs_call_iff.mp h
    · obtain ⟨rfl, rfl⟩ := runs_done_iff.mp hend
      exact .inr ⟨e, rfl, rfl⟩
    · obtain ⟨rfl, rfl⟩ := runs_done_iff.mp hend
      exact .inl ⟨rfl, rfl⟩
  · rintro (⟨rfl, rfl⟩ | ⟨e, rfl, rfl⟩) <;> exact .call (.done _)

theorem runs_report_iff {f : Failure} {r : Except Stop Unit} : Runs (Output.report f).run trace r ↔
    ∃ reply, trace = [⟨.write 2 (Text.encode ("pish: ".toList ++ f.message ++ ['\n'])), reply⟩] ∧
      (((∀ e, reply = .error e → e = .badDescriptor) ∧ r = .ok ()) ∨
        ∃ e, reply = .error e ∧ e ≠ .badDescriptor ∧ r = .error .panic) := by
  constructor
  · intro h
    obtain ⟨e | n, t, rfl, hend⟩ := runs_call_iff.mp h
    · obtain ⟨rfl, rfl⟩ := runs_done_iff.mp hend
      by_cases he : e = .badDescriptor
      · exact ⟨.error e, rfl, .inl ⟨fun e' he' => by cases he'; exact he, if_pos he⟩⟩
      · exact ⟨.error e, rfl, .inr ⟨e, rfl, he, if_neg he⟩⟩
    · obtain ⟨rfl, rfl⟩ := runs_done_iff.mp hend
      exact ⟨.ok n, rfl, .inl ⟨nofun, rfl⟩⟩
  · rintro ⟨e | n, rfl, ⟨hr, rfl⟩ | ⟨e', he, hne, rfl⟩⟩
    · exact .call (runs_done_iff.mpr ⟨rfl, (if_pos (hr e rfl)).symm⟩)
    · cases he
      exact .call (runs_done_iff.mpr ⟨rfl, (if_neg hne).symm⟩)
    · exact .call (.done _)
    · cases he

theorem runs_settle_iff {result : Except Failure Flow} {flow : Except Stop Flow} :
    Runs (settle result).run trace flow ↔ Settles result trace flow := by
  cases result with
  | ok flow' =>
    refine runs_flush_iff.trans ⟨?_, fun h => ?_⟩
    · rintro (⟨rfl, rfl⟩ | ⟨e, rfl, rfl⟩)
      · exact .written
      · exact .unwritten
    · cases h with
      | written => exact .inl ⟨rfl, rfl⟩
      | unwritten => exact .inr ⟨_, rfl, rfl⟩
  | error f =>
    refine runs_run_bind_iff.trans ⟨?_, fun h => ?_⟩
    · rintro (⟨_, hreport, rfl⟩ | ⟨_, _, _, rfl, hreport, hflush⟩)
      · obtain ⟨_, rfl, ⟨-, he⟩ | ⟨e, rfl, hne, he⟩⟩ := runs_report_iff.mp hreport
        · cases he
        · cases he
          exact .unsaid hne
      · obtain ⟨_, rfl, ⟨hr, -⟩ | ⟨-, -, -, he⟩⟩ := runs_report_iff.mp hreport
        · rcases runs_flush_iff.mp hflush with ⟨rfl, rfl⟩ | ⟨e, rfl, rfl⟩
          · exact .said hr
          · exact .saidUnwritten hr
        · cases he
    · cases h with
      | said hr =>
        exact .inr ⟨_, _, _, rfl, runs_report_iff.mpr ⟨_, rfl, .inl ⟨hr, rfl⟩⟩, runs_flush_iff.mpr (.inl ⟨rfl, rfl⟩)⟩
      | saidUnwritten hr =>
        exact .inr ⟨_, _, _, rfl, runs_report_iff.mpr ⟨_, rfl, .inl ⟨hr, rfl⟩⟩, runs_flush_iff.mpr (.inr ⟨_, rfl, rfl⟩)⟩
      | unsaid he => exact .inl ⟨_, runs_report_iff.mpr ⟨_, rfl, .inr ⟨_, rfl, he, rfl⟩⟩, rfl⟩

end JobShell.Session
