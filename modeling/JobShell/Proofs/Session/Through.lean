import JobShell.Proofs.Session.Lines
import JobShell.Session.Basic

/-! # Sessions over bytes

A session over bytes that are all there does what it does to their lines, one after the other: the reading of a line
makes no call, so that nothing is seen of it. Over lines, a session is a recursion, and what is behind some of the lines
can be done in a session of its own. -/

namespace JobShell.Session
variable {σ : Type}

/-- A session over all of some bytes: its answer, and the shell at its end. -/
def through (eval : σ → Text → Prog (Except Failure Flow × σ)) (shell : σ) (bytes : Bytes) :
    Prog (Except Stop (Option Int) × σ) := do
  let (result, state) ← all Source.next eval ⟨Source.ofBytes bytes, shell⟩
  return (result, state.shell)

/-- One session, and another behind it if the first has not been ended before its lines have. -/
def followedBy (first : Prog (Except Stop (Option Int) × σ)) (second : σ → Prog (Except Stop (Option Int) × σ)) :
    Prog (Except Stop (Option Int) × σ) := do
  match ← first with
  | (.ok none, shell) => second shell
  | (result, shell) => return (result, shell)

/-- A session over lines that have been read. -/
def throughLines (eval : σ → Text → Prog (Except Failure Flow × σ)) (shell : σ) :
    List Bytes → Prog (Except Stop (Option Int) × σ)
  | [] => return (.ok none, shell)
  | line :: lines =>
    match Source.textOf line with
    | .error f => return (.error (.failure f), shell)
    | .ok text => do
      let (flow, shell) ← feed eval shell text
      match flow with
      | .error stop => return (.error stop, shell)
      | .ok (.exit code) => return (.ok (some code), shell)
      | .ok .proceed => throughLines eval shell lines

variable {eval : σ → Text → Prog (Except Failure Flow × σ)}

theorem followedBy_unfolds {first first' : Prog (Except Stop (Option Int) × σ)}
    {second second' : σ → Prog (Except Stop (Option Int) × σ)} (hf : first.Unfolds first')
    (hs : ∀ shell, (second shell).Unfolds (second' shell)) :
    (followedBy first second).Unfolds (followedBy first' second') := by
  refine (hf.bind_left _).trans (.bind first' ?_)
  rintro ⟨_ | _ | code, shell⟩
  · exact .refl _
  · exact hs shell
  · exact .refl _

theorem throughLines_append (shell : σ) (first second : List Bytes) : throughLines eval shell (first ++ second) =
    followedBy (throughLines eval shell first) fun shell => throughLines eval shell second := by
  induction first generalizing shell with
  | nil => rfl
  | cons line lines ih =>
    rw [List.cons_append, throughLines, throughLines]
    cases Source.textOf line with
    | error f => rfl
    | ok text =>
      show (feed eval shell text).bind _ = ((feed eval shell text).bind _).bind _
      rw [Prog.bind_assoc]
      congr 1
      funext x
      obtain ⟨_ | _ | code, shell'⟩ := x
      · rfl
      · exact ih shell'
      · rfl

/-- A session over bytes is a session over their lines. -/
theorem through_unfolds (eval : σ → Text → Prog (Except Failure Flow × σ)) (shell : σ) (bytes : Bytes) :
    (through eval shell bytes).Unfolds (throughLines eval shell (Source.lines bytes)) := by
  induction hn : bytes.length using Nat.strongRecOn generalizing shell bytes with
  | ind n ih =>
    subst hn
    refine Prog.Unfolds.unroll.trans ?_
    unfold Prog.unroll
    show ((((Source.ofBytes bytes).next.bind _).bind _).bind _).Unfolds _
    rw [Prog.bind_assoc, Prog.bind_assoc]
    refine ((Source.next_unfolds bytes).bind_left _).trans ?_
    unfold Source.afterFirst
    cases hfirst : Source.firstLine? bytes with
    | none =>
      rw [Source.lines_of_none hfirst]
      exact .refl _
    | some first =>
      obtain ⟨line, rest⟩ := first
      rw [Source.lines_of_some hfirst, throughLines]
      dsimp only
      cases Source.textOf line with
      | error f => exact .refl _
      | ok text =>
        show (((feed eval shell text).bind _).bind _).Unfolds ((feed eval shell text).bind _)
        rw [Prog.bind_assoc]
        refine .bind _ ?_
        rintro ⟨_ | _ | code, shell'⟩
        · exact .refl _
        · exact ih _ (Source.length_lt_of_some hfirst) shell' rest rfl
        · exact .refl _

/-- A session over bytes can be cut in two at the end of a line. -/
theorem through_append_runs {bytes : Bytes} (hbytes : bytes = [] ∨ bytes.getLast? = some Source.lineFeed)
    (shell : σ) (rest : Bytes) {trace : List Prog.Event} {x : Except Stop (Option Int) × σ} :
    Prog.Runs (through eval shell (bytes ++ rest)) trace x ↔
      Prog.Runs (followedBy (through eval shell bytes) fun shell => through eval shell rest) trace x := by
  have hlines := followedBy_unfolds (through_unfolds eval shell bytes) fun shell => through_unfolds eval shell rest
  rw [(through_unfolds eval shell _).runs_iff, hlines.runs_iff, Source.lines_append hbytes, throughLines_append]

end JobShell.Session
