import JobShell.Proofs.Session.Settle
import JobShell.Proofs.Session.Through
import JobShell.Proofs.Text.Split
import JobShell.Proofs.Text.Utf8

/-! # The course of a session

Which lines a session evaluates, and where it stops. Nothing is asked of the evaluation but its results; it may be that
of the shell or any other. -/

namespace JobShell.Session
open Prog

/-- A line that was evaluated: what was read of it, and its calls and its result with the calls behind them. -/
structure Entry where
  text : Text
  evaluated : List Event
  result : Except Failure Flow
  settled : List Event

namespace Entry

/-- The calls for the line. -/
def calls (e : Entry) : List Event := e.evaluated ++ e.settled

/-- The entry is for a line that is a text and is not blank, and it has this text without the white space around it. -/
def For (e : Entry) (line : Bytes) : Prop :=
  ∃ text : Text, text.encode = line ∧ text.Stripped e.text ∧ e.text ≠ []

end Entry

variable {σ : Type}

/-- The texts were evaluated one after the other, each by the shell that the one before has left. -/
inductive Evaluates (eval : σ → Text → Prog (Except Failure Flow × σ)) : σ → List Entry → σ → Prop
  | nil (shell : σ) : Evaluates eval shell [] shell
  | cons {shell next last : σ} {e : Entry} {entries : List Entry}
      (h : Runs (eval shell e.text) e.evaluated (e.result, next)) (hrest : Evaluates eval next entries last) :
      Evaluates eval shell (e :: entries) last

/-- A session goes past all these lines. It evaluates those that are not blank, each once and in their order. -/
inductive Passes : List Bytes → List Entry → Prop
  | nil : Passes [] []
  | blank {text : Text} {lines : List Bytes} {entries : List Entry} (hblank : ∀ c ∈ text, Text.isWhiteSpace c = true)
      (h : Passes lines entries) : Passes (text.encode :: lines) entries
  | cons {line : Bytes} {lines : List Bytes} {e : Entry} {entries : List Entry} (hline : e.For line)
      (hon : Settles e.result e.settled (.ok .proceed)) (h : Passes lines entries) :
      Passes (line :: lines) (e :: entries)

/-- A session does not go past this line. -/
inductive Breaks (line : Bytes) : List Entry → Except Stop (Option Int) → Prop
  /-- The line is no text. -/
  | unreadable (h : ∀ text : Text, text.encode ≠ line) : Breaks line [] (.error (.failure .notText))
  | exits {e : Entry} {code : Int} (hline : e.For line) (hexit : Settles e.result e.settled (.ok (.exit code))) :
      Breaks line [e] (.ok (some code))
  | stops {e : Entry} {stop : Stop} (hline : e.For line) (hstop : Settles e.result e.settled (.error stop)) :
      Breaks line [e] (.error stop)

/-- What a session over lines evaluates, and what it answers then. -/
inductive Course (lines : List Bytes) : List Entry → Except Stop (Option Int) → Prop
  | ended {entries : List Entry} (h : Passes lines entries) : Course lines entries (.ok none)
  | broken {before after : List Bytes} {line : Bytes} {entries last : List Entry} {r : Except Stop (Option Int)}
      (hlines : lines = before ++ line :: after) (h : Passes before entries) (hlast : Breaks line last r) :
      Course lines (entries ++ last) r

variable {eval : σ → Text → Prog (Except Failure Flow × σ)} {shell next last : σ} {trace : List Event}
  {line : Bytes} {lines first second : List Bytes} {entries : List Entry} {r : Except Stop (Option Int)}

/-! ### One line -/

theorem feed_of_blank {text : Text} (h : text.trim = []) : feed eval shell text = pure (.ok .proceed, shell) := by
  rw [feed, if_pos (List.isEmpty_iff.mpr h)]

/-- What is done with a line: nothing if it is blank, and else there is an entry for it. -/
theorem runs_feed_iff {text : Text} {flow : Except Stop Flow} : Runs (feed eval shell text) trace (flow, next) ↔
    (text.trim = [] ∧ trace = [] ∧ flow = .ok .proceed ∧ next = shell) ∨
    ∃ e : Entry, e.text = text.trim ∧ e.text ≠ [] ∧ trace = e.calls ∧
      Runs (eval shell e.text) e.evaluated (e.result, next) ∧ Settles e.result e.settled flow := by
  by_cases hblank : text.trim = []
  · rw [feed_of_blank hblank]
    refine runs_done_iff.trans ⟨?_, ?_⟩
    · rintro ⟨rfl, he⟩
      cases he
      exact .inl ⟨hblank, rfl, rfl, rfl⟩
    · rintro (⟨-, rfl, rfl, rfl⟩ | ⟨e, he, hne, -⟩)
      · exact ⟨rfl, rfl⟩
      · exact absurd (he.trans hblank) hne
  · rw [feed, if_neg (mt List.isEmpty_iff.mp hblank)]
    constructor
    · intro h
      obtain ⟨t, ⟨result, shell'⟩, t', rfl, heval, hsettle⟩ := runs_bind_iff.mp h
      obtain ⟨t₁, flow', t₂, rfl, hflow, hend⟩ := runs_bind_iff.mp hsettle
      obtain ⟨rfl, he⟩ := runs_done_iff.mp hend
      cases he
      rw [List.append_nil]
      exact .inr ⟨⟨text.trim, t, result, t₁⟩, rfl, hblank, rfl, heval, runs_settle_iff.mp hflow⟩
    · rintro (⟨h, -⟩ | ⟨e, he, -, rfl, heval, hsettles⟩)
      · exact absurd h hblank
      · rw [← he]
        refine heval.bind ?_
        rw [← List.append_nil e.settled]
        exact (runs_settle_iff.mpr hsettles).bind (.done _)

theorem textOf_encode (text : Text) : Source.textOf text.encode = .ok text := by
  rw [Source.textOf, Text.decode?_encode]

theorem textOf_of_forall_ne (h : ∀ text : Text, text.encode ≠ line) : Source.textOf line = .error .notText := by
  have hnone : Text.decode? line = none := Option.eq_none_iff_forall_ne_some.mpr fun text htext =>
    h text (Text.decode?_eq_some_iff.mp htext)
  rw [Source.textOf, hnone]

theorem Entry.For.trim {e : Entry} (h : e.For line) :
    ∃ text : Text, text.encode = line ∧ e.text = text.trim ∧ e.text ≠ [] :=
  let ⟨text, hline, hstripped, hne⟩ := h
  ⟨text, hline, (Text.trim_eq_iff.mpr hstripped).symm, hne⟩

/-! ### Lines one after the other -/

theorem evaluates_append_iff {xs ys : List Entry} : Evaluates eval shell (xs ++ ys) last ↔
    ∃ mid, Evaluates eval shell xs mid ∧ Evaluates eval mid ys last := by
  induction xs generalizing shell with
  | nil =>
    refine ⟨fun h => ⟨shell, .nil shell, h⟩, ?_⟩
    rintro ⟨mid, hx, hy⟩
    cases hx
    exact hy
  | cons e xs ih =>
    constructor
    · rintro (_ | ⟨h, hrest⟩)
      obtain ⟨mid, hx, hy⟩ := ih.mp hrest
      exact ⟨mid, .cons h hx, hy⟩
    · rintro ⟨mid, _ | ⟨h, hrest⟩, hy⟩
      exact .cons h (ih.mpr ⟨mid, hrest, hy⟩)

theorem passes_append_iff : Passes (first ++ second) entries ↔
    ∃ xs ys, entries = xs ++ ys ∧ Passes first xs ∧ Passes second ys := by
  constructor
  · intro h
    induction first generalizing entries with
    | nil => exact ⟨[], entries, rfl, .nil, h⟩
    | cons line first ih =>
      cases h with
      | blank hblank h =>
        obtain ⟨xs, ys, rfl, hx, hy⟩ := ih h
        exact ⟨xs, ys, rfl, .blank hblank hx, hy⟩
      | @cons _ _ e _ hline hon h =>
        obtain ⟨xs, ys, rfl, hx, hy⟩ := ih h
        exact ⟨e :: xs, ys, rfl, .cons hline hon hx, hy⟩
  · rintro ⟨xs, ys, rfl, hx, hy⟩
    induction hx with
    | nil => exact hy
    | blank hblank _ ih => exact .blank hblank ih
    | cons hline hon _ ih => exact .cons hline hon ih

theorem Course.past {xs ys : List Entry} (hx : Passes first xs) (h : Course second ys r) :
    Course (first ++ second) (xs ++ ys) r := by
  cases h with
  | ended hy => exact .ended (passes_append_iff.mpr ⟨xs, ys, rfl, hx, hy⟩)
  | @broken before after line zs last _ hlines hz hlast =>
    have hbehind : first ++ second = (first ++ before) ++ line :: after := by rw [hlines, List.append_assoc]
    rw [← List.append_assoc]
    exact .broken hbehind (passes_append_iff.mpr ⟨xs, zs, rfl, hx, hz⟩) hlast

theorem passes_of_course (h : Course lines entries (.ok none)) : Passes lines entries := by
  cases h with
  | ended h => exact h
  | broken hlines h hlast => cases hlast

/-- Some lines are gone through before others, unless one of them ends the session. -/
theorem course_append_iff : Course (first ++ second) entries r ↔
    (∃ xs ys, entries = xs ++ ys ∧ Course first xs (.ok none) ∧ Course second ys r) ∨
    (r ≠ .ok none ∧ Course first entries r) := by
  constructor
  · rintro (h | ⟨hlines, h, hlast⟩)
    · obtain ⟨xs, ys, rfl, hx, hy⟩ := passes_append_iff.mp h
      exact .inl ⟨xs, ys, rfl, .ended hx, .ended hy⟩
    · rename_i before after line entries last
      have hr : r ≠ .ok none := by
        rintro rfl
        cases hlast
      rcases List.append_eq_append_iff.mp hlines.symm with ⟨between, rfl, hbetween⟩ | ⟨between, rfl, hsecond⟩
      · cases between with
        | nil =>
          have hsecond : second = [] ++ line :: after := hbetween.symm
          rw [List.append_nil]
          exact .inl ⟨entries, last, rfl, .ended h, .broken hsecond .nil hlast⟩
        | cons line' between =>
          obtain ⟨rfl, -⟩ := List.cons_eq_cons.mp hbetween
          exact .inr ⟨hr, .broken rfl h hlast⟩
      · obtain ⟨xs, ys, rfl, hx, hy⟩ := passes_append_iff.mp h
        exact .inl ⟨xs, ys ++ last, List.append_assoc .., .ended hx, .broken hsecond hy hlast⟩
  · rintro (⟨xs, ys, rfl, hx, hy⟩ | ⟨hr, h | ⟨rfl, h, hlast⟩⟩)
    · exact .past (passes_of_course hx) hy
    · exact absurd rfl hr
    · exact .broken (by rw [List.append_assoc, List.cons_append]) h hlast

/-! ### The run of a session -/

theorem runs_passes {xs : List Entry} (h : Passes first xs) (heval : Evaluates eval shell xs next)
    {x : Except Stop (Option Int) × σ} (hrun : Runs (throughLines eval next second) trace x) :
    Runs (throughLines eval shell (first ++ second)) (xs.flatMap Entry.calls ++ trace) x := by
  induction h generalizing shell with
  | nil =>
    cases heval
    exact hrun
  | blank hblank _ ih =>
    rw [List.cons_append, throughLines, textOf_encode]
    exact (runs_feed_iff.mpr (.inl ⟨Text.trim_eq_nil_iff.mpr hblank, rfl, rfl, rfl⟩)).bind (ih heval)
  | cons hline hon _ ih =>
    rename_i e _ _
    obtain _ | ⟨hentry, hrest⟩ := heval
    obtain ⟨text, rfl, htext, hne⟩ := hline.trim
    rw [List.cons_append, throughLines, textOf_encode, List.flatMap_cons, List.append_assoc]
    exact (runs_feed_iff.mpr (.inr ⟨e, htext, hne, rfl, hentry, hon⟩)).bind (ih hrest)

theorem runs_breaks {xs : List Entry} (h : Breaks line xs r) (heval : Evaluates eval shell xs last) :
    Runs (throughLines eval shell (line :: lines)) (xs.flatMap Entry.calls) (r, last) := by
  have ends : ∀ {e : Entry} {flow : Except Stop Flow} {text : Text}, e.text = text.trim → e.text ≠ [] →
      Evaluates eval shell [e] last → Settles e.result e.settled flow →
        Runs (feed eval shell text) e.calls (flow, last) := by
    intro e flow text htext hne heval hsettles
    obtain _ | ⟨hentry, hrest⟩ := heval
    cases hrest
    exact runs_feed_iff.mpr (.inr ⟨e, htext, hne, rfl, hentry, hsettles⟩)
  rw [throughLines]
  cases h with
  | unreadable h =>
    cases heval
    rw [textOf_of_forall_ne h]
    exact .done _
  | exits hline hexit =>
    obtain ⟨text, rfl, htext, hne⟩ := hline.trim
    rw [textOf_encode, List.flatMap_singleton, ← List.append_nil (Entry.calls _)]
    exact (ends htext hne heval hexit).bind (.done _)
  | stops hline hstop =>
    obtain ⟨text, rfl, htext, hne⟩ := hline.trim
    rw [textOf_encode, List.flatMap_singleton, ← List.append_nil (Entry.calls _)]
    exact (ends htext hne heval hstop).bind (.done _)

theorem course_of_runs (h : Runs (throughLines eval shell lines) trace (r, last)) :
    ∃ entries : List Entry, trace = entries.flatMap Entry.calls ∧ Evaluates eval shell entries last ∧
      Course lines entries r := by
  induction lines generalizing shell trace with
  | nil =>
    obtain ⟨rfl, he⟩ := runs_done_iff.mp h
    cases he
    exact ⟨[], rfl, .nil _, .ended .nil⟩
  | cons line lines ih =>
    have hlines : line :: lines = [] ++ line :: lines := rfl
    have broken : ∀ {xs : List Entry}, Breaks line xs r → Course (line :: lines) xs r :=
      fun hlast => .broken hlines .nil hlast
    rw [throughLines, Source.textOf] at h
    cases hline : Text.decode? line with
    | none =>
      rw [hline] at h
      obtain ⟨rfl, he⟩ := runs_done_iff.mp h
      cases he
      refine ⟨[], rfl, .nil _, broken (.unreadable fun text htext => ?_)⟩
      rw [← htext, Text.decode?_encode] at hline
      cases hline
    | some text =>
      rw [hline] at h
      obtain rfl := Text.decode?_eq_some_iff.mp hline
      obtain ⟨t, ⟨flow, shell'⟩, t', rfl, hfeed, hrest⟩ := runs_bind_iff.mp h
      rcases runs_feed_iff.mp hfeed with ⟨hblank, rfl, rfl, rfl⟩ | ⟨e, htext, hne, rfl, hentry, hsettles⟩
      · obtain ⟨entries, rfl, heval, hcourse⟩ := ih hrest
        have hpass : Passes [text.encode] [] := .blank (Text.trim_eq_nil_iff.mp hblank) .nil
        exact ⟨entries, rfl, heval, .past hpass hcourse⟩
      · have hfor : e.For text.encode := ⟨text, rfl, Text.trim_eq_iff.mp htext.symm, hne⟩
        have hcalls : ([e] : List Entry).flatMap Entry.calls = e.calls := List.flatMap_singleton _ _
        rcases flow with stop | _ | code
        · obtain ⟨rfl, he⟩ := runs_done_iff.mp hrest
          cases he
          exact ⟨[e], by rw [hcalls, List.append_nil], .cons hentry (.nil _), broken (.stops hfor hsettles)⟩
        · obtain ⟨entries, rfl, heval, hcourse⟩ := ih hrest
          exact ⟨e :: entries, rfl, .cons hentry heval, .past (.cons hfor hsettles .nil) hcourse⟩
        · obtain ⟨rfl, he⟩ := runs_done_iff.mp hrest
          cases he
          exact ⟨[e], by rw [hcalls, List.append_nil], .cons hentry (.nil _), broken (.exits hfor hsettles)⟩

theorem runs_throughLines_iff : Runs (throughLines eval shell lines) trace (r, last) ↔
    ∃ entries : List Entry, trace = entries.flatMap Entry.calls ∧ Evaluates eval shell entries last ∧
      Course lines entries r := by
  refine ⟨course_of_runs, ?_⟩
  rintro ⟨entries, rfl, heval, h | ⟨rfl, h, hlast⟩⟩
  · have hend : Runs (throughLines eval last []) [] (.ok none, last) := .done _
    have hrun := runs_passes h heval hend
    rwa [List.append_nil, List.append_nil] at hrun
  · obtain ⟨mid, hbefore, hend⟩ := evaluates_append_iff.mp heval
    rw [List.flatMap_append]
    exact runs_passes h hbefore (runs_breaks hlast hend)

/-! ### Where a session stops, and where it can be cut -/

/-- A session over bytes evaluates these lines, with this answer and this shell at its end. -/
def Takes (eval : σ → Text → Prog (Except Failure Flow × σ)) (shell : σ) (bytes : Bytes) (entries : List Entry)
    (r : Except Stop (Option Int)) (last : σ) : Prop :=
  Evaluates eval shell entries last ∧ Course (Source.lines bytes) entries r

theorem takes_append_iff {bytes : Bytes} (hbytes : bytes = [] ∨ bytes.getLast? = some Source.lineFeed) (rest : Bytes) :
    Takes eval shell (bytes ++ rest) entries r last ↔
      (∃ xs ys mid, entries = xs ++ ys ∧ Takes eval shell bytes xs (.ok none) mid ∧ Takes eval mid rest ys r last) ∨
      (r ≠ .ok none ∧ Takes eval shell bytes entries r last) := by
  unfold Takes
  rw [Source.lines_append hbytes, course_append_iff]
  constructor
  · rintro ⟨heval, ⟨xs, ys, rfl, hx, hy⟩ | ⟨hr, h⟩⟩
    · obtain ⟨mid, hfirst, hsecond⟩ := evaluates_append_iff.mp heval
      exact .inl ⟨xs, ys, mid, rfl, ⟨hfirst, hx⟩, hsecond, hy⟩
    · exact .inr ⟨hr, heval, h⟩
  · rintro (⟨xs, ys, mid, rfl, ⟨hfirst, hx⟩, hsecond, hy⟩ | ⟨hr, heval, h⟩)
    · exact ⟨evaluates_append_iff.mpr ⟨mid, hfirst, hsecond⟩, .inl ⟨xs, ys, rfl, hx, hy⟩⟩
    · exact ⟨heval, .inr ⟨hr, h⟩⟩

/-- Whatever evaluates the lines: a session over bytes is a session up to the end of a line and, if no line of it has
ended it, a session over the rest with the shell as it is then. The answer, the calls, the evaluated lines with their
results and the last shell are the same. A session is what the entries for its lines say, and nothing else: it evaluates
the lines that are not blank in their order, each once and without the white space around it. It ends at a line that is
no text, and at one that exits. A line that fails does not end it, unless the message about the failure or what has been
printed cannot be written. -/
theorem through_composes (eval : σ → Text → Prog (Except Failure Flow × σ)) (shell : σ) {bytes : Bytes}
    (hbytes : bytes = [] ∨ bytes.getLast? = some Source.lineFeed) (rest : Bytes) :
    (∀ trace x, Runs (through eval shell (bytes ++ rest)) trace x ↔
      Runs (followedBy (through eval shell bytes) fun shell => through eval shell rest) trace x) ∧
    (∀ entries r last, Takes eval shell (bytes ++ rest) entries r last ↔
      (∃ xs ys mid, entries = xs ++ ys ∧ Takes eval shell bytes xs (.ok none) mid ∧ Takes eval mid rest ys r last) ∨
      (r ≠ .ok none ∧ Takes eval shell bytes entries r last)) ∧
    ∀ input trace r last, Runs (through eval shell input) trace (r, last) ↔
      ∃ entries : List Entry, trace = entries.flatMap Entry.calls ∧ Takes eval shell input entries r last := by
  refine ⟨fun _ _ => through_append_runs hbytes shell rest, fun _ _ _ => takes_append_iff hbytes rest, ?_⟩
  intro input trace r last
  rw [(through_unfolds eval shell input).runs_iff, runs_throughLines_iff]
  rfl

/-- An evaluation that counts lines and exits at the line `b`. -/
def counting (count : Nat) (line : Text) : Prog (Except Failure Flow × Nat) :=
  return (.ok (if line = ['b'] then .exit count else .proceed), count + 1)

theorem through_composes_counting : ([97, 10] : Bytes).getLast? = some Source.lineFeed ∧
    Runs (followedBy (through counting 0 [97, 10]) fun count => through counting count [98, 13, 10, 99])
      [⟨.flush, .ok ()⟩, ⟨.flush, .ok ()⟩] (.ok (some 1), 2) ∧
    ∃ entries, Takes counting 0 [97, 10, 98, 13, 10, 99] entries (.ok (some 1)) 2 := by
  have hlast : ([97, 10] : Bytes).getLast? = some Source.lineFeed := rfl
  obtain ⟨hcut, -, hentries⟩ := through_composes counting 0 (.inr hlast) [98, 13, 10, 99]
  have hrun : Runs (through counting 0 [97, 10, 98, 13, 10, 99]) [⟨.flush, .ok ()⟩, ⟨.flush, .ok ()⟩]
      (.ok (some 1), 2) :=
    (through_unfolds _ _ _).runs_iff.mpr (.call (.call (.done _)))
  obtain ⟨entries, -, htakes⟩ := (hentries _ _ _ _).mp hrun
  exact ⟨hlast, (hcut _ _).mp hrun, entries, htakes⟩

/-- A job is launched, and the line about it cannot be written. -/
def unannounced : List Event :=
  [⟨.acquireJobs, .empty⟩, ⟨.fork, .ok (.parent 71)⟩, ⟨.setGroup 71 71, .ok ()⟩,
    ⟨.releaseJobs (JobTable.empty.add 71 71 ['a']).2, ()⟩, ⟨.print "[1] 71\n".toList, .error .noSpace⟩]

/-- The first line fails, and it ends the session. The second is not evaluated. -/
theorem through_stops_unannounced : ∃ after,
    Runs (Shell.eval ⟨⟨10, 63⟩, 0⟩ "a &".toList) unannounced (.error (.system .noSpace), after) ∧
    Runs (through Shell.eval ⟨⟨10, 63⟩, 0⟩ (Text.encode "a &\nb".toList))
      (unannounced ++ [⟨.write 2 (Text.encode "pish: No space left on device (os error 28)\n".toList), .ok 44⟩,
        ⟨.flush, .error .noSpace⟩])
      (.error (.failure (.system .noSpace)), after) := by
  refine ⟨⟨⟨10, 63⟩, 1⟩, .call (.call (.call (.call (.call (.done _))))), (through_unfolds _ _ _).runs_iff.mpr ?_⟩
  exact .call (.call (.call (.call (.call (.call (.call (.done _)))))))

end JobShell.Session
