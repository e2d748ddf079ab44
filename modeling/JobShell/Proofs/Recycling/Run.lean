import JobShell.Proofs.Recycling.Sane

/-! # Runs when pids are used again

Every run keeps what `Sane` says, as both threads keep to their contracts. What was told of a child is told for good, so
that the status of a line that has ended can be traced back to its last stage. -/

namespace JobShell.Recycling
open Threads (Thread Remover)

/-- What is known for good of an evaluation that has ended. A pipeline in the foreground that went well has the status
of its last stage, unless the reaper has collected the stage, or an earlier one that had the same pid. -/
def Reported (limits : Limits) (f : Family) (r : Finished) : Prop :=
  ∀ p flow, Foreground limits r.line p → r.result = .ok flow → r.next = r.first + p.stages.length ∧
    ∃ pid x θ, f.pids[r.next - 1]? = some pid ∧ f.fate? (r.next - 1) = some (x, θ) ∧
      match θ with
      | .reaper => r.status = 0
      | .interpreter => r.status = x.code ∨ r.status = 0 ∧ ∃ i y, r.first ≤ i ∧ i + 1 < r.next ∧
          f.pids[i]? = some pid ∧ f.fate? i = some (y, .reaper)

/-- Both threads keep to their contracts, and what they know is so. -/
structure Sound (limits : Limits) (s : System) (n : Nat) (k : Sight) (g : Reaping) : Prop where
  same : s.shell.limits = limits
  sane : Sane s.toShared s.ledger n k g
  evaluating : match s.interpreter with
    | none => k = .begun
    | some (e, p) => e.first = n ∧ p.Ensures interpreter (Done limits e.line) k
  reaping : s.reaper.Ensures reaper (fun _ g => g = .idle) g
  reported : ∀ r ∈ s.finished, Reported limits s.family r

variable {limits : Limits} {shell : Shell} {home : Pid} {others : Set Pid} {s s' : System} {n : Nat} {k : Sight}
variable {g : Reaping} {f f' : Family} {t : JobTable} {l : Ledger}

theorem sound_start (shell : Shell) (home : Pid) (others : Set Pid) :
    Sound shell.limits (.start shell home others) 0 .begun .idle where
  same := rfl
  sane := by
    have hpids : ∀ i : Nat, (System.start shell home others).family.pids[i]? = none := fun i => rfl
    have hfate : ∀ i, ¬ (System.start shell home others).family.Gone i := fun i hi => hi rfl
    have hnumbers : Numbers (System.start shell home others).family := by
      refine ⟨fun i pid hi => ?_, fun i hi => absurd hi (hfate i), fun i j pid _ hi _ => ?_⟩
      · rw [hpids] at hi
        cases hi
      · rw [hpids] at hi
        cases hi
    refine ⟨rfl, rfl, hnumbers, ?_, Knows.begun (fun _ _ hl => hl.elim) hnumbers, ?_, ?_⟩
    · exact ⟨.nil, fun _ _ hl => hl.elim, fun _ _ hl => hl.elim, fun _ hj => absurd hj List.not_mem_nil,
        fun _ _ hl => hl.elim, fun _ _ hr => hr.elim, fun _ _ _ hr => hr.elim⟩
    · exact ⟨nofun, fun _ i hj => absurd hj List.not_mem_nil, nofun⟩
    · rintro ⟨c, hc, -⟩
      cases hc
  evaluating := rfl
  reaping := ensures_run
  reported _ hr := absurd hr List.not_mem_nil

/-! ### What has ended -/

theorem Reported.grows {r : Finished} (h : Reported limits f r) (hf : f.Grows f') : Reported limits f' r := by
  intro p flow hp hr
  obtain ⟨hnext, pid, x, θ, hpid, hx, hstatus⟩ := h p flow hp hr
  refine ⟨hnext, pid, x, θ, hf.pids _ _ hpid, hf.fates _ _ hx, ?_⟩
  cases θ with
  | reaper => exact hstatus
  | interpreter =>
    refine hstatus.imp_right fun ⟨h0, i, y, hi, hin, hip, hiy⟩ => ?_
    exact ⟨h0, i, y, hi, hin, hf.pids i pid hip, hf.fates i _ hiy⟩

/-- Whoever is heard of last is the last child of all. -/
theorem Knows.heard_last {pid : Pid} {answer : Option Status} (h : Knows f t l n k)
    (hw : k.waited.map Prod.fst = k.forked) (ha : k.waited.getLast? = some (pid, answer)) :
    ∃ m, n ≤ m ∧ m + 1 = f.pids.length ∧ f.pids[m]? = some pid := by
  refine h.last ?_
  rw [← hw, List.getLast?_map, ha]
  rfl

/-- Where the last wait told nothing and the interpreter has the status of the last child all the same, it was told by a wait
for an earlier child with the same pid, which the reaper has collected. -/
theorem Knows.told_earlier {pid : Pid} {m : Nat} {x : Status} (h : Knows f t l n k)
    (hw : k.waited.map Prod.fst = k.forked) (ha : k.waited.getLast? = some (pid, none)) (hnm : n ≤ m)
    (hlast : m + 1 = f.pids.length) (hm : f.pids[m]? = some pid) (hx : f.fate? m = some (x, .interpreter)) :
    ∃ i y, n ≤ i ∧ i < m ∧ f.pids[i]? = some pid ∧ f.fate? i = some (y, .reaper) := by
  obtain ⟨q, hq, hown⟩ := h.own m x hnm hx
  rw [hm] at hq
  cases hq
  obtain ⟨a, ha'⟩ := List.mem_iff_getElem?.mp hown
  have hna : f.pids[n + a]? = some pid := by
    rw [← List.getElem?_drop, h.forked, ← hw, List.getElem?_map, ha']
    rfl
  have halt := (List.getElem?_eq_some_iff.mp ha').1
  have hlen : k.waited.length = k.forked.length := by rw [← hw, List.length_map]
  have hne : a + 1 ≠ k.waited.length := by
    intro haeq
    rw [List.getLast?_eq_getElem?, ← haeq, Nat.add_sub_cancel, ha'] at ha
    cases ha
  have hforked := h.length
  have ham : n + a < m := by omega
  obtain ⟨y, hy⟩ := h.twice (n + a) m pid (Nat.le_add_right n a) ham hna hm
  exact ⟨n + a, y, Nat.le_add_right n a, ham, hna, hy⟩

theorem Knows.reported {e : Evaluation} {result : Except Failure Flow} {shell : Shell} (h : Knows f t l n k)
    (he : e.first = n) (hd : Done limits e.line (result, shell) k) :
    Reported limits f ⟨e, f.pids.length, result, shell.status⟩ := by
  intro p flow hp hr
  obtain ⟨last, ⟨hlength, hwaited, rfl⟩, hstatus⟩ := hd.status p flow hp hr
  have hnext : f.pids.length = e.first + p.stages.length := by rw [h.length, hlength, he]
  have hne : k.waited ≠ [] := by
    intro hnil
    rw [hnil] at hwaited
    rw [← hwaited] at hlength
    exact hp.2.2.2 (List.eq_nil_of_length_eq_zero hlength.symm)
  obtain ⟨⟨pid, answer⟩, ha⟩ := Option.ne_none_iff_exists'.mp (mt List.getLast?_eq_none_iff.mp hne)
  obtain ⟨m, hnm, hm, hpid⟩ := h.heard_last hwaited ha
  rw [ha] at hstatus
  obtain rfl : f.pids.length - 1 = m := by omega
  have hmem : (pid, answer) ∈ k.waited := List.mem_of_getLast? ha
  obtain ⟨⟨x, θ⟩, hx⟩ := Option.ne_none_iff_exists'.mp (h.gone _ hmem _ hpid)
  refine ⟨hnext, pid, x, θ, hpid, hx, ?_⟩
  cases answer with
  | some y =>
    -- The interpreter was told of the last child that had the pid, which is the last child of all.
    obtain ⟨i, hi, hlast, hy⟩ := h.told pid y hmem
    obtain rfl : i = f.pids.length - 1 := by
      have hlt := (List.getElem?_eq_some_iff.mp hi).1
      by_contra hne
      exact hlast _ (by omega) hpid
    rw [hx] at hy
    cases hy
    exact .inl hstatus
  | none =>
    cases θ with
    | reaper => exact hstatus
    | interpreter =>
      obtain ⟨i, y, hni, hin, hip, hy⟩ := h.told_earlier hwaited ha hnm hm hpid hx
      have hnext' : i + 1 < f.pids.length := by omega
      exact .inr ⟨hstatus, i, y, he ▸ hni, hnext', hip, hy⟩

/-! ### Runs -/

/-- Nothing that happens outside is known to the threads. -/
theorem Sound.outside {h : Shared} (hs : Sound limits s n k g) (hsane : Sane h s.ledger n k g)
    (hf : h.family = s.family) : Sound limits { s with toShared := h } n k g :=
  ⟨hs.same, hsane, hs.evaluating, hs.reaping, fun r hr => by
    show Reported limits h.family r
    rw [hf]
    exact hs.reported r hr⟩

theorem grows_answer {θ : Thread} {c : Call} {s s' : Shared} {r : c.Reply} (ha : Answer θ c s r s') :
    s.family.Grows s'.family := by
  have refl : ∀ f : Family, f.Grows f := fun _ => ⟨fun _ _ h => h, fun _ _ h => h⟩
  cases c with
  | fork =>
    cases r with
    | error e =>
      obtain rfl : s' = s := ha
      exact refl _
    | ok forked =>
      cases forked with
      | child => exact ha.elim
      | parent pid =>
        obtain ⟨-, rfl⟩ := ha
        rw [family_bear]
        exact Family.grows_forks _ _
  | setGroup pid group =>
    cases r with
    | error e =>
      obtain rfl : s' = s := ha
      exact refl _
    | ok _ =>
      obtain ⟨i, c, hc, rfl, -, rfl⟩ := ha
      have hf : (s.put i { c with group := if group = 0 then c.pid else group }).family = s.family :=
        family_put_open hc rfl rfl
      rw [hf]
      exact refl _
  | wait target block =>
    cases ha with
    | collects hc hx ht hr =>
      rw [family_put_collected hc]
      exact Family.grows_collects (Sane.open_of_ended hc hx)
    | _ => exact refl _
  | acquireJobs =>
    obtain ⟨-, -, rfl⟩ := ha
    exact refl _
  | releaseJobs t =>
    obtain ⟨-, rfl⟩ := ha
    exact refl _
  | awaitNotice =>
    cases r with
    | childChanged =>
      obtain ⟨-, rfl⟩ := ha
      exact refl _
    | interrupt =>
      obtain rfl : s' = s := ha
      exact refl _
    | closed => exact ha.elim
  | _ =>
    obtain rfl : s' = s := ha
    exact refl _

theorem sound_step (hs : Sound limits s n k g) (h : System.Step s s') : ∃ n' k' g', Sound limits s' n' k' g' := by
  cases h with
  | ends x hc hp =>
    have hsane := hs.sane.ends hc hp x
    refine ⟨n, k, g, hs.outside hsane ?_⟩
    refine family_put_open hc rfl ?_
    rw [Child.fate?, Child.fate?, hp]
  | stirs =>
    exact ⟨n, k, g, hs.outside (hs.sane.quiet rfl rfl rfl fun _ => .inl rfl) rfl⟩
  | delivers hp =>
    exact ⟨n, k, g, hs.outside (hs.sane.quiet rfl rfl rfl fun _ => .inr (.inl rfl)) rfl⟩
  | moves pid group hm =>
    have hsane := hs.sane.moves hm
    obtain ⟨i, c, hc, -, -, rfl⟩ := hm
    exact ⟨n, k, g, hs.outside hsane (family_put_open hc rfl rfl)⟩
  | elsewhere others =>
    exact ⟨n, k, g, hs.outside (hs.sane.quiet rfl rfl rfl hs.sane.noticed) rfl⟩
  | enter line hi =>
    have hwork := hs.evaluating
    rw [hi] at hwork
    subst hwork
    have hn : s.children.length = n := by
      have hlen := hs.sane.knows.length
      rwa [family_length] at hlen
    refine ⟨n, .begun, g, hs.same, hs.sane, ⟨hn, ?_⟩, hs.reaping, hs.reported⟩
    rw [← hs.same]
    exact ensures_eval s.shell line
  | evaluate hi ha =>
    have hwork := hs.evaluating
    rw [hi] at hwork
    obtain ⟨hn, hp⟩ := hwork
    obtain ⟨k', hp', hsane⟩ := hs.sane.evaluates hp ha
    exact ⟨n, k', g, hs.same, hsane, ⟨hn, hp'⟩, hs.reaping, fun r hr => (hs.reported r hr).grows (grows_answer ha)⟩
  | repeatLine hi =>
    have hwork := hs.evaluating
    rw [hi] at hwork
    exact ⟨n, k, g, hs.same, hs.sane, ⟨hwork.1, hwork.2.unroll⟩, hs.reaping, hs.reported⟩
  | @finish e result shell hi =>
    have hwork := hs.evaluating
    rw [hi] at hwork
    obtain ⟨hn, hd⟩ := hwork
    -- The next line starts behind the children of this one, and this one leaves nothing to be done.
    have hsane := hs.sane
    refine ⟨s.family.pids.length, .begun, g, hd.same, ?_, rfl, hs.reaping, fun r hr => ?_⟩
    · exact ⟨hd.settled.held.symm.trans hsane.interpreter, hsane.reaper, hsane.numbers, hsane.books,
        Knows.begun hsane.books.leads hsane.numbers, hsane.owing.begun hsane.knows hd.settled, hsane.noticed⟩
    · rcases List.mem_append.mp hr with hr | hr
      · exact hs.reported r hr
      · rw [List.mem_singleton.mp hr, ← family_length]
        exact hsane.knows.reported hn hd
  | reap hr ha =>
    have hp := hs.reaping
    rw [hr] at hp
    obtain ⟨g', hp', hsane⟩ := hs.sane.reaps hp ha
    exact ⟨n, k, g', hs.same, hsane, hs.evaluating, hp', fun r hr => (hs.reported r hr).grows (grows_answer ha)⟩
  | repeatReap hr =>
    have hp := hs.reaping
    rw [hr] at hp
    exact ⟨n, k, g, hs.same, hs.sane, hs.evaluating, hp.unroll, hs.reported⟩

theorem sound_reaches (h : System.Reaches (.start shell home others) s) : ∃ n k g, Sound shell.limits s n k g := by
  induction h with
  | refl => exact ⟨_, _, _, sound_start shell home others⟩
  | tail _ h ih =>
    obtain ⟨n, k, g, hs⟩ := ih
    exact sound_step hs h

/-! ### Runs of given calls -/

section Calls
variable {x x' : Shared} {shell : Shell} {e : Evaluation} {p : Prog Unit} {finished : List Finished} {l : Ledger}
variable {i : Option (Evaluation × Prog (Except Failure Flow × Shell))}

theorem step_line (c : Call) {next : c.Reply → Prog (Except Failure Flow × Shell)} (r : c.Reply)
    (ha : Answer .interpreter c x r x') :
    System.Step ⟨x, shell, some (e, .call c next), p, finished, l⟩
      ⟨x', shell, some (e, next r), p, finished, l.note x (.line e.line) c⟩ :=
  .evaluate rfl ha

theorem step_reap (c : Call) {next : c.Reply → Prog Unit} (r : c.Reply) (ha : Answer .reaper c x r x') :
    System.Step ⟨x, shell, i, .call c next, finished, l⟩ ⟨x', shell, i, next r, finished, l.note x .reaper c⟩ :=
  .reap rfl ha

end Calls

end JobShell.Recycling
