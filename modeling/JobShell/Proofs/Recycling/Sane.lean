import JobShell.Proofs.Recycling.Owed

/-! # What every step keeps when pids are used again

Both threads know what is so, and a child that has ended is the reaper's business: the signal is pending or noted, or
the reaper has taken the note back and is still collecting. A thread that keeps to its contract keeps this, whatever the
reply to its call is, and so does everything that happens outside. -/

namespace JobShell.Recycling
open Threads (Thread Remover)

/-- The table, if the thread has it. -/
def Shared.heldBy (s : Shared) (θ : Thread) : Option JobTable := if s.holder = some θ then some s.table else none

/-- Some child has ended and was not collected. -/
def Shared.Unreaped (s : Shared) : Prop := ∃ c ∈ s.children, ∃ x, c.phase = .ended x

structure Sane (s : Shared) (l : Ledger) (n : Nat) (k : Sight) (g : Reaping) : Prop where
  interpreter : k.held = s.heldBy .interpreter
  reaper : g.held? = s.heldBy .reaper
  numbers : Numbers s.family
  books : Books s.family s.table l
  knows : Knows s.family s.table l n k
  owing : Owing s.family s.table l n k g
  noticed : s.Unreaped → s.pending = true ∨ s.noted = true ∨ g ≠ .idle

variable {s s' : Shared} {l : Ledger} {n i : Nat} {k : Sight} {g : Reaping} {c : Child} {x : Status} {pid : Pid}
variable {θ : Thread} {who : Remover}

theorem Shared.heldBy_of_ne (h : s.holder ≠ some θ) : s.heldBy θ = none := if_neg h

theorem Shared.heldBy_self (h : s.holder = some θ) : s.heldBy θ = some s.table := if_pos h

theorem unreaped_put {c' : Child} (hc : ∀ x, c'.phase ≠ .ended x) (h : (s.put i c').Unreaped) : s.Unreaped := by
  obtain ⟨c, hmem, x, hx⟩ := h
  rcases List.mem_or_eq_of_mem_set hmem with hmem | rfl
  · exact ⟨c, hmem, x, hx⟩
  · exact absurd hx (hc x)

namespace Sane

/-- Nothing of what the threads know changes. -/
theorem quiet (h : Sane s l n k g) (hf : s'.family = s.family) (ht : s'.table = s.table) (ho : s'.holder = s.holder)
    (hn : s'.Unreaped → s'.pending = true ∨ s'.noted = true ∨ g ≠ .idle) : Sane s' l n k g := by
  have hsame : ∀ θ, s'.heldBy θ = s.heldBy θ := fun θ => by rw [Shared.heldBy, Shared.heldBy, ht, ho]
  refine ⟨(hsame _).symm ▸ h.interpreter, (hsame _).symm ▸ h.reaper, ?_, ?_, ?_, ?_, hn⟩
  · rw [hf]
    exact h.numbers
  · rw [hf, ht]
    exact h.books
  · rw [hf, ht]
    exact h.knows
  · rw [hf, ht]
    exact h.owing

theorem moves {group : Pid} (h : Sane s l n k g) (hm : s.Moves pid group s') : Sane s' l n k g := by
  obtain ⟨i, c, hc, -, -, rfl⟩ := hm
  refine h.quiet (family_put_open hc rfl rfl) rfl rfl fun hu => h.noticed ?_
  obtain ⟨c', hmem, x, hx⟩ := hu
  rcases List.mem_or_eq_of_mem_set hmem with hmem | rfl
  · exact ⟨c', hmem, x, hx⟩
  · exact ⟨c, List.mem_of_getElem? hc, x, hx⟩

theorem ends (h : Sane s l n k g) (hc : s.children[i]? = some c) (hp : c.phase = .running) (x : Status) :
    Sane { s.put i { c with phase := .ended x } with pending := true } l n k g := by
  have hf : (s.put i { c with phase := .ended x }).family = s.family := by
    refine family_put_open hc rfl ?_
    rw [Child.fate?, Child.fate?, hp]
  exact h.quiet hf rfl rfl fun _ => .inl rfl

theorem open_of_ended (hc : s.children[i]? = some c) (hx : c.phase = .ended x) :
    s.family.fate? i = none := by
  rw [family_fate? hc, Child.fate?, hx]

/-! ### The interpreter -/

theorem forks (h : Sane s l n k g) (hw : k.waited = []) (hfree : s.Free pid) {group : Pid} :
    Sane (s.bear ⟨pid, group, .running⟩) l n (k.forks [pid]) g := by
  obtain ⟨hpos, -, -, hno⟩ := hfree
  have hgone : ∀ i : Nat, s.family.pids[i]? = some pid → s.family.Gone i := by
    intro i hi
    obtain ⟨c, hc, hp⟩ := family_pids_eq_some_iff.mp hi
    obtain ⟨x, θ, hx⟩ := (hno c (List.mem_of_getElem? hc)).resolve_right fun hne => hne.1 hp
    exact Family.gone_of_fate? (family_fate?_eq_some_iff.mpr ⟨c, hc, hx⟩)
  have hg : s.family.Grows (s.family.forks pid) := s.family.grows_forks pid
  refine ⟨h.interpreter, h.reaper, ?_, ?_, ?_, ?_, fun hu => h.noticed ?_⟩
  · rw [family_bear]
    exact h.numbers.forks hpos hgone
  · rw [family_bear]
    exact h.books.grows hg
  · rw [family_bear]
    exact h.knows.forks hw hgone
  · rw [family_bear]
    exact h.owing.forks h.numbers hw
  · obtain ⟨c, hmem, x, hx⟩ := hu
    rcases List.mem_append.mp hmem with hmem | hmem
    · exact ⟨c, hmem, x, hx⟩
    · rw [List.mem_singleton.mp hmem] at hx
      cases hx

/-- The interpreter collects a child that it may wait for. -/
theorem collects (h : Sane s l n k g) (hk : k.Awaitable c.pid) (hc : s.children[i]? = some c)
    (hx : c.phase = .ended x) :
    Sane (s.put i { c with phase := .collected x .interpreter }) l n (k.hears [(c.pid, some x)]) g := by
  have hp : s.family.pids[i]? = some c.pid := family_pids hc
  have hi : s.family.fate? i = none := open_of_ended hc hx
  have hg : s.family.Grows (s.family.collects i x .interpreter) := Family.grows_collects hi
  refine ⟨h.interpreter, h.reaper, ?_, ?_, ?_, ?_, fun hu => h.noticed (unreaped_put (fun _ hx => by cases hx) hu)⟩
  · rw [family_put_collected hc]
    exact h.numbers.collects hp hi
  · rw [family_put_collected hc]
    exact h.books.grows hg
  · rw [family_put_collected hc]
    exact h.knows.collects h.numbers hp hi
  · rw [family_put_collected hc]
    refine h.owing.waits hg fun job j hj hl hgone => ?_
    rcases Family.gone_collects hgone with hgone | rfl
    · exact .inl hgone
    · rcases hk.2 with hforked | ⟨hforked, -⟩
      · -- A child of the line does not lead a job as long as the line has added none.
        obtain ⟨m, hnm, hm⟩ := h.knows.mem_forked_iff.mp hforked
        have hlead : j < n := h.knows.leaders hk.1 job j hl
        exact absurd hi (h.numbers.older j m c.pid (Nat.lt_of_lt_of_le hlead hnm) hp hm)
      · have hpid := h.books.leads job j hl
        rw [hp] at hpid
        exact .inr ⟨hforked, (Option.some.inj hpid).symm⟩

theorem misses (h : Sane s l n k g)
    (hno : ∀ c ∈ s.children, c.pid = pid → ∃ x θ, c.phase = .collected x θ) :
    Sane s l n (k.hears [(pid, none)]) g := by
  have hgone : ∀ i : Nat, s.family.pids[i]? = some pid → s.family.Gone i := by
    intro i hi
    obtain ⟨c, hc, hp⟩ := family_pids_eq_some_iff.mp hi
    obtain ⟨x, θ, hx⟩ := hno c (List.mem_of_getElem? hc) hp
    exact Family.gone_of_fate? (family_fate?_eq_some_iff.mpr ⟨c, hc, hx⟩)
  exact ⟨h.interpreter, h.reaper, h.numbers, h.books, h.knows.misses hgone,
    h.owing.waits ⟨fun _ _ h => h, fun _ _ h => h⟩ fun _ _ _ _ hgone => .inl hgone, h.noticed⟩

theorem takes (h : Sane s l n k g) (hs : s.holder = none) (hf : k.forked = []) :
    Sane { s with holder := some .interpreter } l n (k.takes s.table) g := by
  refine ⟨?_, ?_, h.numbers, h.books, h.knows.takes h.books, h.owing.takes h.knows h.numbers hf, h.noticed⟩
  · rw [Shared.heldBy_self rfl]
    rfl
  · rw [h.reaper, Shared.heldBy_of_ne (by rw [hs]; simp), Shared.heldBy_of_ne (by simp)]

/-- The interpreter gives the table back. -/
theorem gives {t t' : JobTable} {k' : Sight} {line : Text} (h : Sane s l n k g) (hs : s.holder = some .interpreter)
    (ht : k.held = some t) (hg : GivesBack k t t' k') :
    Sane { s with table := t', holder := none } (l.note s (.line line) (.releaseJobs t')) n k' g := by
  obtain rfl : s.table = t := by
    rw [h.interpreter, Shared.heldBy_self hs] at ht
    exact Option.some.inj ht
  have hreaper : g.held? = none := h.reaper.trans (Shared.heldBy_of_ne (by rw [hs]; simp))
  cases hg with
  | same =>
    rw [note_same]
    exact ⟨rfl, hreaper, h.numbers, h.books, h.knows.gives,
      h.owing.fewer (fun _ hj => hj) rfl ⟨rfl, rfl⟩ rfl, h.noticed⟩
  | @removes pid hf hw =>
    rw [note_remove h.books.pids]
    refine ⟨rfl, hreaper, h.numbers, h.books.drops fun job i hl hp _ => .inl ?_, h.knows.drops h.books hw _,
      h.owing.fewer (fun _ => JobTable.mem_of_mem_remove) rfl ⟨rfl, rfl⟩ rfl, h.noticed⟩
    obtain ⟨y, hy, rfl⟩ := List.mem_map.mp hw
    exact h.knows.gone y hy i (hp ▸ h.books.leads job i hl)
  | @adds leader group text hl hw ha =>
    obtain ⟨m, hnm, hlast, hm⟩ := h.knows.last hl
    rw [note_add h.books hm hlast]
    -- A job that was led by the same pid goes; its leader was collected, as it is older than the new one.
    have hdrops : Books s.family (s.table.remove leader).2 (l.drops s.table leader (.line line)) := by
      refine h.books.drops fun job i hi hp _ => .inl ?_
      exact h.numbers.older i m leader (Nat.lt_of_lt_of_le (h.knows.leaders ha job i hi) hnm)
        (hp ▸ h.books.leads job i hi) hm
    have hadmits : Books s.family ((s.table.remove leader).2.add leader group text).2
        ((l.drops s.table leader (.line line)).admits ((s.table.remove leader).2.add leader group text).1 m) :=
      hdrops.admits (JobTable.absent_remove h.books.pids) hm
    rw [add_remove h.books.pids] at hadmits
    exact ⟨rfl, hreaper, h.numbers, hadmits, h.knows.adds hw _,
      h.owing.adds h.books (by rw [ht]; rfl) hw hm hnm _, h.noticed⟩

/-- What the interpreter waits for is a pid, so that the wait can only be about a child that has it. -/
theorem awaitable_pos (h : Sane s l n k g) (hk : k.Awaitable pid) : 0 < pid := by
  rcases hk.2 with hforked | ⟨-, job, hj, rfl⟩
  · obtain ⟨i, -, hi⟩ := h.knows.mem_forked_iff.mp hforked
    exact h.numbers.positive i pid hi
  · obtain ⟨i, hl⟩ := h.knows.seen job hj
    exact h.numbers.positive i _ (h.books.leads job i hl)

/-- What the interpreter does under its contract. -/
theorem evaluates {c : Call} {r : c.Reply} {P : c.Reply → Sight → Prop} {line : Text} (h : Sane s l n k g)
    (hP : Recycling.interpreter.pre c P k) (ha : Answer .interpreter c s r s') :
    ∃ k', P r k' ∧ Sane s' (l.note s (.line line) c) n k' g := by
  cases c with
  | fork =>
    obtain ⟨hw, -, hchild, herror⟩ := hP
    cases r with
    | error e =>
      obtain rfl : s' = s := ha
      exact ⟨k, herror e, h⟩
    | ok forked =>
      cases forked with
      | child => exact ha.elim
      | parent pid =>
        obtain ⟨hfree, rfl⟩ := ha
        exact ⟨_, hchild pid, h.forks hw hfree⟩
  | setGroup pid group =>
    cases r with
    | error e =>
      obtain rfl : s' = s := ha
      exact ⟨k, hP _, h⟩
    | ok _ => exact ⟨k, hP _, h.moves ha⟩
  | wait target block =>
    obtain ⟨hk, rfl, hreport, hnone, hagain⟩ := hP
    have hpos : 0 < target := h.awaitable_pos hk
    cases ha with
    | @collects i c x report hc hx ht hr =>
      obtain rfl : target = c.pid := ht.resolve_left fun he => by subst he; cases hpos
      exact ⟨_, hreport x report hr, h.collects hk hc hx⟩
    | alive hb => cases hb
    | noChild hno => exact ⟨_, hnone, h.misses fun c hc hp => hno c hc (.inr hp.symm)⟩
    | interrupted => exact ⟨k, hagain, h⟩
  | acquireJobs =>
    obtain ⟨-, hf, htakes⟩ := hP
    obtain ⟨hs, rfl, rfl⟩ := ha
    exact ⟨_, htakes s.table, h.takes hs hf⟩
  | releaseJobs t' =>
    obtain ⟨t, k', ht, hg, hP⟩ := hP
    obtain ⟨hs, rfl⟩ := ha
    exact ⟨k', hP, h.gives hs ht hg⟩
  | awaitNotice => exact hP.elim
  | _ =>
    obtain rfl : s' = s := ha
    exact ⟨k, hP _, h⟩

/-! ### The reaper -/

/-- The reaper goes on without a change to what is shared. -/
theorem notes {g' : Reaping} (h : Sane s l n k g) (hh : g'.held? = g.held?) (ho : g'.owed? = g.owed?)
    (hn : g' = .idle → ¬ s.Unreaped) : Sane s l n k g' :=
  ⟨h.interpreter, hh.trans h.reaper, h.numbers, h.books, h.knows, h.owing.same ho,
    fun hu => .inr (.inr fun hg => hn hg hu)⟩

theorem reapsChild (h : Sane s l n k .collecting) (hc : s.children[i]? = some c) (hx : c.phase = .ended x) :
    Sane (s.put i { c with phase := .collected x .reaper }) l n k (.owing c.pid) := by
  have hp : s.family.pids[i]? = some c.pid := family_pids hc
  have hi : s.family.fate? i = none := open_of_ended hc hx
  refine ⟨h.interpreter, h.reaper, ?_, ?_, ?_, ?_, fun _ => .inr (.inr nofun)⟩
  · rw [family_put_collected hc]
    exact h.numbers.collects hp hi
  · rw [family_put_collected hc]
    exact h.books.grows (Family.grows_collects hi)
  · rw [family_put_collected hc]
    exact h.knows.reaped hi
  · rw [family_put_collected hc]
    exact h.owing.reaped h.numbers hp h.books.leads

theorem reaperTakes (h : Sane s l n k (.owing pid)) (hs : s.holder = none) :
    Sane { s with holder := some .reaper } l n k (.holding pid s.table) := by
  refine ⟨?_, ?_, h.numbers, h.books, h.knows, h.owing.same rfl, fun _ => .inr (.inr nofun)⟩
  · rw [h.interpreter, Shared.heldBy_of_ne (by rw [hs]; simp), Shared.heldBy_of_ne (by simp)]
  · rw [Shared.heldBy_self rfl]
    rfl

theorem reaperDrops {t : JobTable} (h : Sane s l n k (.holding pid t)) (hs : s.holder = some .reaper) :
    Sane { s with table := (t.remove pid).2, holder := none } (l.note s .reaper (.releaseJobs (t.remove pid).2)) n k
      .collecting := by
  obtain rfl : s.table = t := by
    have hheld := h.reaper
    rw [Shared.heldBy_self hs] at hheld
    exact (Option.some.inj hheld).symm
  have hk : k.held = none := h.interpreter.trans (Shared.heldBy_of_ne (by rw [hs]; simp))
  rw [note_remove h.books.pids]
  refine ⟨hk, rfl, h.numbers, h.books.drops fun job i hl hp _ => ?_,
    h.knows.fewer (fun _ => JobTable.mem_of_mem_remove) rfl, h.owing.reaperDrops h.books hk rfl _,
    fun _ => .inr (.inr nofun)⟩
  -- The job is led by the child that was collected, by an older one, or by one that got the pid afterwards.
  obtain ⟨j, x, hj, hx⟩ := h.owing.owed pid rfl
  have hi : s.family.pids[i]? = some pid := hp ▸ h.books.leads job i hl
  rcases Nat.lt_trichotomy i j with hlt | rfl | hgt
  · exact .inl (h.numbers.older i j pid hlt hi hj)
  · exact .inl (Family.gone_of_fate? hx)
  · exact .inr ⟨rfl, pid, j, x, hgt, hi, hj, hx⟩

/-- What the reaper does under its contract. -/
theorem reaps {c : Call} {r : c.Reply} {P : c.Reply → Reaping → Prop} (h : Sane s l n k g)
    (hP : Recycling.reaper.pre c P g) (ha : Answer .reaper c s r s') :
    ∃ g', P r g' ∧ Sane s' (l.note s .reaper c) n k g' := by
  cases c with
  | awaitNotice =>
    obtain ⟨rfl, hchanged, hinterrupt⟩ := hP
    cases r with
    | childChanged =>
      obtain ⟨-, rfl⟩ := ha
      exact ⟨_, hchanged, ⟨h.interpreter, h.reaper, h.numbers, h.books, h.knows, h.owing.same rfl,
        fun _ => .inr (.inr nofun)⟩⟩
    | interrupt =>
      obtain rfl : s' = s := ha
      exact ⟨_, hinterrupt, h⟩
    | closed => exact ha.elim
  | write d bytes =>
    obtain ⟨rfl, hP⟩ := hP
    obtain rfl : s' = s := ha
    exact ⟨_, hP _, h⟩
  | wait target block =>
    obtain ⟨rfl, rfl, rfl, hreport, halive, hnone, hagain⟩ := hP
    cases ha with
    | @collects i c x report hc hx ht hr => exact ⟨_, hreport c.pid x report hr, h.reapsChild hc hx⟩
    | alive hb hr hn =>
      refine ⟨_, halive, h.notes rfl rfl fun _ ⟨c, hmem, x, hx⟩ => ?_⟩
      exact hn c hmem (.inl rfl) x hx
    | noChild hno =>
      refine ⟨_, hnone, h.notes rfl rfl fun _ ⟨c, hmem, x, hx⟩ => ?_⟩
      obtain ⟨y, θ, hy⟩ := hno c hmem (.inl rfl)
      rw [hx] at hy
      cases hy
    | interrupted => exact ⟨_, hagain, h⟩
  | acquireJobs =>
    obtain ⟨pid, rfl, hP⟩ := hP
    obtain ⟨hs, rfl, rfl⟩ := ha
    exact ⟨_, hP s.table, h.reaperTakes hs⟩
  | releaseJobs t' =>
    obtain ⟨pid, t, rfl, rfl, hP⟩ := hP
    obtain ⟨hs, rfl⟩ := ha
    exact ⟨_, hP, h.reaperDrops hs⟩
  | _ => exact hP.elim

end Sane

end JobShell.Recycling
