import JobShell.Proofs.Group.Launching
import Mathlib.Data.List.Nodup

/-! # The groups in which the stages execute

Every stage executes its program in the group of the first stage, unless the first stage has been collected before.
Then the group may be gone when a later stage asks for it, and nobody looks at the refusal: the stage executes in the
group of the shell, and so the job's group is not the group of all its processes. -/

namespace JobShell.Groups
open Children (Ending)
open Threads (Awaits Thread)

/-- The child is in the group of the first one, or it came when the first one had been collected. -/
def Placed (first : Process) (i : Nat) (c : Process) : Prop :=
  c.group = first.pid ∨ 0 < i ∧ first.activity = .collected

/-- What a child can still do keeps to its contract, and a child that has asked for its group is placed. -/
def Works (first : Process) (i : Nat) (c : Process) : Prop :=
  ∀ p, c.activity = .running p → c.executed = none ∧ ∃ settled, (settled = true → Placed first i c) ∧
    p.Ensures contract (fun _ _ => True) (.child (if i = 0 then 0 else first.pid) settled)

structure Sound (home : Pid) (first : Process) (i : Nat) (c : Process) : Prop where
  group : c.group = home ∨ c.group = first.pid
  executed : ∀ g, c.executed = some g → c.group = g ∧ Placed first i c
  works : Works first i c

/-- What is known of the children, the first of which may have been put into its group. -/
structure Kept (home : Pid) (children : List Process) (told : Bool) : Prop where
  pids : (children.map Process.pid).Nodup
  pos : ∀ c ∈ children, 0 < c.pid
  early : 1 < children.length → told = true
  formed : told = true → ∃ first, children[0]? = some first ∧ (first.group = first.pid ∨ first.activity = .collected)
  each : ∀ first, children[0]? = some first → ∀ i c, children[i]? = some c → Sound home first i c

variable {home g : Pid} {first first' c c' : Process} {i : Nat} {children : List Process} {told told' : Bool}

/-! ### One child -/

theorem Placed.of_first (h : Placed first i c) (hp : first'.pid = first.pid)
    (hc : first.activity = .collected → first'.activity = .collected) : Placed first' i c :=
  h.imp (fun h => h.trans hp.symm) fun h => ⟨h.1, hc h.2⟩

theorem Sound.of_first (h : Sound home first i c) (hp : first'.pid = first.pid)
    (hc : first.activity = .collected → first'.activity = .collected) : Sound home first' i c where
  group := h.group.imp_right fun h => h.trans hp.symm
  executed g hg := ⟨(h.executed g hg).1, (h.executed g hg).2.of_first hp hc⟩
  works p ha := by
    obtain ⟨hnone, settled, hplaced, hp'⟩ := h.works p ha
    exact ⟨hnone, settled, fun hs => (hplaced hs).of_first hp hc, hp ▸ hp'⟩

theorem map_pid_set (hc : children[i]? = some c) (hpid : c'.pid = c.pid) :
    (children.set i c').map Process.pid = children.map Process.pid := by
  obtain ⟨hlt, rfl⟩ := List.getElem?_eq_some_iff.mp hc
  have hi : i < (children.map Process.pid).length := by rwa [List.length_map]
  rw [List.map_set, hpid, show children[i].pid = (children.map Process.pid)[i] from (List.getElem_map _).symm,
    List.set_getElem_self]

namespace Kept

theorem nil (home : Pid) : Kept home [] false :=
  ⟨List.nodup_nil, nofun, nofun, nofun, nofun⟩

/-- One child changes, and is sound beside the first child as it was. If it is the first one, the others see the
change. -/
theorem set (h : Kept home children told) (hc : children[i]? = some c) (hpid : c'.pid = c.pid)
    (hcollected : c.activity = .collected → c'.activity = .collected) (htold : told = true → told' = true)
    (hformed : told' = true → i = 0 ∧ (c'.group = c'.pid ∨ c'.activity = .collected) ∨ i ≠ 0 ∧ told = true)
    (hsound : ∀ first, children[0]? = some first → Sound home first i c') : Kept home (children.set i c') told' := by
  -- The first child may be the one that changes, but it keeps its number and stays collected.
  have hfirst : ∀ first', (children.set i c')[0]? = some first' → ∃ first, children[0]? = some first ∧
      first'.pid = first.pid ∧ (first.activity = .collected → first'.activity = .collected) := by
    intro first' hf
    by_cases hi : i = 0
    · subst hi
      rw [List.getElem?_set_self (List.getElem?_eq_some_iff.mp hc).1] at hf
      cases hf
      exact ⟨c, hc, hpid, hcollected⟩
    · rw [List.getElem?_set_ne hi] at hf
      exact ⟨first', hf, rfl, id⟩
  have hpids : (children.set i c').map Process.pid = children.map Process.pid := map_pid_set hc hpid
  refine ⟨hpids ▸ h.pids, fun d hd => ?_, fun hl => htold (h.early (by rwa [List.length_set] at hl)), fun ht => ?_,
    fun first' hf j d hd => ?_⟩
  · have hd : d.pid ∈ children.map Process.pid := hpids ▸ List.mem_map_of_mem hd
    obtain ⟨d', hd', he⟩ := List.mem_map.mp hd
    exact he ▸ h.pos d' hd'
  · rcases hformed ht with ⟨rfl, hc'⟩ | ⟨hi, ht⟩
    · exact ⟨c', List.getElem?_set_self (List.getElem?_eq_some_iff.mp hc).1, hc'⟩
    · obtain ⟨first, hf, hplace⟩ := h.formed ht
      exact ⟨first, by rwa [List.getElem?_set_ne hi], hplace⟩
  · obtain ⟨first, hfirst, hp, hcoll⟩ := hfirst first' hf
    refine Sound.of_first ?_ hp hcoll
    by_cases hj : i = j
    · subst hj
      rw [List.getElem?_set_self (List.getElem?_eq_some_iff.mp hc).1] at hd
      cases hd
      exact hsound first hfirst
    · rw [List.getElem?_set_ne hj] at hd
      exact h.each first hfirst j d hd

/-- A child goes on or ends. -/
theorem act (h : Kept home children told) (hc : children[i]? = some c) (hthere : c.activity ≠ .collected)
    {activity : Activity}
    (hworks : ∀ first, children[0]? = some first → Works first i { c with activity }) :
    Kept home (children.set i { c with activity }) told := by
  refine h.set hc rfl (fun hc => absurd hc hthere) id (fun ht => ?_) fun first hf => ?_
  · by_cases hi : i = 0
    · subst hi
      obtain ⟨first, hf, hplace⟩ := h.formed ht
      cases hc.symm.trans hf
      exact .inl ⟨rfl, .inl (hplace.resolve_right hthere)⟩
    · exact .inr ⟨hi, ht⟩
  · have hold := h.each first hf i c hc
    exact ⟨hold.group, hold.executed, hworks first hf⟩

/-- The program of a child has come to an end. -/
theorem retire (h : Kept home children told) (hc : children[i]? = some c) (hthere : c.activity ≠ .collected)
    {activity : Activity} (ha : ∀ p, activity ≠ .running p) : Kept home (children.set i { c with activity }) told :=
  h.act hc hthere fun _ _ p hp => absurd hp (ha p)

/-- A child joins the group of the first one. When the first one has joined it, the group is there. -/
theorem regroup (h : Kept home children told) (hf : children[0]? = some first) (hc : children[i]? = some c)
    (hnone : c.executed = none) {activity : Activity} (hcollected : c.activity = .collected → activity = .collected)
    (hworks : ∀ p, activity = .running p → ∃ settled,
      p.Ensures contract (fun _ _ => True) (.child (if i = 0 then 0 else first.pid) settled))
    (htold : told = true → told' = true) (hfirst : told' = true → i = 0 ∨ told = true) :
    Kept home (children.set i { c with group := first.pid, activity }) told' := by
  refine h.set hc rfl hcollected htold (fun ht => ?_) fun f hf' => ?_
  · by_cases hi : i = 0
    · subst hi
      cases hf.symm.trans hc
      exact .inl ⟨rfl, .inl rfl⟩
    · exact .inr ⟨hi, (hfirst ht).resolve_left hi⟩
  · cases hf.symm.trans hf'
    refine ⟨.inr rfl, fun g hg => ?_, fun p hp => ?_⟩
    · cases hnone.symm.trans hg
    · obtain ⟨settled, hp⟩ := hworks p hp
      exact ⟨hnone, settled, fun _ => .inl rfl, hp⟩

/-- A child that is placed executes its program. -/
theorem execute (h : Kept home children told) (hc : children[i]? = some c) (hthere : c.activity ≠ .collected)
    (hplaced : ∀ first, children[0]? = some first → Placed first i c) :
    Kept home (children.set i { c with executed := some c.group, activity := .executing }) told := by
  refine h.set hc rfl (fun hc => absurd hc hthere) id (fun ht => ?_) fun first hf => ?_
  · by_cases hi : i = 0
    · subst hi
      exact .inl ⟨rfl, .inl ((hplaced c hc).resolve_right fun h => absurd h.1 (Nat.lt_irrefl 0))⟩
    · exact .inr ⟨hi, ht⟩
  · refine ⟨(h.each first hf i c hc).group, fun g hg => ?_, nofun⟩
    cases hg
    exact ⟨rfl, hplaced first hf⟩

/-- A child is forked. Only the first one is forked before the group of the first one is there. -/
theorem fork (h : Kept home children told) {pid : Pid} {p : Prog (Except Failure Launched)} (hpos : 0 < pid)
    (hnew : ∀ c ∈ children, c.pid ≠ pid) (ht : children = [] ∨ told = true)
    (hp : p.Ensures contract (fun _ _ => True) (.child ((children.map Process.pid).headD 0) false)) :
    Kept home (children ++ [⟨pid, home, none, .running p⟩]) told := by
  have hsound : ∀ first, (children ++ [⟨pid, home, none, .running p⟩])[0]? = some first →
      Sound home first children.length ⟨pid, home, none, .running p⟩ := by
    intro first hf
    refine ⟨.inl rfl, nofun, fun q hq => ⟨rfl, false, nofun, ?_⟩⟩
    cases hq
    cases children with
    | nil => exact hp
    | cons c children =>
      cases hf
      exact hp
  refine ⟨?_, ?_, ?_, ?_, fun first hf i c hc => ?_⟩
  · rw [List.map_append, List.map_singleton]
    refine List.nodup_append.mpr ⟨h.pids, List.pairwise_singleton _ _, fun q hq q' hq' he => ?_⟩
    obtain ⟨c, hc, rfl⟩ := List.mem_map.mp hq
    exact hnew c hc (he.trans (List.mem_singleton.mp hq'))
  · exact List.forall_mem_append.mpr ⟨h.pos, List.forall_mem_singleton.mpr hpos⟩
  · intro hl
    refine ht.resolve_left fun hnil => ?_
    rw [hnil] at hl
    exact Nat.lt_irrefl 1 hl
  · intro ht
    obtain ⟨first, hf, hplace⟩ := h.formed ht
    exact ⟨first, by rw [List.getElem?_append_left (List.getElem?_eq_some_iff.mp hf).1, hf], hplace⟩
  · by_cases hi : i < children.length
    · rw [List.getElem?_append_left hi] at hc
      rw [List.getElem?_append_left (Nat.zero_lt_of_lt hi)] at hf
      exact h.each first hf i c hc
    · have hlast := (List.getElem?_eq_some_iff.mp hc).1
      rw [List.length_append, List.length_singleton] at hlast
      obtain rfl : i = children.length := by omega
      rw [List.getElem?_append_right (Nat.le_refl _), Nat.sub_self] at hc
      cases hc
      exact hsound first hf

theorem eq_zero (h : Kept home children told) (hf : children[0]? = some first) (hc : children[i]? = some c)
    (he : c.pid = first.pid) : i = 0 := by
  obtain ⟨hi, rfl⟩ := List.getElem?_eq_some_iff.mp hc
  obtain ⟨h0, rfl⟩ := List.getElem?_eq_some_iff.mp hf
  have hi' : i < (children.map Process.pid).length := by rwa [List.length_map]
  have h0' : 0 < (children.map Process.pid).length := by rwa [List.length_map]
  have hpid : (children.map Process.pid)[i] = (children.map Process.pid)[0] := by
    rwa [List.getElem_map, List.getElem_map]
  exact (List.Nodup.getElem_inj_iff h.pids).mp hpid

end Kept

/-! ### The threads of the shell -/

variable {s s' : System}

/-- The group of the first child is there for the others, until the first child has been collected. -/
theorem Kept.collected (h : Kept s.home s.children told) (hf : s.children[0]? = some first) (ht : told = true)
    (hg : ¬ s.HasGroup first.pid) : first.activity = .collected := by
  obtain ⟨f, hf', hplace⟩ := h.formed ht
  cases hf.symm.trans hf'
  by_contra hthere
  exact hg (.inr ⟨first, List.mem_of_getElem? hf, hthere, hplace.resolve_right hthere⟩)

theorem Kept.setsGroup {pid : Pid} {r : Except Errno Unit} (h : Kept s.home s.children told)
    (hpermits : (Sight.shell (s.children.map Process.pid) told).Permits (.setGroup pid g))
    (hset : s.SetsGroup pid g r s') : Kept s'.home s'.children true ∧
      s'.children.map Process.pid = s.children.map Process.pid := by
  obtain ⟨hhead, -, htold⟩ := hpermits
  rw [List.head?_eq_getElem?, List.getElem?_map] at hhead
  obtain ⟨first, hf, rfl⟩ := Option.map_eq_some_iff.mp hhead
  cases hset with
  | @joins i c hc hp hj =>
    refine ⟨h.regroup hf hc hj.2.1 id (fun q hq => ?_) (fun _ => rfl) fun _ => ?_, map_pid_set hc rfl⟩
    · obtain ⟨-, settled, -, hq⟩ := (h.each first hf i c hc).works q hq
      exact ⟨settled, hq⟩
    · exact htold.imp_left fun hfirst => h.eq_zero hf hc (hp.trans hfirst)
  | refused e hno =>
    refine ⟨{ h with early := fun _ => rfl, formed := fun _ => ⟨first, hf, ?_⟩ }, rfl⟩
    rcases htold with hfirst | ht
    · -- The first child can only be refused its own group if it has executed its program, or is gone.
      by_contra hplace
      obtain ⟨hgroup, hthere⟩ := not_or.mp hplace
      cases hexecuted : first.executed with
      | none => exact hno first (List.mem_of_getElem? hf) hfirst.symm ⟨hthere, hexecuted, .inl rfl⟩
      | some g =>
        have hplaced := ((h.each first hf 0 first hf).executed g hexecuted).2
        exact hgroup (hplaced.resolve_right fun h => Nat.lt_irrefl 0 h.1)
    · obtain ⟨f, hf', hplace⟩ := h.formed ht
      cases hf.symm.trans hf'
      exact hplace

theorem Kept.waits {target : Pid} {block : Bool} {r : Except Errno Report} (h : Kept s.home s.children told)
    (hw : s.Waits target block r s') : Kept s'.home s'.children told ∧
      s'.children.map Process.pid = s.children.map Process.pid := by
  cases hw with
  | @collects i c e report hc ht he hr =>
    exact ⟨h.retire hc (by rw [he]; nofun) nofun, map_pid_set hc rfl⟩
  | _ => exact ⟨h, rfl⟩

/-- What is known of the whole system. -/
structure Sane (p : Pipeline) (s : System) (told : Bool) : Prop where
  kept : Kept s.home s.children told
  shell : s.shell.Ensures contract (Launches p) (.shell (s.children.map Process.pid) told)
  reaper : ∀ q, s.reaper = some q → q.Ensures contract (fun _ _ => True) .reaper

variable {p : Pipeline}

theorem sane_start (home : Pid) (others : Set Pid) (table : JobTable) (hp : p.background = true) :
    Sane p (.start home others table p) false :=
  ⟨.nil home, ensures_launch hp, nofun⟩

/-- A child changes, and the shell and the reaper do not care. -/
theorem Sane.put (h : Sane p s told) (hc : s.children[i]? = some c) (hpid : c'.pid = c.pid)
    (hkept : Kept s.home (s.children.set i c') told) : Sane p (s.put i c') told := by
  refine ⟨hkept, ?_, h.reaper⟩
  rw [show (s.put i c').children.map Process.pid = s.children.map Process.pid from map_pid_set hc hpid]
  exact h.shell

/-- The call that a child is about to make is one that it may make. -/
theorem Sane.call (h : Sane p s told) {call : Call} {next : call.Reply → Prog (Except Failure Launched)}
    (hc : s.children[i]? = some c) (ha : c.activity = .running (.call call next)) :
    ∃ first, s.children[0]? = some first ∧ c.executed = none ∧
      ∃ settled, (settled = true → Placed first i c) ∧
        contract.pre call (fun r k => (next r).Ensures contract (fun _ _ => True) k)
          (.child (if i = 0 then 0 else first.pid) settled) := by
  have h0 : 0 < s.children.length := Nat.zero_lt_of_lt (List.getElem?_eq_some_iff.mp hc).1
  exact ⟨_, List.getElem?_eq_getElem h0, (h.kept.each _ (List.getElem?_eq_getElem h0) i c hc).works _ ha⟩

/-- A call of a thread changes neither the group of the shell nor what the threads have left to do. -/
theorem answer_threads {θ : Thread} {call : Call} {r : call.Reply} (ha : System.Answer θ call s r s') :
    s'.home = s.home ∧ s'.shell = s.shell ∧ s'.reaper = s.reaper := by
  cases call with
  | setGroup pid g => cases ha <;> exact ⟨rfl, rfl, rfl⟩
  | wait target block => cases ha <;> exact ⟨rfl, rfl, rfl⟩
  | acquireJobs => obtain ⟨-, -, rfl⟩ := ha; exact ⟨rfl, rfl, rfl⟩
  | releaseJobs table => obtain ⟨-, rfl⟩ := ha; exact ⟨rfl, rfl, rfl⟩
  | fork =>
    cases r with
    | error e => cases ha; exact ⟨rfl, rfl, rfl⟩
    | ok _ => exact ha.elim
  | _ => cases ha; exact ⟨rfl, rfl, rfl⟩

theorem not_hasGroup (hothers : g ∉ s.others) (h : ∀ c ∈ s.children, c.activity = .collected ∨ c.group ≠ g) :
    ¬ s.HasGroup g := by
  rintro (hg | ⟨c, hc, hthere, hg⟩)
  · exact hothers hg
  · exact (h c hc).elim hthere fun hne => hne hg

theorem step_home (h : s.Step s') : s'.home = s.home := by
  cases h with
  | launch hs ha => exact (answer_threads ha).1
  | reap hr ha => exact (answer_threads ha).1
  | _ => rfl

theorem note_plain {call : Call} {settled : Bool} (h : System.Plain call) (r : call.Reply) :
    (Sight.child g settled).Allows call r ∧ (Sight.child g settled).note call r = .child g settled := by
  cases call <;> first | exact h.elim | exact ⟨trivial, rfl⟩

/-- What the shell knows behind one of its calls. -/
theorem Sane.launch (h : Sane p s told) {call : Call} {next : call.Reply → Prog (Except Failure Launched)}
    {r : call.Reply} (hs : s.shell = .call call next) (ha : System.Answer .interpreter call s r s') :
    ∃ told, Sane p { s' with shell := next r } told := by
  have hshell := h.shell
  rw [hs] at hshell
  obtain ⟨hpermits, hnext⟩ := hshell
  have hreaper : ∀ q, s'.reaper = some q → q.Ensures contract (fun _ _ => True) .reaper := fun q hq =>
    h.reaper q ((answer_threads ha).2.2 ▸ hq)
  cases call with
  | setGroup pid g =>
    obtain ⟨hkept, hpids⟩ := h.kept.setsGroup hpermits ha
    exact ⟨true, hkept, hpids ▸ hnext r trivial, hreaper⟩
  | wait target block =>
    obtain ⟨hkept, hpids⟩ := h.kept.waits ha
    exact ⟨told, hkept, hpids ▸ hnext r trivial, hreaper⟩
  | acquireJobs =>
    obtain ⟨-, -, rfl⟩ := ha
    exact ⟨told, h.kept, hnext r trivial, hreaper⟩
  | releaseJobs table =>
    obtain ⟨-, rfl⟩ := ha
    exact ⟨told, h.kept, hnext r trivial, hreaper⟩
  | fork =>
    cases r with
    | error e =>
      cases ha
      exact ⟨told, h.kept, hnext (.error e) trivial, hreaper⟩
    | ok _ => exact ha.elim
  | _ =>
    cases ha
    exact ⟨told, h.kept, hnext r trivial, hreaper⟩

theorem Sane.reap (h : Sane p s told) {call : Call} {next : call.Reply → Prog (Except Failure (List Job))}
    {r : call.Reply} (hr : s.reaper = some (.call call next)) (ha : System.Answer .reaper call s r s') :
    Sane p { s' with reaper := some (next r) } told := by
  obtain ⟨hpermits, hnext⟩ := h.reaper _ hr
  have hshell : s'.shell.Ensures contract (Launches p) (.shell (s.children.map Process.pid) told) :=
    (answer_threads ha).2.1 ▸ h.shell
  cases call with
  | setGroup pid g => exact hpermits.elim
  | fork => exact hpermits.elim
  | wait target block =>
    obtain ⟨hkept, hpids⟩ := h.kept.waits ha
    exact ⟨hkept, hpids ▸ hshell, fun q hq => by cases hq; exact hnext r trivial⟩
  | acquireJobs =>
    obtain ⟨-, -, rfl⟩ := ha
    exact ⟨h.kept, hshell, fun q hq => by cases hq; exact hnext _ trivial⟩
  | releaseJobs table =>
    obtain ⟨-, rfl⟩ := ha
    exact ⟨h.kept, hshell, fun q hq => by cases hq; exact hnext _ trivial⟩
  | _ =>
    cases ha
    exact ⟨h.kept, hshell, fun q hq => by cases hq; exact hnext r trivial⟩

/-- The group that a child asks for is that of the first child. -/
theorem Kept.target (h : Kept home children told) (hf : children[0]? = some first) (hc : children[i]? = some c) :
    (if (if i = 0 then 0 else first.pid) = 0 then c.pid else if i = 0 then 0 else first.pid) = first.pid := by
  by_cases hi : i = 0
  · subst hi
    cases hf.symm.trans hc
    rw [if_pos rfl, if_pos rfl]
  · have hne : first.pid ≠ 0 := Int.ne_of_gt (h.pos first (List.mem_of_getElem? hf))
    rw [if_neg hi, if_neg hne]

theorem sane_step (h : Sane p s told) (hstep : s.Step s') : ∃ told, Sane p s' told := by
  cases hstep with
  | fork pid hs hpos hnew =>
    have hshell := h.shell
    rw [hs] at hshell
    obtain ⟨hpermits, hnext⟩ := hshell
    have hpid : pid ∉ s.children.map Process.pid := fun hp => by
      obtain ⟨c, hc, he⟩ := List.mem_map.mp hp
      exact hnew c hc he
    refine ⟨told, h.kept.fork hpos hnew (hpermits.imp_left List.map_eq_nil_iff.mp)
      ((hnext (.ok .child) trivial).mono fun _ _ _ => trivial), ?_, h.reaper⟩
    rw [List.map_append]
    exact hnext (.ok (.parent pid)) ⟨hpos, hpid⟩
  | launch hs ha => exact h.launch hs ha
  | repeatLaunch hs =>
    have hshell := h.shell
    rw [hs] at hshell
    exact ⟨told, h.kept, hshell.unroll, h.reaper⟩
  | @join i c g next hc ha hj =>
    obtain ⟨first, hf, hnone, settled, -, ⟨-, rfl⟩, hnext⟩ := h.call hc ha
    rw [h.kept.target hf hc]
    refine ⟨told, h.put hc rfl (h.kept.regroup hf hc hnone (fun hc => ?_) (fun q hq => ?_) id .inr)⟩
    · rw [ha] at hc
      cases hc
    · cases hq
      exact ⟨true, hnext (.ok ()) trivial⟩
  | @stay i c g next e hc ha hj =>
    obtain ⟨first, hf, hnone, settled, -, ⟨-, rfl⟩, hnext⟩ := h.call hc ha
    rw [h.kept.target hf hc] at hj
    -- Only the group of another child can be missing, and this one is there until that child is collected.
    have hgroup : i ≠ 0 ∧ ¬ s.HasGroup first.pid := by
      refine ⟨?_, fun hg => hj ⟨by rw [ha]; nofun, hnone, .inr hg⟩⟩
      rintro rfl
      cases hf.symm.trans hc
      exact hj ⟨by rw [ha]; nofun, hnone, .inl rfl⟩
    have hlater : 1 < s.children.length :=
      Nat.lt_of_le_of_lt (Nat.pos_of_ne_zero hgroup.1) (List.getElem?_eq_some_iff.mp hc).1
    have hcollected := h.kept.collected hf (h.kept.early hlater) hgroup.2
    refine ⟨told, h.put hc rfl (h.kept.act hc (by rw [ha]; nofun) fun f hf' q hq => ⟨hnone, true, fun _ => ?_, ?_⟩)⟩
    · cases hf.symm.trans hf'
      exact .inr ⟨Nat.pos_of_ne_zero hgroup.1, hcollected⟩
    · cases hf.symm.trans hf'
      cases hq
      exact hnext (.error e) trivial
  | execute hc ha =>
    obtain ⟨first, hf, -, settled, hplaced, hsettled, -⟩ := h.call hc ha
    refine ⟨told, h.put hc rfl (h.kept.execute hc (by rw [ha]; nofun) fun f hf' => ?_)⟩
    cases hf.symm.trans hf'
    exact hplaced hsettled
  | exit hc ha => exact ⟨told, h.put hc rfl (h.kept.retire hc (by rw [ha]; nofun) nofun)⟩
  | @act i c x next r hc ha hx =>
    obtain ⟨first, hf, hnone, settled, hplaced, -, hnext⟩ := h.call hc ha
    refine ⟨told, h.put hc rfl (h.kept.act hc (by rw [ha]; nofun) fun f hf' q hq => ⟨hnone, settled, ?_, ?_⟩)⟩
    · cases hf.symm.trans hf'
      exact hplaced
    · cases hf.symm.trans hf'
      cases hq
      obtain ⟨hallows, hnote⟩ := note_plain hx r
      exact hnote ▸ hnext r hallows
  | repeatAct hc ha =>
    refine ⟨told, h.put hc rfl (h.kept.act hc (by rw [ha]; nofun) fun first hf q hq => ?_)⟩
    obtain ⟨hnone, settled, hplaced, hloop⟩ := (h.kept.each first hf _ _ hc).works _ ha
    cases hq
    exact ⟨hnone, settled, hplaced, hloop.unroll⟩
  | finish e hc ha => exact ⟨told, h.put hc rfl (h.kept.retire hc (by rw [ha]; nofun) nofun)⟩
  | kill signal hc ha => exact ⟨told, h.put hc rfl (h.kept.retire hc (by rw [ha]; nofun) nofun)⟩
  | notice hr =>
    refine ⟨told, h.kept, h.shell, fun q hq => ?_⟩
    cases hq
    exact ensures_reap
  | reap hr ha => exact ⟨told, h.reap hr ha⟩
  | repeatReap hr => exact ⟨told, h.kept, h.shell, fun q hq => by cases hq; exact (h.reaper _ hr).unroll⟩
  | report hr => exact ⟨told, h.kept, h.shell, nofun⟩
  | elsewhere others => exact ⟨told, h.kept, h.shell, h.reaper⟩

theorem sane_reaches {others : Set Pid} {table : JobTable} (hp : p.background = true)
    (h : System.Reaches (.start home others table p) s) : s.home = home ∧ ∃ told, Sane p s told := by
  induction h with
  | refl => exact ⟨rfl, false, sane_start home others table hp⟩
  | @tail t u _ hstep ih =>
    obtain ⟨hhome, told, hsane⟩ := ih
    exact ⟨(step_home hstep).trans hhome, sane_step hsane hstep⟩

/-- Whatever the order of the steps of the shell, its children and the reaper: a stage of a pipeline in the background
executes its program in the group of the first stage, or the first stage was collected before and the stage executes in
the group of the shell. The job has the group of the first stage and is led by the last one. -/
theorem background_groups {others : Set Pid} {table : JobTable} (hp : p.background = true)
    (h : System.Reaches (.start home others table p) s) :
    (∀ first, s.children[0]? = some first → ∀ i c g, s.children[i]? = some c → c.executed = some g →
      g = first.pid ∨ 0 < i ∧ g = home ∧ first.activity = .collected) ∧
    ∀ job, s.shell = .done (.ok (.background job)) → s.children.length = p.stages.length ∧
      s.children.head?.map Process.pid = some job.group ∧ s.children.getLast?.map Process.pid = some job.pid := by
  obtain ⟨rfl, told, hsane⟩ := sane_reaches hp h
  refine ⟨fun first hf i c g hc hg => ?_, fun job hj => ?_⟩
  · have hsound := hsane.kept.each first hf i c hc
    obtain ⟨rfl, hplaced⟩ := hsound.executed g hg
    rcases hplaced with hplaced | ⟨hi, hcollected⟩
    · exact .inl hplaced
    · exact hsound.group.elim (fun hhome => .inr ⟨hi, hhome, hcollected⟩) .inl
  · have hshell := hsane.shell
    rw [hj] at hshell
    obtain ⟨pids, told', hk, hjob⟩ := hshell
    obtain ⟨hlength, hhead, hlast⟩ := hjob job rfl
    cases hk
    rw [List.length_map] at hlength
    rw [List.head?_map] at hhead
    rw [List.getLast?_map] at hlast
    exact ⟨hlength, hhead, hlast⟩

/-! ### A first stage that ends at once -/

/-- A stage whose input cannot be opened, and a stage behind it. -/
def shortLived : Pipeline :=
  ⟨[⟨[['a']], some ['x'], none, by simp⟩, ⟨[['b']], none, none, by simp⟩], true⟩

def beforeLaunch : System := .start 50 {50} .empty shortLived

/-- The first stage ends and is collected before the second one is forked. -/
theorem reaches_shortLived : ∃ s job, System.Reaches beforeLaunch s ∧ s.shell = .done (.ok (.background job)) ∧
    job.group = 71 ∧ (∃ first, s.children[0]? = some first ∧ first.pid = 71) ∧
    ∃ c, s.children[1]? = some c ∧ c.executed = some 50 := by
  have h : System.Reaches beforeLaunch beforeLaunch := .refl
  replace h := h.tail (.launch (c := .acquireJobs) (r := .empty) rfl ⟨rfl, rfl, rfl⟩)
  replace h := h.tail (.launch (c := .pipe) (r := .ok (3, 4)) rfl rfl)
  replace h := h.tail (.fork 71 rfl (by decide) nofun)
  replace h := h.tail (.launch (c := .setGroup 71 71) (r := .ok ()) rfl
    (.joins (i := 0) rfl rfl ⟨nofun, rfl, .inl rfl⟩))
  replace h := h.tail (.launch (c := .close 4) (r := .ok ()) rfl rfl)
  -- The first stage fails to open its input.
  replace h := h.tail (.join (i := 0) rfl rfl ⟨nofun, rfl, .inl rfl⟩)
  replace h := h.tail (.act (i := 0) (x := .close 3) (r := .ok ()) rfl rfl trivial)
  replace h := h.tail (.act (i := 0) (x := .duplicate 4 1) (r := .ok ()) rfl rfl trivial)
  replace h := h.tail (.act (i := 0) (x := .close 4) (r := .ok ()) rfl rfl trivial)
  replace h := h.tail (.act (i := 0) (x := .openFile _ _) (r := .error .noEntry) rfl rfl trivial)
  -- It says so in five pieces.
  replace h := h.tail (.act (i := 0) (x := .write 2 _) (r := .ok 6) rfl rfl trivial)
  replace h := h.tail (.act (i := 0) (x := .write 2 _) (r := .ok 1) rfl rfl trivial)
  replace h := h.tail (.act (i := 0) (x := .write 2 _) (r := .ok 2) rfl rfl trivial)
  replace h := h.tail (.act (i := 0) (x := .write 2 _) (r := .ok 25) rfl rfl trivial)
  replace h := h.tail (.act (i := 0) (x := .write 2 _) (r := .ok 1) rfl rfl trivial)
  replace h := h.tail (.exit (i := 0) rfl rfl)
  replace h := h.tail (.notice rfl)
  replace h := h.tail (.repeatReap rfl)
  replace h := h.tail (.reap (c := .wait (-1) false) (r := .ok (.exited 71 1)) rfl
    (.collects (i := 0) rfl (.inl rfl) rfl ⟨rfl, rfl⟩))
  replace h := h.tail (.fork 72 rfl (by decide) (List.forall_mem_singleton.mpr (by decide)))
  -- The group of the first stage is gone, for the second stage and for the shell.
  have hgone : ∀ {t : System} {c : Process}, t.others = {50} → c.pid = 72 →
      (∀ c ∈ t.children, c.activity = .collected ∨ c.group ≠ 71) → ¬ t.CanJoin c 71 := fun ho hp hc hj =>
    hj.2.2.elim (fun he => absurd (he.trans hp) (by decide)) (not_hasGroup (by rw [ho]; decide) hc)
  replace h := h.tail (.stay (i := 1) .notPermitted rfl rfl (hgone rfl rfl
    (List.forall_mem_cons.mpr ⟨.inl rfl, List.forall_mem_singleton.mpr (.inr (by decide))⟩)))
  replace h := h.tail (.launch (c := .setGroup 72 71) (r := .error .notPermitted) rfl (.refused _
    (List.forall_mem_cons.mpr ⟨fun hp => absurd hp (by decide), List.forall_mem_singleton.mpr fun _ => hgone rfl rfl
      (List.forall_mem_cons.mpr ⟨.inl rfl, List.forall_mem_singleton.mpr (.inr (by decide))⟩)⟩)))
  replace h := h.tail (.launch (c := .close 3) (r := .ok ()) rfl rfl)
  replace h := h.tail (.launch (c := .releaseJobs _) (r := ()) rfl ⟨rfl, rfl⟩)
  replace h := h.tail (.act (i := 1) (x := .duplicate 3 0) (r := .ok ()) rfl rfl trivial)
  replace h := h.tail (.act (i := 1) (x := .close 3) (r := .ok ()) rfl rfl trivial)
  replace h := h.tail (.act (i := 1) (x := .defaultSignal .interrupt) (r := ()) rfl rfl trivial)
  replace h := h.tail (.act (i := 1) (x := .defaultSignal .quit) (r := ()) rfl rfl trivial)
  replace h := h.tail (.act (i := 1) (x := .defaultSignal .terminalStop) (r := ()) rfl rfl trivial)
  replace h := h.tail (.act (i := 1) (x := .defaultSignal .terminalInput) (r := ()) rfl rfl trivial)
  replace h := h.tail (.act (i := 1) (x := .defaultSignal .terminalOutput) (r := ()) rfl rfl trivial)
  replace h := h.tail (.act (i := 1) (x := .defaultSignal .child) (r := ()) rfl rfl trivial)
  replace h := h.tail (.act (i := 1) (x := .defaultSignal .pipe) (r := ()) rfl rfl trivial)
  replace h := h.tail (.act (i := 1) (x := .unblockSignals) (r := ()) rfl rfl trivial)
  replace h := h.tail (.execute (i := 1) rfl rfl)
  exact ⟨_, _, h, rfl, rfl, ⟨_, rfl, rfl⟩, _, rfl, rfl⟩

theorem background_groups_shortLived : ∃ s first, System.Reaches beforeLaunch s ∧ shortLived.background = true ∧
    s.children[0]? = some first ∧ first.activity = .collected ∧ s.children.length = 2 := by
  obtain ⟨s, job, h, hjob, -, ⟨first, hf, hpid⟩, c, hc, hexecuted⟩ := reaches_shortLived
  obtain ⟨hgroups, hjobs⟩ := background_groups rfl h
  refine ⟨s, first, h, rfl, hf, ?_, (hjobs job hjob).1⟩
  refine ((hgroups first hf 1 c 50 hc hexecuted).resolve_left fun he => ?_).2.2
  rw [hpid] at he
  exact absurd he (by decide)

/-- The launch has returned its job, and a stage has executed its program in another group than that of the job. -/
theorem background_groups_apart : ∃ s job, System.Reaches beforeLaunch s ∧ shortLived.background = true ∧
    s.shell = .done (.ok (.background job)) ∧
    ∃ c ∈ s.children, ∃ g, c.executed = some g ∧ g ≠ job.group := by
  obtain ⟨s, job, h, hjob, hgroup, -, c, hc, hexecuted⟩ := reaches_shortLived
  exact ⟨s, job, h, rfl, hjob, c, List.mem_of_getElem? hc, 50, hexecuted, by rw [hgroup]; decide⟩

end JobShell.Groups
