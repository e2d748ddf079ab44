import JobShell.Proofs.Estate.Halting

/-! # All stages or none

A launch forks its stages in their order. If a pipe or a process is refused, the processes that are there are killed and
collected, and nothing is left of the launch. -/

namespace JobShell.Estate
open Children (Ending Phase)

variable {reaper : Prop} {s₀ : State} {k : State × List Noted} {mine : Set Pid} {d : Descriptors.Table} {pid : Pid}

/-! ### Descriptors of a launch -/

/-- The table behind the close of a descriptor that may be missing. -/
def closed (d : Descriptors.Table) : Option Descriptor → Descriptors.Table
  | none => d
  | some fd => d.clear fd

/-- A pipe is gone when both its ends are closed, whenever this is. -/
theorem closed_pipe {reader writer : Descriptor} {a b : Descriptors.Entry} (hr : d reader = none)
    (hw : d writer = none) (held : Option Descriptor) :
    ((closed ((d.set reader a).set writer b) held).clear writer).clear reader = closed d held ∧
      closed ((((d.set reader a).set writer b).clear reader).clear writer) held = closed d held := by
  constructor <;> funext fd <;> cases held <;>
    simp only [closed, Descriptors.Table.clear, Descriptors.Table.set, Function.update_apply] <;> split_ifs <;> simp_all

/-- One descriptor is closed. -/
theorem ensures_drop (h : Stands reaper s₀ mine d k.1) (fd : Descriptor) : (Launch.drop fd).Ensures (contract reaper)
    (fun _ k' => Stands reaper s₀ mine (d.clear fd) k'.1 ∧ k'.2 = k.2) k := by
  refine Prog.ensures_perform (pre_close fun _ s hs => Prog.ensures_pure ⟨?_, rfl⟩)
  have hs := h.drifts_stands hs
  have hd : s.descriptors = d := congrArg Own.descriptors hs.own
  exact hd ▸ hs.redescribe _

theorem ensures_dropHeld (h : Stands reaper s₀ mine d k.1) (held : Option Descriptor) :
    (Launch.dropHeld held).Ensures (contract reaper)
      (fun _ k' => Stands reaper s₀ mine (closed d held) k'.1 ∧ k'.2 = k.2) k := by
  cases held with
  | none => exact Prog.ensures_pure ⟨h, rfl⟩
  | some fd => exact ensures_drop h fd

/-! ### Forking the stages -/

theorem ensures_start (h : Stands reaper s₀ mine d k.1) (i : Invocation) (w : Wiring) :
    (Launch.start i w).Ensures (contract reaper) (fun r k' => match r with
      | .ok pid => Stands reaper s₀ (insert pid mine) d k'.1 ∧ k'.2 = k.2 ++ [.forked pid] ∧ (¬ reaper → pid ∉ mine)
      | .error e => Stands reaper s₀ mine d k'.1 ∧ k'.2 = k.2 ++ [.refused (.fork e)]) k := by
  refine Launch.ensures_start_of (fun _ _ => ignores_of_quiet (.setGroup _ _) trivial fun _ => rfl) ?_
  refine pre_fork (fun s pid hs hpos hfree => ?_) fun e => ⟨h, rfl⟩
  have hs := h.drifts_stands hs
  exact ⟨hs.fork hpos hfree, rfl, fun hr hmem => hs.there hr pid hmem hfree⟩

/-- The calls that fork as many stages as there are: a pipe and a process for each stage but the last, and a process for
the last. The first call that is refused ends them. -/
inductive Spawning : Nat → List Noted → List Pid → Option Failure → Prop
  | nothing : Spawning 0 [] [] none
  | last (pid : Pid) : Spawning 1 [.forked pid] [pid] none
  | lastRefused (e : Errno) : Spawning 1 [.refused (.fork e)] [] (some (.fork e))
  | pipeRefused (n : Nat) (e : Errno) : Spawning (n + 2) [.refused (.pipe e)] [] (some (.pipe e))
  | forkRefused (n : Nat) (e : Errno) : Spawning (n + 2) [.pipe, .refused (.fork e)] [] (some (.fork e))
  | next {n : Nat} {made : List Noted} {pids : List Pid} {f : Option Failure} (pid : Pid)
      (h : Spawning (n + 1) made pids f) : Spawning (n + 2) (.pipe :: .forked pid :: made) (pid :: pids) f

theorem Spawning.length {n : Nat} {made : List Noted} {pids : List Pid} (h : Spawning n made pids none) :
    pids.length = n := by
  generalize hf : (none : Option Failure) = f at h
  induction h with
  | nothing | last => rfl
  | next pid _ ih => rw [List.length_cons, ih hf]
  | _ => cases hf

/-- The process that a note says to be forked. -/
def Noted.forked? : Noted → Option Pid
  | .forked pid => some pid
  | _ => none

theorem Spawning.forked {n : Nat} {made : List Noted} {pids : List Pid} {f : Option Failure}
    (h : Spawning n made pids f) : made.filterMap Noted.forked? = pids := by
  induction h with
  | next pid _ ih => exact congrArg (pid :: ·) ih
  | _ => rfl

theorem Spawning.mem_of_forked {n : Nat} {made : List Noted} {pids : List Pid} {f : Option Failure}
    (h : Spawning n made pids f) (hpid : .forked pid ∈ made) : pid ∈ pids := by
  induction h with
  | next first _ ih =>
    rcases List.mem_cons.mp hpid with he | hpid
    · cases he
    · rcases List.mem_cons.mp hpid with he | hlater
      · cases he
        exact List.mem_cons_self
      · exact List.mem_cons_of_mem _ (ih hlater)
  | last => simpa using hpid
  | _ => simp at hpid

theorem Spawning.refused_mem {n : Nat} {made : List Noted} {pids : List Pid} {f : Failure}
    (h : Spawning n made pids (some f)) : .refused f ∈ made := by
  generalize hf : some f = failure at h
  induction h with
  | nothing | last => cases hf
  | next pid _ ih => exact List.mem_cons_of_mem _ (List.mem_cons_of_mem _ (ih hf))
  | _ =>
    cases hf
    simp

theorem insert_union_mem (pid : Pid) (pids : List Pid) (mine : Set Pid) :
    insert pid mine ∪ {q | q ∈ pids} = mine ∪ {q | q ∈ pid :: pids} := by
  ext q
  simp only [Set.mem_union, Set.mem_insert_iff, Set.mem_ofPred_eq, List.mem_cons]
  tauto

theorem ensures_spawnStages {group : Option Pid} {held : Option Descriptor} {stages : List Invocation}
    (hheld : stages = [] → held = none) (h : Stands reaper s₀ mine d k.1) :
    (Launch.spawnStages group held stages).Ensures (contract reaper) (fun r k' => ∃ made,
      Spawning stages.length made r.1 r.2 ∧ k'.2 = k.2 ++ made ∧
      Stands reaper s₀ (mine ∪ {q | q ∈ r.1}) (closed d held) k'.1 ∧
      (¬ reaper → r.1.Nodup ∧ ∀ pid ∈ r.1, pid ∉ mine)) k := by
  have hnone : mine ∪ {q | q ∈ ([] : List Pid)} = mine := by simp
  induction stages generalizing group held mine d k with
  | nil =>
    obtain rfl := hheld rfl
    exact Prog.ensures_pure ⟨[], .nothing, (List.append_nil _).symm, hnone.symm ▸ h, by simp⟩
  | cons stage rest ih =>
    -- The last stage has no pipe behind it.
    cases rest with
    | nil =>
      refine Prog.ensures_bind ((ensures_start h stage _).mono ?_)
      rintro (e | pid) k₁ h₁
      · obtain ⟨h₁, hn₁⟩ := h₁
        refine Prog.ensures_bind ((ensures_dropHeld h₁ held).mono ?_)
        rintro _ k₂ ⟨h₂, hn₂⟩
        exact Prog.ensures_pure ⟨_, .lastRefused e, hn₂.trans hn₁, hnone.symm ▸ h₂, by simp⟩
      · obtain ⟨h₁, hn₁, hnew⟩ := h₁
        refine Prog.ensures_bind ((ensures_dropHeld h₁ held).mono ?_)
        rintro _ k₂ ⟨h₂, hn₂⟩
        refine Prog.ensures_pure ⟨_, .last pid, hn₂.trans hn₁, ?_, fun hr =>
          ⟨List.pairwise_singleton _ pid, List.forall_mem_singleton.mpr (hnew hr)⟩⟩
        rw [← insert_union_mem, show {q | q ∈ ([] : List Pid)} = (∅ : Set Pid) by simp, Set.union_empty]
        exact h₂
    | cons next rest =>
      refine Prog.ensures_perform (pre_pipe (fun s reader writer n hs hne hr hw => ?_) fun e => ?_)
      · have hs := h.drifts_stands hs
        obtain rfl : s.descriptors = d := congrArg Own.descriptors hs.own
        have h₁ := hs.redescribe ((s.descriptors.set reader ⟨.reader n, true⟩).set writer ⟨.writer n, true⟩)
        obtain ⟨hclosed, habandoned⟩ := closed_pipe hr hw held
        refine Prog.ensures_bind ((ensures_start (k := (_, _)) h₁ stage _).mono ?_)
        rintro (e | pid) k₂ h₂
        · obtain ⟨h₂, hn₂⟩ := h₂
          refine Prog.ensures_bind ((ensures_drop h₂ reader).mono ?_)
          rintro _ k₃ ⟨h₃, hn₃⟩
          refine Prog.ensures_bind ((ensures_drop h₃ writer).mono ?_)
          rintro _ k₄ ⟨h₄, hn₄⟩
          refine Prog.ensures_bind ((ensures_dropHeld h₄ held).mono ?_)
          rintro _ k₅ ⟨h₅, hn₅⟩
          rw [habandoned] at h₅
          refine Prog.ensures_pure ⟨_, .forkRefused _ e, ?_, hnone.symm ▸ h₅, by simp⟩
          rw [hn₅, hn₄, hn₃, hn₂, List.append_assoc]
          rfl
        · obtain ⟨h₂, hn₂, hnew⟩ := h₂
          refine Prog.ensures_bind ((ensures_dropHeld h₂ held).mono ?_)
          rintro _ k₃ ⟨h₃, hn₃⟩
          refine Prog.ensures_bind ((ensures_drop h₃ writer).mono ?_)
          rintro _ k₄ ⟨h₄, hn₄⟩
          refine Prog.ensures_bind ((ih (by simp) h₄ (by simp)).mono ?_)
          rintro ⟨pids, f⟩ k₅ ⟨made, hmade, hn₅, h₅, hnodup⟩
          rw [closed, hclosed, insert_union_mem] at h₅
          refine Prog.ensures_pure ⟨_, .next pid hmade, ?_, h₅, fun hr => ?_⟩
          · rw [hn₅, hn₄, hn₃, hn₂, List.append_assoc, List.append_assoc]
            rfl
          · obtain ⟨hpids, hothers⟩ := hnodup hr
            refine ⟨List.nodup_cons.mpr ⟨fun hmem => hothers pid hmem (Set.mem_insert _ _), hpids⟩, ?_⟩
            exact List.forall_mem_cons.mpr ⟨hnew hr, fun q hq hmem => hothers q hq (Set.mem_insert_of_mem _ hmem)⟩
      · refine Prog.ensures_bind ((ensures_dropHeld (k := (k.1, k.2 ++ [.refused (.pipe e)])) h held).mono ?_)
        rintro _ k₂ ⟨h₂, hn₂⟩
        exact Prog.ensures_pure ⟨_, .pipeRefused _ e, hn₂, hnone.symm ▸ h₂, by simp⟩

/-! ### Collecting the stages -/

/-- A child of the launch is waited for, or one that is not there any more. Either the wait collects the child, or the
reaper has done so. -/
theorem ensures_waitFor_mine (h : Stands reaper s₀ mine d k.1) (hpos : 0 < pid)
    (hpid : pid ∈ mine ∨ k.1.children pid = none) : (waitFor pid).Ensures (contract reaper) (fun r k' =>
      Stands reaper s₀ (mine \ {pid}) d k'.1 ∧ (∀ q, q = pid ∨ k.1.children q = none → k'.1.children q = none) ∧
      ((∃ e : Ending, pid ∈ mine ∧ r = e.waited pid ∧ k'.2 = k.2 ++ [.collected pid e]) ∨
        (pid ∈ mine → reaper) ∧ r = .ok none ∧ k'.2 = k.2)) k := by
  refine (ensures_waitFor pid k).mono ?_
  rintro _ _ ⟨s, hs, @⟨q, e, hq, he⟩ | hnobody⟩
  · obtain rfl := hq hpos
    have hmem : q ∈ mine := hpid.resolve_right fun hgone => by
      rw [drifts_childless hs hgone] at he
      cases he
    refine ⟨(h.drifts_stands hs).collect hmem, ?_, .inl ⟨e, hmem, rfl, rfl⟩⟩
    rintro q' (rfl | hgone)
    · simp
    · simp [drifts_childless hs hgone]
  · have hs' := h.drifts_stands hs
    refine ⟨hs'.release (hnobody hpos), ?_, .inr ⟨fun hmem => ?_, rfl, rfl⟩⟩
    · rintro q' (rfl | hgone)
      · exact hnobody hpos
      · exact drifts_childless hs hgone
    · by_contra hr
      exact hs'.there hr pid hmem (hnobody hpos)

/-- Processes are killed and waited for, one after the other. Without a reaper, every wait collects the process. -/
inductive Abandoning (reaper : Prop) : List Pid → List Noted → Prop
  | nil : Abandoning reaper [] []
  | collected {pids : List Pid} {notes : List Noted} (pid : Pid) (e : Ending) (h : Abandoning reaper pids notes) :
      Abandoning reaper (pid :: pids) (.killed pid Signal.kill.number :: .collected pid e :: notes)
  | lost {pids : List Pid} {notes : List Noted} (pid : Pid) (hr : reaper) (h : Abandoning reaper pids notes) :
      Abandoning reaper (pid :: pids) (.killed pid Signal.kill.number :: notes)

theorem Abandoning.not_forked {pids : List Pid} {notes : List Noted} (h : Abandoning reaper pids notes) :
    .forked pid ∉ notes := by
  induction h with
  | nil => exact List.not_mem_nil
  | collected _ _ _ ih => simpa using ih
  | lost _ _ _ ih => simpa using ih

theorem sdiff_singleton_sdiff (pid : Pid) (pids : List Pid) (mine : Set Pid) :
    (mine \ {pid}) \ {q | q ∈ pids} = mine \ {q | q ∈ pid :: pids} := by
  ext q
  simp only [Set.mem_sdiff, Set.mem_singleton_iff, Set.mem_ofPred_eq, List.mem_cons, not_or, and_assoc]

theorem ensures_abandon {pids : List Pid} (h : Stands reaper s₀ mine d k.1)
    (hpids : ∀ pid ∈ pids, 0 < pid ∧ (pid ∈ mine ∨ k.1.children pid = none))
    (hall : ¬ reaper → pids.Nodup ∧ ∀ pid ∈ pids, pid ∈ mine) :
    (Launch.abandon pids).Ensures (contract reaper) (fun _ k' => ∃ notes, Abandoning reaper pids notes ∧
      k'.2 = k.2 ++ notes ∧ Stands reaper s₀ (mine \ {q | q ∈ pids}) d k'.1 ∧
      ∀ q, q ∈ pids ∨ k.1.children q = none → k'.1.children q = none) k := by
  induction pids generalizing mine k with
  | nil => exact Prog.ensures_pure ⟨[], .nil, (List.append_nil _).symm, by simpa using h, by simp⟩
  | cons pid pids ih =>
    obtain ⟨⟨hpos, hpid⟩, hrest⟩ := List.forall_mem_cons.mp hpids
    refine Prog.ensures_perform (pre_quiet (c := .kill pid Signal.kill.number) trivial fun _ => ?_)
    refine Prog.ensures_bind ((ensures_waitFor_mine (k := (k.1, k.2 ++ [.killed pid Signal.kill.number])) h hpos
      hpid).mono ?_)
    rintro r k₁ ⟨h₁, hgone, hnotes⟩
    refine (ih h₁ (fun q hq => ?_) fun hr => ?_).mono ?_
    · obtain ⟨hqpos, hq⟩ := hrest q hq
      refine ⟨hqpos, ?_⟩
      by_cases he : q = pid
      · exact .inr (hgone q (.inl he))
      · exact hq.imp (fun hm => ⟨hm, he⟩) fun hnone => hgone q (.inr hnone)
    · obtain ⟨hnodup, hmem⟩ := hall hr
      obtain ⟨hnot, hnodup⟩ := List.nodup_cons.mp hnodup
      exact ⟨hnodup, fun q hq => ⟨hmem q (List.mem_cons_of_mem _ hq), ne_of_mem_of_not_mem hq hnot⟩⟩
    · rintro _ k₂ ⟨notes, habandon, hn₂, h₂, hgone₂⟩
      rw [sdiff_singleton_sdiff] at h₂
      have hgone₂ : ∀ q, q ∈ pid :: pids ∨ k.1.children q = none → k₂.1.children q = none := by
        intro q hq
        by_cases hmem : q ∈ pids
        · exact hgone₂ q (.inl hmem)
        · exact hgone₂ q (.inr (hgone q (hq.imp_left fun h => (List.mem_cons.mp h).resolve_right hmem)))
      rcases hnotes with ⟨e, -, -, hn₁⟩ | ⟨hr, -, hn₁⟩
      · refine ⟨_, .collected pid e habandon, ?_, h₂, hgone₂⟩
        rw [hn₂, hn₁]
        simp
      · have hreaper : reaper := by
          by_contra hno
          exact hno (hr ((hall hno).2 pid List.mem_cons_self))
        refine ⟨_, .lost pid hreaper habandon, ?_, h₂, hgone₂⟩
        rw [hn₂, hn₁]
        simp

/-- Either all stages are forked, or nothing is left of those that are. -/
theorem ensures_spawn (grouped : Bool) (stages : List Invocation) (k : State × List Noted) :
    (Launch.spawn grouped stages).Ensures (contract reaper) (fun r k' => match r with
      | .ok pids => ∃ made, Spawning stages.length made pids none ∧ k'.2 = k.2 ++ made ∧
          Stands reaper k.1 {q | q ∈ pids} k.1.descriptors k'.1 ∧ (¬ reaper → pids.Nodup)
      | .error f => ∃ made pids notes, Spawning stages.length made pids (some f) ∧ Abandoning reaper pids notes ∧
          k'.2 = k.2 ++ (made ++ notes) ∧ (world reaper).Drifts k.1 k'.1 ∧
          ∀ pid ∈ pids, k'.1.children pid = none) k := by
  refine Prog.ensures_bind ((ensures_spawnStages (fun _ => rfl) (.start reaper k.1)).mono ?_)
  rintro ⟨pids, f⟩ k₁ ⟨made, hmade, hn₁, h₁, hnodup⟩
  rw [Set.empty_union] at h₁
  cases f with
  | none => exact Prog.ensures_pure ⟨made, hmade, hn₁, h₁, fun hr => (hnodup hr).1⟩
  | some f =>
    refine Prog.ensures_bind ((ensures_abandon h₁ (fun pid hpid => ⟨h₁.pos pid hpid, .inl hpid⟩)
      fun hr => ⟨(hnodup hr).1, fun pid hpid => hpid⟩).mono ?_)
    rintro _ k₂ ⟨notes, habandon, hn₂, h₂, hgone⟩
    rw [Set.sdiff_self] at h₂
    exact Prog.ensures_pure ⟨made, pids, notes, hmade, habandon, by rw [hn₂, hn₁, List.append_assoc], h₂.drifts,
      fun pid hpid => hgone pid (.inl hpid)⟩

/-- Whatever the descriptors are, whichever call is refused and however the stages end: spawning them comes to an end.
If no call is refused, it answers the processes of all stages in their order, and has sent no signal. If a pipe or a
process is refused, it answers this failure: exactly the stages before have been forked, each of them has been killed,
and none of them is left, be it that the wait for it or the reaper has collected it. In either case the descriptors are
as before. -/
theorem spawn_all_or_nothing (reaper : Prop) (grouped : Bool) (stages : List Invocation) (s : State)
    (notes : List Noted) : Prog.Concludes (noted reaper) (fun r k' => k'.1.descriptors = s.descriptors ∧
      match r with
      | .ok pids => pids.length = stages.length ∧
          ∃ made, Spawning stages.length made pids none ∧ k'.2 = notes ++ made
      | .error f => ∃ made pids abandoned, Spawning stages.length made pids (some f) ∧
          Abandoning reaper pids abandoned ∧ k'.2 = notes ++ (made ++ abandoned) ∧
          ∀ pid ∈ pids, k'.1.children pid = none) (s, notes) (Launch.spawn grouped stages) := by
  refine ((Launch.halts_spawn grouped stages (s, notes)).concludes .refl (ensures_spawn grouped stages _)).mono ?_
  rintro r k' ⟨k₁, hk, hr⟩
  obtain ⟨hdrifts, hnotes⟩ := Surroundings.noting_drifts_iff.mp hk
  have hown : k'.1.descriptors = k₁.1.descriptors := congrArg Own.descriptors (drifts_own hdrifts)
  cases r with
  | ok pids =>
    obtain ⟨made, hmade, hn, h, -⟩ := hr
    exact ⟨hown.trans (congrArg Own.descriptors h.own), hmade.length, made, hmade, hnotes.trans hn⟩
  | error f =>
    obtain ⟨made, pids, abandoned, hmade, habandon, hn, h, hgone⟩ := hr
    exact ⟨hown.trans (congrArg Own.descriptors (drifts_own h)), made, pids, abandoned, hmade, habandon,
      hnotes.trans hn, fun pid hpid => drifts_childless hdrifts (hgone pid hpid)⟩

end JobShell.Estate
